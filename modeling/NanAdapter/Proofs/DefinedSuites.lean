import Mathlib.Data.List.Basic
import Mathlib.Data.Nat.Bitwise
import NanAdapter.Proofs.TraceRoundTrip

/-! Which bits a set of cipher suites can have. There are four suites, and whoever builds a set from them, from a mask
or from other sets gets no other bits. A document is not asked: every bit of its number is kept. What is kept that way
is in no list of suites, and a set of nothing else is shown as an empty text. -/

namespace NanAdapter

namespace CipherSuites

/-- The four suites that there are. -/
def defined : List CipherSuites := suites.map (·.1)

/-- The suites of the set, lowest bit first. -/
def members (s : CipherSuites) : List CipherSuites := s.toList.map (·.1)

/-- All suites of some sets. -/
def union (sets : List CipherSuites) : CipherSuites := sets.foldl insert none

/-- No bits but those of the four suites. -/
def IsDefined (s : CipherSuites) : Prop := s.bits &&& ~~~0xF = 0

instance (s : CipherSuites) : Decidable s.IsDefined := inferInstanceAs (Decidable (_ = _))

/-! One bit of a mask -/

/-- A mask has all of a suite or nothing of it. -/
def IsSingle (s : CipherSuites) : Prop := ∃ place, s.bits.toNat = 2 ^ place

theorem single_of_defined {suite : CipherSuites} (listed : suite ∈ defined) : suite.IsSingle := by
  have places : ∀ suite ∈ defined, suite.bits.toNat = 2 ^ 0 ∨ suite.bits.toNat = 2 ^ 1 ∨
      suite.bits.toNat = 2 ^ 2 ∨ suite.bits.toNat = 2 ^ 3 := by decide
  obtain first | second | third | fourth := places suite listed
  · exact ⟨0, first⟩
  · exact ⟨1, second⟩
  · exact ⟨2, third⟩
  · exact ⟨3, fourth⟩

theorem IsSingle.ne_zero {suite : CipherSuites} (single : suite.IsSingle) : suite.bits ≠ 0 := by
  obtain ⟨place, bit⟩ := single
  intro zero
  rw [zero] at bit
  exact (Nat.two_pow_pos place).ne bit

theorem IsSingle.and_eq {suite : CipherSuites} (single : suite.IsSingle) (mask : UInt32) :
    mask &&& suite.bits = 0 ∨ mask &&& suite.bits = suite.bits := by
  obtain ⟨place, bit⟩ := single
  have both : (mask &&& suite.bits).toNat = (mask.toNat.testBit place).toNat * 2 ^ place := by
    rw [UInt32.toNat_and, bit, Nat.and_two_pow]
  cases set : mask.toNat.testBit place with
  | false =>
    apply Or.inl
    apply UInt32.toNat_inj.mp
    simp [both, set]
  | true =>
    apply Or.inr
    apply UInt32.toNat_inj.mp
    simp [both, set, bit]

theorem IsSingle.contains_iff {suite : CipherSuites} (single : suite.IsSingle) (s : CipherSuites) :
    s.contains suite = true ↔ s.bits &&& suite.bits ≠ 0 := by
  rw [contains, decide_eq_true_eq]
  constructor
  · intro whole
    rw [whole]
    exact single.ne_zero
  · intro some
    exact (single.and_eq s.bits).resolve_left some

theorem and_or (mask a b : UInt32) : mask &&& (a ||| b) = mask &&& a ||| mask &&& b := by
  apply UInt32.toNat_inj.mp
  simp only [UInt32.toNat_and, UInt32.toNat_or, Nat.and_or_distrib_left]

/-! Sets put together -/

theorem insert_assoc (s t u : CipherSuites) : (s.insert t).insert u = s.insert (t.insert u) :=
  congrArg mk (UInt32.or_assoc s.bits t.bits u.bits)

theorem insert_none (s : CipherSuites) : s.insert none = s := congrArg mk UInt32.or_zero

theorem none_insert (s : CipherSuites) : none.insert s = s := congrArg mk UInt32.zero_or

theorem foldl_insert (sets : List CipherSuites) (start : CipherSuites) :
    sets.foldl insert start = start.insert (union sets) := by
  induction sets generalizing start with
  | nil => exact (insert_none start).symm
  | cons first rest ih =>
    have whole : union (first :: rest) = first.insert (union rest) := by
      rw [union, List.foldl_cons, none_insert, ih]
    rw [whole, List.foldl_cons, ih, insert_assoc]

theorem union_cons (first : CipherSuites) (rest : List CipherSuites) :
    union (first :: rest) = first.insert (union rest) := by
  rw [union, List.foldl_cons, none_insert, foldl_insert]

/-- Of some suites those that a mask has a bit of, put to others, are the bits that the mask shares with all of them. -/
theorem foldl_chosen {list : List CipherSuites} (single : ∀ suite ∈ list, suite.IsSingle) (mask : UInt32)
    (start : CipherSuites) :
    list.foldl (fun s suite => if mask &&& suite.bits ≠ 0 then s.insert suite else s) start =
      start.insert ⟨mask &&& (union list).bits⟩ := by
  induction list generalizing start with
  | nil => exact (congrArg start.insert (congrArg mk UInt32.and_zero)).trans (insert_none start) |>.symm
  | cons suite rest ih =>
    obtain ⟨first, later⟩ := List.forall_mem_cons.mp single
    have chosen : (if mask &&& suite.bits ≠ 0 then start.insert suite else start) =
        start.insert ⟨mask &&& suite.bits⟩ := by
      obtain nothing | all := first.and_eq mask
      · rw [if_neg (not_not.mpr nothing), nothing]
        exact (insert_none start).symm
      · rw [all, if_pos first.ne_zero]
    rw [List.foldl_cons, chosen, ih later, insert_assoc, union_cons]
    exact congrArg start.insert (congrArg mk (and_or mask suite.bits (union rest).bits).symm)

theorem union_defined : union defined = ⟨0xF⟩ := rfl

/-- A mask stands for its four lowest bits. -/
theorem ofMask_eq_truncate (mask : UInt32) : ofMask mask = truncate mask := by
  have steps : ofMask mask =
      defined.foldl (fun s suite => if mask &&& suite.bits ≠ 0 then s.insert suite else s) none := rfl
  rw [steps, foldl_chosen (fun _ => single_of_defined), none_insert, union_defined]
  rfl

theorem members_eq (s : CipherSuites) : s.members = defined.filter s.contains := by
  rw [members, toList, defined, List.filter_map]
  rfl

/-- The suites of a set together are its four lowest bits. -/
theorem union_members (s : CipherSuites) : union s.members = truncate s.bits := by
  have chosen : union s.members =
      defined.foldl (fun t suite => if s.bits &&& suite.bits ≠ 0 then t.insert suite else t) none := by
    rw [members_eq, union, List.foldl_filter]
    apply List.foldl_ext
    intro t suite listed
    exact if_congr ((single_of_defined listed).contains_iff s) rfl rfl
  rw [chosen, foldl_chosen (fun _ => single_of_defined), none_insert, union_defined]
  rfl

theorem contains_truncate {suite : CipherSuites} (listed : suite ∈ defined) (s : CipherSuites) :
    (truncate s.bits).contains suite = s.contains suite := by
  have within : ∀ suite ∈ defined, 0xF &&& suite.bits = suite.bits := by decide
  have same : (truncate s.bits).bits &&& suite.bits = s.bits &&& suite.bits := by
    rw [truncate, UInt32.and_assoc, within suite listed]
  rw [contains, contains, same]

/-- Bits beyond the four change nothing about the suites. -/
theorem toList_truncate (s : CipherSuites) : (truncate s.bits).toList = s.toList := by
  apply List.filter_congr
  intro entry listed
  exact contains_truncate (List.mem_map_of_mem listed) s

theorem members_eq_nil {s : CipherSuites} : s.members = [] ↔ truncate s.bits = none := by
  constructor
  · intro nothing
    rw [← union_members, nothing]
    rfl
  · intro nothing
    rw [members, ← toList_truncate, nothing]
    rfl

theorem isDefined_iff {s : CipherSuites} : s.IsDefined ↔ truncate s.bits = s := by
  have parts : (truncate s.bits).bits ||| s.bits &&& ~~~0xF = s.bits := by
    rw [truncate, ← and_or]
    have all : (0xF : UInt32) ||| ~~~0xF = -1 := by decide
    rw [all, UInt32.and_neg_one]
  constructor
  · intro known
    rw [known, UInt32.or_zero] at parts
    exact congrArg mk parts
  · intro same
    rw [IsDefined, ← congrArg bits same, truncate, UInt32.and_assoc]
    exact UInt32.and_zero

/-! What a set is shown as -/

private theorem intercalate_begins {first : String} {rest : List String} :
    first.toList <+: ("|".intercalate (first :: rest)).toList := by
  cases rest with
  | nil => exact ⟨[], by rw [List.append_nil, String.intercalate_singleton]⟩
  | cons second rest =>
    rw [String.intercalate_cons_cons, String.toList_append, String.toList_append, List.append_assoc]
    exact List.prefix_append _ _

/-- Every name begins alike, and so does a text with names in it. -/
theorem text_begins {s : CipherSuites} (shown : s.names ≠ []) :
    "NCS_".toList <+: ("|".intercalate s.names).toList := by
  have alike : ∀ entry ∈ suites, "NCS_".toList <+: entry.2.toList := by decide
  obtain ⟨first, rest, listed⟩ := List.exists_cons_of_ne_nil shown
  have member : first ∈ s.names := by
    rw [listed]
    exact List.mem_cons_self
  obtain ⟨entry, chosen, rfl⟩ := List.mem_map.mp member
  rw [listed]
  exact (alike entry (List.mem_of_mem_filter chosen)).trans intercalate_begins

theorem names_eq_nil {s : CipherSuites} : s.names = [] ↔ s.members = [] :=
  List.map_eq_nil_iff.trans List.map_eq_nil_iff.symm

theorem text_eq_none {s : CipherSuites} : s.text = "NONE" ↔ s.isEmpty = true := by
  constructor
  · intro same
    apply Classical.byContradiction
    intro occupied
    rw [text, if_neg occupied] at same
    cases shown : s.names with
    | nil =>
      rw [shown] at same
      exact absurd same (by decide)
    | cons first rest =>
      have begins := text_begins (s := s) (by rw [shown]; exact List.cons_ne_nil first rest)
      rw [same] at begins
      exact absurd begins (by decide)
  · intro vacant
    exact if_pos vacant

/-- Only a set of bits that mean nothing has an empty text. -/
theorem text_eq_empty {s : CipherSuites} : s.text = "" ↔ s.isEmpty = false ∧ s.members = [] := by
  cases vacant : s.isEmpty with
  | true =>
    rw [text, if_pos vacant]
    exact iff_of_false (by decide) fun both => absurd both.1 (by decide)
  | false =>
    rw [text, if_neg (by rw [vacant]; decide), ← names_eq_nil]
    constructor
    · intro same
      apply And.intro rfl
      apply Classical.byContradiction
      intro shown
      have begins := text_begins shown
      rw [same] at begins
      exact absurd begins (by decide)
    · intro both
      rw [both.2, String.intercalate_nil]

/-! Where sets come from -/

/-- A set that can be had, and the numbers that were taken from documents on the way to it. -/
inductive Obtained : List UInt32 → CipherSuites → Prop where
  | none : Obtained [] .none
  | suite {s : CipherSuites} (listed : s ∈ defined) : Obtained [] s
  | truncate (bits : UInt32) : Obtained [] (truncate bits)
  | ofMask (mask : UInt32) : Obtained [] (ofMask mask)
  | insert {numbers others : List UInt32} {s t : CipherSuites} (first : Obtained numbers s)
      (second : Obtained others t) : Obtained (numbers ++ others) (s.insert t)
  | document {φ : Type} {blame : φ → Fault} {source : Source} {doc : Doc φ} {s : CipherSuites}
      (taken : schema.read blame source doc = .ok s) : Obtained [s.bits] s
  | capabilities {φ : Type} {blame : φ → Fault} {source : Source} {doc : Doc φ} {c : Capabilities}
      (taken : Capabilities.schema.read blame source doc = .ok c) : Obtained [c.ciphers.bits] c.ciphers

theorem isDefined_truncate (bits : UInt32) : (truncate bits).IsDefined := by
  rw [isDefined_iff, truncate, truncate, UInt32.and_assoc, UInt32.and_self]

theorem isDefined_insert {s t : CipherSuites} : (s.insert t).IsDefined ↔ s.IsDefined ∧ t.IsDefined := by
  have shared : (s.insert t).bits &&& ~~~0xF = s.bits &&& ~~~0xF ||| t.bits &&& ~~~0xF := by
    rw [insert, UInt32.and_comm, and_or, UInt32.and_comm, UInt32.and_comm _ t.bits]
  rw [IsDefined, shared, UInt32.or_eq_zero_iff]
  rfl

theorem isDefined_of_defined {s : CipherSuites} (listed : s ∈ defined) : s.IsDefined := by
  have known : ∀ suite ∈ defined, suite.IsDefined := by decide
  exact known s listed

/-- The set has no bits but those of the suites, unless a document brought some. -/
theorem Obtained.isDefined {numbers : List UInt32} {s : CipherSuites} (obtained : Obtained numbers s) :
    s.IsDefined ↔ ∀ n ∈ numbers, IsDefined ⟨n⟩ := by
  have nothing {s : CipherSuites} (known : s.IsDefined) : s.IsDefined ↔ ∀ n ∈ ([] : List UInt32), IsDefined ⟨n⟩ :=
    iff_of_true known (List.forall_mem_nil _)
  induction obtained with
  | none => exact nothing (by decide)
  | suite listed => exact nothing (isDefined_of_defined listed)
  | truncate bits => exact nothing (isDefined_truncate bits)
  | ofMask mask =>
    apply nothing
    rw [ofMask_eq_truncate]
    exact isDefined_truncate mask
  | insert first second known knowns =>
    exact isDefined_insert.trans ((and_congr known knowns).trans List.forall_mem_append.symm)
  | document taken | capabilities taken => exact (List.forall_mem_singleton (p := fun n => IsDefined ⟨n⟩)).symm

/-- Any number that a document gives for a set is taken as its bits. -/
theorem read_number {φ : Type} (blame : φ → Fault) (source : Source) (bits : UInt32) :
    schema.read blame source (.int bits.toNat) = .ok ⟨bits⟩ := by
  have lawful : schema.Lawful 0 := schema_lawful
  exact lawful.reads blame source ⟨bits⟩

/-- Undefined bits come from documents and from nowhere else. Unless there are some, a set is all of its suites and its
text is not empty; `NONE` stands for the empty set alone. -/
theorem undefined_bits_come_from_documents {numbers : List UInt32} {s : CipherSuites}
    (obtained : Obtained numbers s) :
    (s.IsDefined ↔ ∀ n ∈ numbers, IsDefined ⟨n⟩) ∧ union s.members = truncate s.bits ∧
      (union s.members = s ↔ s.IsDefined) ∧ (s.text = "NONE" ↔ s.isEmpty = true) ∧
      (s.text = "" ↔ s.isEmpty = false ∧ s.members = []) ∧ (s.IsDefined → s.text ≠ "") := by
  refine ⟨obtained.isDefined, union_members s, ?_, text_eq_none, text_eq_empty, ?_⟩
  · rw [union_members]
    exact isDefined_iff.symm
  · intro known blank
    obtain ⟨occupied, nothing⟩ := text_eq_empty.mp blank
    have same := isDefined_iff.mp known
    rw [members_eq_nil.mp nothing] at same
    rw [← same] at occupied
    exact absurd occupied (by decide)

/-- A document sets one bit that is defined and one that is not, and a suite is added. -/
theorem undefined_bits_come_from_one_document :
    let read : CipherSuites := ⟨18⟩
    let s := read.insert publicKey128
    Obtained [18] s ∧ ¬ s.IsDefined ∧ union s.members = ⟨6⟩ ∧ s.text = "NCS_SK_256|NCS_PK_128" := by
  intro read s
  have taken : Obtained [18] read := .document (read_number Empty.elim .parsed 18)
  have obtained : Obtained [18] s := taken.insert (.suite (by decide))
  obtain ⟨known, together, -⟩ := undefined_bits_come_from_documents obtained
  refine ⟨obtained, ?_, together.trans (by decide), by decide⟩
  rw [known]
  intro allowed
  exact absurd (allowed 18 (List.mem_singleton_self 18)) (by decide)

/-- A text holds a number without any of the four bits. The set is not empty, but no suite is in it and nothing is
shown of it; so it is inside capabilities. -/
theorem undefined_bit_is_kept :
    let s : CipherSuites := ⟨16⟩
    let c : Capabilities := { Capabilities.zero with ciphers := s }
    schema.ofText "16" = .ok s ∧ Capabilities.schema.ofText (Capabilities.schema.print c) = .ok c ∧
      ¬ s.IsDefined ∧ s.isEmpty = false ∧ s.members = [] ∧ union s.members ≠ s ∧ s.text = "" := by
  intro s c
  exact ⟨by decide +kernel, Capabilities.schema_lawful.recovers.text c, by decide, rfl, by decide, by decide, by decide⟩

end CipherSuites

end NanAdapter
