import NanAdapter.Proofs.ReportedSuites

/-! Masks from the HAL as sets. A mask is translated suite by suite and a set is made of bits, and the two agree on
everything that sets are used for: joining them, comparing them, listing what is in them and showing it. -/

namespace NanAdapter

namespace CipherSuites

/-- Of the bits of a mask the lowest four are kept. -/
theorem testBit_truncate (bits : UInt32) (place : Nat) :
    (truncate bits).bits.toNat.testBit place = (bits.toNat.testBit place && decide (place < 4)) := by
  have four : (0xF : UInt32).toNat = 2 ^ 4 - 1 := rfl
  rw [truncate, UInt32.toNat_and, four, Nat.testBit_and, Nat.testBit_two_pow_sub_one]

theorem contains_iff {s t : CipherSuites} : s.contains t = true ↔
    ∀ place, t.bits.toNat.testBit place = true → s.bits.toNat.testBit place = true := by
  rw [contains, decide_eq_true_eq, ← UInt32.toNat_inj, UInt32.toNat_and]
  constructor
  · intro shared place set
    rw [← shared, Nat.testBit_and] at set
    exact (Bool.and_eq_true _ _).mp set |>.1
  · intro included
    apply Nat.eq_of_testBit_eq
    intro place
    rw [Nat.testBit_and]
    cases set : t.bits.toNat.testBit place with
    | false => exact Bool.and_false _
    | true => rw [included place set, Bool.and_true]

theorem contains_truncate_iff (a b : UInt32) : (truncate a).contains (truncate b) = true ↔
    ∀ place < 4, b.toNat.testBit place = true → a.toNat.testBit place = true := by
  simp only [contains_iff, testBit_truncate, Bool.and_eq_true, decide_eq_true_eq]
  constructor
  · intro included place low set
    exact (included place ⟨set, low⟩).1
  · intro included place ⟨set, low⟩
    exact ⟨included place low set, low⟩

theorem truncate_or (a b : UInt32) : truncate (a ||| b) = truncate a ||| truncate b := by
  have parts : (a ||| b) &&& 0xF = a &&& 0xF ||| b &&& 0xF := by
    rw [UInt32.and_comm, and_or, UInt32.and_comm, UInt32.and_comm _ b]
  exact congrArg mk parts

/-- The suites of a set are listed from the lowest bit on, and none of them twice. -/
theorem members_pairwise (s : CipherSuites) : s.members.Pairwise fun first later => first.bits < later.bits := by
  have ascending : defined.Pairwise fun first later => first.bits < later.bits := by decide
  rw [members_eq]
  exact ascending.filter s.contains

/-- The name of a suite is what it is shown as when it is alone. -/
theorem names_eq (s : CipherSuites) : s.names = s.members.map text := by
  have named : ∀ entry ∈ suites, entry.2 = entry.1.text := by decide
  rw [names, members, List.map_map]
  apply List.map_congr_left
  intro entry chosen
  exact named entry (List.mem_of_mem_filter chosen)

theorem isEmpty_iff {s : CipherSuites} (known : s.IsDefined) : s.isEmpty = true ↔ s.members = [] := by
  rw [members_eq_nil, isDefined_iff.mp known, isEmpty, decide_eq_true_eq]
  exact ⟨congrArg mk, congrArg bits⟩

theorem text_of_isDefined {s : CipherSuites} (known : s.IsDefined) :
    s.text = if s.members = [] then "NONE" else "|".intercalate (s.members.map text) := by
  rw [text, names_eq]
  exact if_congr (isEmpty_iff known) rfl rfl

/-- Suite by suite or all bits at once, a mask is translated to the same set. Joining masks joins their sets, one set is
inside another if its low bits are, and a set is listed and shown as the suites whose bits the mask has. -/
theorem masks_are_translated_as_sets (a b : UInt32) :
    ofMask a = truncate a ∧
      (ofMask (a ||| b) = ofMask a ||| ofMask b ∧ ofMask (a ||| b) = (ofMask a).insert (ofMask b)) ∧
      ((ofMask a).contains (ofMask b) = true ↔
        ∀ place < 4, b.toNat.testBit place = true → a.toNat.testBit place = true) ∧
      let chosen := (halBits.filter fun entry => a &&& entry.1 ≠ 0).map (·.2)
      ((ofMask a).members = chosen ∧ chosen.Pairwise (fun first later => first.bits < later.bits) ∧
        union chosen = ofMask a) ∧
      ((ofMask a).text = if chosen = [] then "NONE" else "|".intercalate (chosen.map text)) ∧
      ((ofMask a).text = "NONE" ↔ chosen = []) ∧
      defined.map text = ["NCS_SK_128", "NCS_SK_256", "NCS_PK_128", "NCS_PK_256"] := by
  have known : (ofMask a).IsDefined := by
    rw [ofMask_eq_truncate]
    exact isDefined_truncate a
  have joined : ofMask (a ||| b) = ofMask a ||| ofMask b := by
    simp only [ofMask_eq_truncate, truncate_or]
  refine ⟨ofMask_eq_truncate a, ⟨joined, joined⟩, ?_, ?_⟩
  · simp only [ofMask_eq_truncate]
    exact contains_truncate_iff a b
  · intro chosen
    have listed : chosen = (ofMask a).members := (members_ofMask a).symm
    rw [listed]
    refine ⟨⟨rfl, members_pairwise _, ?_⟩, text_of_isDefined known, ?_, by decide⟩
    · rw [union_members]
      exact isDefined_iff.mp known
    · rw [text_eq_none]
      exact isEmpty_iff known

end CipherSuites

end NanAdapter
