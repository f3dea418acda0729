import NanAdapter.Proofs.Objects

/-! What is read of an object when its members are put in another order, or some of them are exchanged for
others that are read alike. No name has to be the only one of its kind, and nothing has to be of its type: then
both objects may be refused, but never one of them alone. -/

namespace NanAdapter

namespace Json

def named (name : String) (members : List (String × Json)) : List (String × Json) :=
  members.filter fun member => member.1 = name

def unnamed (name : String) (members : List (String × Json)) : List (String × Json) :=
  members.filter fun member => member.1 ≠ name

section Named
variable {name key : String} {json : Json} {members : List (String × Json)}

theorem named_same : named name ((name, json) :: members) = (name, json) :: named name members :=
  List.filter_cons_of_pos (by simp)

theorem named_other (other : key ≠ name) : named name ((key, json) :: members) = named name members :=
  List.filter_cons_of_neg (by simpa using other)

theorem unnamed_same : unnamed name ((name, json) :: members) = unnamed name members :=
  List.filter_cons_of_neg (by simp)

theorem unnamed_other (other : key ≠ name) :
    unnamed name ((key, json) :: members) = (key, json) :: unnamed name members :=
  List.filter_cons_of_pos (by simpa using other)

theorem named_append (name : String) (first later : List (String × Json)) :
    named name (first ++ later) = named name first ++ named name later :=
  List.filter_append ..

theorem unnamed_append (name : String) (first later : List (String × Json)) :
    unnamed name (first ++ later) = unnamed name first ++ unnamed name later :=
  List.filter_append ..

end Named

/-- A tag is there once and stands for that. -/
def Tells {κ : Type} (readLabel : Json → Except Fault κ) (tag : String) (members : List (String × Json)) (k : κ) :
    Prop :=
  ∃ label, named tag members = [(tag, label)] ∧ readLabel label = .ok k

theorem tells_same {κ : Type} {readLabel : Json → Except Fault κ} {tag : String} {json : Json}
    {members : List (String × Json)} {k : κ} :
    Tells readLabel tag ((tag, json) :: members) k ↔ named tag members = [] ∧ readLabel json = .ok k := by
  rw [Tells, named_same]
  simp

theorem tells_other {κ : Type} {readLabel : Json → Except Fault κ} {tag key : String} {json : Json}
    {members : List (String × Json)} {k : κ} (other : key ≠ tag) :
    Tells readLabel tag ((key, json) :: members) k ↔ Tells readLabel tag members k := by
  rw [Tells, Tells, named_other other]

end Json

/-- The same value is read of either document when it was held back, or of neither. -/
def Schema.Same (schema : Schema α) (given other : Json) : Prop :=
  ∀ value, schema.held given = .ok value ↔ schema.held other = .ok value

theorem Schema.Same.refl (schema : Schema α) (json : Json) : schema.Same json json := fun _ => Iff.rfl

namespace Names
variable {names : Names κ} {source : Source} {k : κ}

theorem readTag_lift {φ : Type} (blame : φ → Fault) (label : Json) :
    names.readTag blame source label.lift = .ok k ↔ names.readTag Empty.elim source label = .ok k := by
  cases label with
  | flawed flaw => exact flaw.reading.elim
  | str _ | int _ => rfl
  | null | bool _ | real _ | arr _ | obj _ => simp [Doc.lift, readTag]

/-- The place of a name counts as the name only where a document was held back. -/
theorem readTag_held {label : Json} (read : names.readTag Empty.elim source label = .ok k) :
    names.readTag Empty.elim .held label = .ok k := by
  cases label with
  | int value =>
    rw [readTag] at read ⊢
    by_cases placed : source = .held ∧ 0 ≤ value
    · obtain ⟨rfl, -⟩ := placed
      exact read
    · rw [if_neg placed] at read
      cases read
  | str _ => exact read
  | flawed flaw => exact flaw.reading.elim
  | null | bool _ | real _ | arr _ | obj _ => simp [readTag] at read

end Names

namespace Fields

/-- Puts a member into its slot, if there is one for it. -/
def put (fields : Fields β σ) (key : String) (json : Json) (slots : σ) : Except Fault σ :=
  (fields.offer Empty.elim .held key json slots).map fun found => found.getD slots

theorem gather_put (fields : Fields β σ) (key : String) (json : Json) (members : List (String × Json)) (slots : σ) :
    fields.gather ((key, json) :: members) slots = (fields.put key json slots).bind (fields.gather members) := by
  rw [gather_cons, put]
  cases fields.offer Empty.elim .held key json slots <;> rfl

theorem put_cons {name : String} {schema : Schema α} {default : Option α} {rest : Fields β σ} {key : String}
    {json : Json} {slot slot' : Option α} {slots slots' : σ} :
    (Fields.cons name schema default rest).put key json (slot, slots) = .ok (slot', slots') ↔
      if key = name then slot = none ∧ slots' = slots ∧ ∃ value, schema.held json = .ok value ∧ slot' = some value
      else slot' = slot ∧ rest.put key json slots = .ok slots' := by
  by_cases here : key = name
  · subst here
    rw [if_pos rfl, put]
    cases slot with
    | some value => simp [offer_again, Except.map]
    | none =>
      rw [offer_first, Schema.held]
      cases schema.read Empty.elim .held json with
      | error fault => simp [Except.map]
      | ok value => simp [Except.map, eq_comm, and_comm]
  · rw [if_neg here, put, offer_other schema default rest _ _ here, put]
    cases rest.offer Empty.elim .held key json slots with
    | error fault => simp [Except.map]
    | ok found => cases found <;> simp [Except.map, eq_comm]

/-- Two members fill their slots in either order, and if they want the same slot in none. -/
theorem put_comm : {β σ : Type} → (fields : Fields β σ) → {first second : String × Json} →
    {slots middle filled : σ} → fields.put first.1 first.2 slots = .ok middle →
    fields.put second.1 second.2 middle = .ok filled →
    ∃ other, fields.put second.1 second.2 slots = .ok other ∧ fields.put first.1 first.2 other = .ok filled
  | _, _, .done, _, _, (), (), (), _, _ => ⟨(), rfl, rfl⟩
  | _, _, .cons name schema default rest, (key, json), (key', json'), (slot, slots), (_, _), (_, _), one, two => by
    rw [put_cons] at one two
    simp only [Prod.exists, put_cons]
    by_cases here : key = name
    · rw [if_pos here] at one
      obtain ⟨rfl, rfl, value, held, rfl⟩ := one
      by_cases there : key' = name
      · rw [if_pos there] at two
        cases two.1
      · rw [if_neg there] at two
        obtain ⟨rfl, later⟩ := two
        exact ⟨none, _, (if_neg there).mpr ⟨rfl, later⟩, (if_pos here).mpr ⟨rfl, rfl, value, held, rfl⟩⟩
    · rw [if_neg here] at one
      obtain ⟨rfl, earlier⟩ := one
      by_cases there : key' = name
      · rw [if_pos there] at two
        obtain ⟨rfl, rfl, value, held, rfl⟩ := two
        exact ⟨some value, _, (if_pos there).mpr ⟨rfl, rfl, value, held, rfl⟩, (if_neg here).mpr ⟨rfl, earlier⟩⟩
      · rw [if_neg there] at two
        obtain ⟨rfl, later⟩ := two
        obtain ⟨other, earlier, later⟩ := rest.put_comm earlier later
        exact ⟨_, other, (if_neg there).mpr ⟨rfl, earlier⟩, (if_neg here).mpr ⟨rfl, later⟩⟩
termination_by structural _ _ fields => fields

/-- The slots fill up alike. -/
def Alike (fields : Fields β σ) (given other : List (String × Json)) : Prop :=
  ∀ slots filled, fields.gather given slots = .ok filled ↔ fields.gather other slots = .ok filled

theorem gather_cons_eq_ok {fields : Fields β σ} {key : String} {json : Json} {members : List (String × Json)}
    {slots filled : σ} :
    fields.gather ((key, json) :: members) slots = .ok filled ↔
      ∃ middle, fields.put key json slots = .ok middle ∧ fields.gather members middle = .ok filled := by
  rw [gather_put]
  exact bind_eq_ok

theorem alike_of_perm (fields : Fields β σ) {given other : List (String × Json)} (same : given.Perm other) :
    fields.Alike given other := by
  induction same with
  | nil => exact fun _ _ => Iff.rfl
  | cons member _ ih =>
    intro slots filled
    obtain ⟨key, json⟩ := member
    simp only [gather_cons_eq_ok, ih _ _]
  | swap first second rest =>
    have exchange {first second : String × Json} {slots filled : σ}
        (gathered : fields.gather (first :: second :: rest) slots = .ok filled) :
        fields.gather (second :: first :: rest) slots = .ok filled := by
      obtain ⟨one, early, gathered⟩ := gather_cons_eq_ok.mp gathered
      obtain ⟨two, late, gathered⟩ := gather_cons_eq_ok.mp gathered
      obtain ⟨other, early, late⟩ := fields.put_comm early late
      exact gather_cons_eq_ok.mpr ⟨other, early, gather_cons_eq_ok.mpr ⟨two, late, gathered⟩⟩
    exact fun slots filled => ⟨exchange, exchange⟩
  | trans _ _ first second => exact fun slots filled => (first slots filled).trans (second slots filled)

/-- A member without a slot makes no difference. -/
theorem alike_of_unknown (fields : Fields β σ) {key : String} (unknown : key ∉ fields.names)
    (before : List (String × Json)) (json : Json) (after : List (String × Json)) :
    fields.Alike (before ++ after) (before ++ (key, json) :: after) := by
  intro slots filled
  have first : fields.put key json slots = .ok slots := by
    rw [put, fields.offer_unknown unknown]
    rfl
  rw [fields.alike_of_perm List.perm_middle slots filled, gather_cons_eq_ok]
  constructor
  · exact fun gathered => ⟨slots, first, gathered⟩
  · intro found
    obtain ⟨middle, passed, gathered⟩ := found
    rw [first] at passed
    cases passed
    exact gathered

/-- Two documents for one name are read alike where they are wanted. -/
def SameAt : {β σ : Type} → Fields β σ → (key : String) → (given other : Json) → Prop
  | _, _, .done, _, _, _ => True
  | _, _, .cons name schema _ rest, key, given, other =>
    if key = name then schema.Same given other else rest.SameAt key given other

theorem sameAt_of_same : {β σ : Type} → (fields : Fields β σ) → {given other : Json} →
    (∀ {α : Type} (schema : Schema α), schema.Same given other) → (key : String) → fields.SameAt key given other
  | _, _, .done, _, _, _, _ => trivial
  | _, _, .cons name schema _ rest, _, _, same, key => by
    rw [SameAt]
    split
    · exact same schema
    · exact rest.sameAt_of_same same key
termination_by structural _ _ fields => fields

theorem put_same : {β σ : Type} → {fields : Fields β σ} → {key : String} → {given other : Json} →
    fields.SameAt key given other → {slots filled : σ} →
    (fields.put key given slots = .ok filled ↔ fields.put key other slots = .ok filled)
  | _, _, .done, _, _, _, _, (), () => Iff.rfl
  | _, _, .cons name schema default rest, key, given, other, same, (_, _), (_, _) => by
    rw [SameAt] at same
    rw [put_cons, put_cons]
    split
    next here =>
      rw [if_pos here] at same
      simp only [same _]
    next elsewhere =>
      rw [if_neg elsewhere] at same
      rw [put_same same]
termination_by structural _ _ fields => fields

theorem alike_of_sameAt {fields : Fields β σ} {key : String} {given other : Json} (same : fields.SameAt key given other)
    (before after : List (String × Json)) :
    fields.Alike (before ++ (key, given) :: after) (before ++ (key, other) :: after) := by
  intro slots filled
  rw [fields.alike_of_perm List.perm_middle slots filled, fields.alike_of_perm List.perm_middle slots filled,
    gather_cons_eq_ok, gather_cons_eq_ok]
  simp only [put_same same]

/-! Arrays in the place of objects -/

theorem readItems_cons {name : String} {schema : Schema α} {default : Option α} {rest : Fields β σ} {title : String}
    {taken : Nat} {json : Json} {items : List Json} {value : α} {values : β} :
    (Fields.cons name schema default rest).readItems Empty.elim .held title taken (.ofList (json :: items)) =
        .ok (value, values) ↔
      schema.held json = .ok value ∧
        rest.readItems Empty.elim .held title (taken + 1) (.ofList items) = .ok values := by
  rw [Items.ofList, readItems, bind_eq_ok]
  simp only [bind_eq_ok, pure, Except.pure, Except.ok.injEq, Prod.mk.injEq, Schema.held]
  grind

/-- The elements of two arrays are read alike where they are wanted. -/
def SameItems : {β σ : Type} → Fields β σ → (given other : List Json) → Prop
  | _, _, .cons _ schema _ rest, item :: items, other :: others => schema.Same item other ∧ rest.SameItems items others
  | _, _, _, given, other => given.length = other.length

theorem readItems_same : {β σ : Type} → {fields : Fields β σ} → {given other : List Json} →
    fields.SameItems given other → {title : String} → {taken : Nat} → {values : β} →
    (fields.readItems Empty.elim .held title taken (.ofList given) = .ok values ↔
      fields.readItems Empty.elim .held title taken (.ofList other) = .ok values)
  | _, _, .done, given, other, same, _, _, () => by
    cases given with
    | nil =>
      obtain rfl := List.length_eq_zero_iff.mp same.symm
      rfl
    | cons _ _ =>
      cases other with
      | nil => cases same
      | cons _ _ => simp [Items.ofList, readItems]
  | _, _, .cons name schema default rest, given, other, same, _, _, (_, _) => by
    cases given with
    | nil =>
      obtain rfl := List.length_eq_zero_iff.mp same.symm
      rfl
    | cons _ _ =>
      cases other with
      | nil => cases same
      | cons _ _ =>
        obtain ⟨here, later⟩ := same
        rw [readItems_cons, readItems_cons, here, readItems_same later]
termination_by structural _ _ fields => fields

end Fields

namespace Schema

/-! Records -/

section Record
variable {name : String} {fields : Fields β σ} {shape : Shape β α}

theorem record_object_same {given other : List (String × Json)} (alike : fields.Alike given other) :
    (record name fields shape).Same (Json.object given) (Json.object other) := by
  intro value
  have gathered (members : List (String × Json)) :
      (record name fields shape).held (Json.object members) = .ok value ↔
        ∃ slots, fields.gather members fields.vacant = .ok slots ∧
          ∃ values, fields.fill slots = .ok values ∧ shape.pack values = value := by
    rw [held, Json.object, read]
    simp only [bind_eq_ok, pure, Except.pure, Except.ok.injEq]
    rfl
  simp only [gathered, alike _ _]

theorem record_array_same {given other : List Json} (same : fields.SameItems given other) :
    (record name fields shape).Same (Json.array given) (Json.array other) := by
  intro value
  rw [held, held, Json.array, Json.array, read, read]
  simp only [bind_eq_ok, Fields.readItems_same same]

end Record

/-! Arrays -/

section Arrays
variable {item : Schema α}

theorem Each.congr {given other : List Json} (same : List.Forall₂ item.Same given other) {values : List α} :
    item.Each given values ↔ item.Each other values := by
  induction same generalizing values with
  | nil => rfl
  | cons here _ ih =>
    cases values with
    | nil => simp [Each]
    | cons value values =>
      rw [Each, List.forall₂_cons, List.forall₂_cons, here value]
      exact and_congr_right' ih

theorem list_same {given other : List Json} (same : List.Forall₂ item.Same given other) :
    (list item).Same (Json.array given) (Json.array other) := by
  intro values
  rw [held_list, held_list, Each.congr same]

theorem fixed_same {count : Nat} {given other : List Json} (same : List.Forall₂ item.Same given other) :
    (fixed count item).Same (Json.array given) (Json.array other) := by
  intro values
  rw [held_fixed, held_fixed, Each.congr same]

end Arrays

/-! Objects with a tag: the tag has to be there once -/

section Label
variable {φ κ : Type} {blame : φ → Fault} (tag : String) (readLabel : Json → Except Fault κ)
  {step : Option κ × List (String × Json) → String → Doc φ → Except Fault (Option κ × List (String × Json))}
  (takes : ∀ others json, step (none, others) tag json.lift = (readLabel json).map fun k => (some k, others))
  (refuses : ∀ k others json result, step (some k, others) tag json ≠ .ok result)
  (holds : ∀ k? others key json, key ≠ tag → step (k?, others) key json.lift = .ok (k?, (key, json) :: others))
include refuses holds

private theorem foldM_labelled {members others : List (String × Json)} {k : κ}
    {result : Option κ × List (String × Json)} :
    (Members.ofList members).lift.foldM blame step (some k, others) = .ok result ↔
      Json.named tag members = [] ∧ result = (some k, (Json.unnamed tag members).reverse ++ others) := by
  induction members generalizing others with
  | nil => simp [Members.ofList, Members.lift, Members.foldM, Json.named, Json.unnamed, eq_comm]
  | cons member rest ih =>
    obtain ⟨key, json⟩ := member
    rw [Members.ofList, Members.lift, Members.foldM, bind_eq_ok]
    by_cases here : key = tag
    · subst here
      simp [refuses, Json.named_same]
    · simp [holds _ _ _ _ here, Json.named_other here, Json.unnamed_other here, ih]

include takes

private theorem foldM_unlabelled {next : Option κ × List (String × Json) → Except Fault α} {value : α}
    (needs : ∀ others, next (none, others) ≠ .ok value) {members others : List (String × Json)} :
    ((Members.ofList members).lift.foldM blame step (none, others) >>= next) = .ok value ↔
      ∃ k, Json.Tells readLabel tag members k ∧
        next (some k, (Json.unnamed tag members).reverse ++ others) = .ok value := by
  induction members generalizing others with
  | nil => simp [Members.ofList, Members.lift, Members.foldM, Json.Tells, Json.named, bind, Except.bind, needs]
  | cons member rest ih =>
    obtain ⟨key, json⟩ := member
    rw [Members.ofList, Members.lift, Members.foldM]
    by_cases here : key = tag
    · subst here
      simp only [bind_eq_ok, takes, map_eq_ok, Json.Tells, Json.named_same, Json.unnamed_same]
      constructor
      · intro found
        obtain ⟨_, ⟨_, ⟨k, labelled, rfl⟩, followed⟩, whole⟩ := found
        obtain ⟨alone, rfl⟩ := (foldM_labelled _ refuses holds).mp followed
        exact ⟨k, ⟨json, by rw [alone], labelled⟩, whole⟩
      · intro found
        obtain ⟨k, ⟨label, single, labelled⟩, whole⟩ := found
        obtain ⟨first, alone⟩ := List.cons.inj single
        cases first
        exact ⟨_, ⟨_, ⟨k, labelled, rfl⟩, (foldM_labelled _ refuses holds).mpr ⟨alone, rfl⟩⟩, whole⟩
    · rw [holds _ _ _ _ here, Json.unnamed_other here, List.reverse_cons, List.append_assoc]
      simp only [Json.tells_other here]
      exact ih

end Label

section Tagged
variable {κ : Type} {body slots : κ → Type} {name tag : String} {names : Names κ} {title : κ → String}
  {fields : (k : κ) → Fields (body k) (slots k)} {shape : Shape ((k : κ) × body k) α} {φ : Type} (blame : φ → Fault)
  (source : Source) {value : α}

theorem read_tagged_object {members : List (String × Json)} :
    (tagged name tag names title fields shape).read blame source (Json.object members).lift = .ok value ↔
      ∃ k, Json.Tells (names.readTag Empty.elim source) tag members k ∧
        ∃ slots, (fields k).gather (Json.unnamed tag members) (fields k).vacant = .ok slots ∧
          ∃ values, (fields k).fill slots = .ok values ∧ shape.pack ⟨k, values⟩ = value := by
  rw [Json.object, Doc.lift, read]
  refine (foldM_unlabelled tag (fun json => names.readTag blame source json.lift) ?_ ?_ ?_ ?_).trans ?_
  · exact fun others json => if_pos rfl
  · intro k others json result
    simp
  · intro k? others key json other
    exact (if_neg other).trans (by rw [json.settle_lift]; rfl)
  · intro others impossible
    cases impossible
  · simp only [Json.Tells, names.readTag_lift, bind_eq_ok, List.append_nil, List.reverse_reverse, pure, Except.pure,
      Except.ok.injEq]
    rfl

theorem read_tagged_array {label : Json} {items : List Json} :
    (tagged name tag names title fields shape).read blame source (Json.array (label :: items)).lift = .ok value ↔
      ∃ k, names.readTag Empty.elim source label = .ok k ∧
        ∃ values, (fields k).readItems Empty.elim .held (title k) 0 (.ofList items) = .ok values ∧
          shape.pack ⟨k, values⟩ = value := by
  rw [Json.array, Items.ofList, Doc.lift, Items.lift, read]
  simp only [Items.settle_lift, bind_eq_ok, names.readTag_lift, pure, Except.pure, Except.ok.injEq, exists_eq_left']

end Tagged

/-! Objects with a tag and a content: the content may be missing if that stands for something -/

section Adjacent
variable {κ : Type} {body : κ → Type} {name tag content : String} {names : Names κ} {schema : (k : κ) → Schema (body k)}
  {shape : Shape ((k : κ) × body k) α} {value : α}

/-- What the content is read as, or what stands for it. -/
def Brings (schema : Schema β) (content : String) (members : List (String × Json)) (value : β) : Prop :=
  Json.named content members = [] ∧ schema.absent? = some value ∨
    ∃ json, Json.named content members = [(content, json)] ∧ schema.held json = .ok value

theorem brings_same {schema : Schema β} {json : Json} {members : List (String × Json)} {value : β} :
    schema.Brings content ((content, json) :: members) value ↔
      Json.named content members = [] ∧ schema.held json = .ok value := by
  rw [Brings, Json.named_same]
  simp

theorem brings_other {schema : Schema β} {key : String} (other : key ≠ content) {json : Json}
    {members : List (String × Json)} {value : β} :
    schema.Brings content ((key, json) :: members) value ↔ schema.Brings content members value := by
  rw [Brings, Brings, Json.named_other other]

variable (tag content names schema) in
private def pair (pairing : Pairing κ body) (key : String) (json : Json) : Except Fault (Pairing κ body) :=
  if key = tag then match pairing with
    | .nothing => (names.read Empty.elim .held json).map .tagged
    | .content json' => do
      let k ← names.read Empty.elim .held json
      return .whole ⟨k, ← (schema k).held json'⟩
    | .tagged _ | .whole _ => .error (.refused (.repeated tag))
  else if key = content then match pairing with
    | .nothing => .ok (.content json)
    | .tagged k => do return .whole ⟨k, ← (schema k).held json⟩
    | .content _ | .whole _ => .error (.refused (.repeated content))
  else .ok pairing

variable (tag content schema shape) in
private def close : Pairing κ body → Except Fault α
  | .nothing | .content _ => .error (.refused (.missing tag))
  | .tagged k => match (schema k).absent? with
    | some value => return shape.pack ⟨k, value⟩
    | none => .error (.refused (.missing content))
  | .whole value => return shape.pack value

private theorem held_adjacent_pair (members : List (String × Json)) :
    (adjacent name tag content names schema shape).held (Json.object members) =
      (Members.ofList members).foldM Empty.elim (pair tag content names schema) .nothing >>=
        close tag content schema shape := by
  rw [held, Json.object, read]
  refine congrArg₂ (· >>= ·)
    (congrArg (fun step => Members.foldM Empty.elim step Pairing.nothing (Members.ofList members)) ?_)
    ?_
  · funext pairing key json
    unfold pair
    rw [json.settle_whole, json.pass_whole]
    rfl
  · funext pairing
    cases pairing <;> rfl

variable (tag content names schema) in
/-- What the pairing comes to with the members that are left. -/
private def Ends (members : List (String × Json)) (pairing : Pairing κ body) (whole : (k : κ) × body k) : Prop :=
  ∃ last, (Members.ofList members).foldM Empty.elim (pair tag content names schema) pairing = .ok last ∧
    match last with
    | .nothing | .content _ => False
    | .tagged k => ∃ body, (schema k).absent? = some body ∧ whole = ⟨k, body⟩
    | .whole found => whole = found

private theorem ends_cons {key : String} {json : Json} {members : List (String × Json)} {pairing : Pairing κ body}
    {whole : (k : κ) × body k} :
    Ends tag content names schema ((key, json) :: members) pairing whole ↔
      ∃ next, pair tag content names schema pairing key json = .ok next ∧
        Ends tag content names schema members next whole := by
  simp only [Ends, Members.ofList, Members.foldM, bind_eq_ok]
  constructor
  · intro found
    obtain ⟨last, ⟨next, first, followed⟩, closed⟩ := found
    exact ⟨next, first, last, followed, closed⟩
  · intro found
    obtain ⟨next, first, last, followed, closed⟩ := found
    exact ⟨last, ⟨next, first, followed⟩, closed⟩

private theorem ends_whole {members : List (String × Json)} {found whole : (k : κ) × body k} :
    Ends tag content names schema members (.whole found) whole ↔
      Json.named tag members = [] ∧ Json.named content (Json.unnamed tag members) = [] ∧ whole = found := by
  induction members with
  | nil => simp [Ends, Members.ofList, Members.foldM, Json.named, Json.unnamed]
  | cons member rest ih =>
    obtain ⟨key, json⟩ := member
    rw [ends_cons, pair]
    by_cases here : key = tag
    · subst here
      simp [Json.named_same]
    · by_cases there : key = content
      · subst there
        simp [here, Json.named_other here, Json.unnamed_other here, Json.named_same]
      · simp [here, there, Json.named_other here, Json.unnamed_other here, Json.named_other there, ih]

private theorem ends_tagged {members : List (String × Json)} {k : κ} {whole : (k : κ) × body k} :
    Ends tag content names schema members (.tagged k) whole ↔
      Json.named tag members = [] ∧
        ∃ body, (schema k).Brings content (Json.unnamed tag members) body ∧ whole = ⟨k, body⟩ := by
  induction members with
  | nil => simp [Ends, Members.ofList, Members.foldM, Json.named, Json.unnamed, Brings]
  | cons member rest ih =>
    obtain ⟨key, json⟩ := member
    rw [ends_cons, pair]
    by_cases here : key = tag
    · subst here
      simp [Json.named_same]
    · by_cases there : key = content
      · subst there
        simp only [here, Json.named_other here, Json.unnamed_other here, brings_same, bind_eq_ok, ends_whole, pure,
          Except.pure, Except.ok.injEq, if_true, if_false, ↓existsAndEq, and_true]
        constructor
        · intro found
          obtain ⟨body, taken, untagged, alone, same⟩ := found
          exact ⟨untagged, body, ⟨alone, taken⟩, same⟩
        · intro found
          obtain ⟨untagged, body, ⟨alone, taken⟩, same⟩ := found
          exact ⟨body, taken, untagged, alone, same⟩
      · simp [here, there, Json.named_other here, Json.unnamed_other here, brings_other there, ih]

private theorem ends_content {members : List (String × Json)} {json : Json} {whole : (k : κ) × body k} :
    Ends tag content names schema members (.content json) whole ↔
      Json.named content (Json.unnamed tag members) = [] ∧
        ∃ k, Json.Tells (names.read Empty.elim .held) tag members k ∧
          ∃ body, (schema k).held json = .ok body ∧ whole = ⟨k, body⟩ := by
  induction members with
  | nil => simp [Ends, Members.ofList, Members.foldM, Json.Tells, Json.named]
  | cons member rest ih =>
    obtain ⟨key, label⟩ := member
    rw [ends_cons, pair]
    by_cases here : key = tag
    · subst here
      simp only [Json.tells_same, Json.unnamed_same, bind_eq_ok, pure, Except.pure, Except.ok.injEq, if_true]
      constructor
      · intro found
        obtain ⟨_, ⟨k, labelled, body, taken, rfl⟩, followed⟩ := found
        obtain ⟨untagged, alone, same⟩ := ends_whole.mp followed
        exact ⟨alone, k, ⟨untagged, labelled⟩, body, taken, same⟩
      · intro found
        obtain ⟨alone, k, ⟨untagged, labelled⟩, body, taken, same⟩ := found
        exact ⟨_, ⟨k, labelled, body, taken, rfl⟩, ends_whole.mpr ⟨untagged, alone, same⟩⟩
    · by_cases there : key = content
      · subst there
        simp [here, Json.unnamed_other here, Json.named_same]
      · simp [here, there, Json.tells_other here, Json.unnamed_other here, Json.named_other there, ih]

private theorem ends_nothing {members : List (String × Json)} {whole : (k : κ) × body k} :
    Ends tag content names schema members .nothing whole ↔
      ∃ k, Json.Tells (names.read Empty.elim .held) tag members k ∧
        ∃ body, (schema k).Brings content (Json.unnamed tag members) body ∧ whole = ⟨k, body⟩ := by
  induction members with
  | nil => simp [Ends, Members.ofList, Members.foldM, Json.Tells, Json.named]
  | cons member rest ih =>
    obtain ⟨key, json⟩ := member
    rw [ends_cons, pair]
    by_cases here : key = tag
    · subst here
      simp [Json.tells_same, Json.unnamed_same, map_eq_ok, ends_tagged, and_assoc, and_left_comm]
    · by_cases there : key = content
      · subst there
        simp only [here, Json.tells_other here, Json.unnamed_other here, brings_same, ends_content, if_true, if_false,
          Except.ok.injEq, exists_eq_left']
        constructor
        · intro found
          obtain ⟨alone, k, labelled, body, taken, same⟩ := found
          exact ⟨k, labelled, body, ⟨alone, taken⟩, same⟩
        · intro found
          obtain ⟨k, labelled, body, ⟨alone, taken⟩, same⟩ := found
          exact ⟨alone, k, labelled, body, taken, same⟩
      · simp [here, there, Json.tells_other here, Json.unnamed_other here, brings_other there, ih]

theorem held_adjacent_object {members : List (String × Json)} :
    (adjacent name tag content names schema shape).held (Json.object members) = .ok value ↔
      ∃ k, Json.Tells (names.read Empty.elim .held) tag members k ∧
        ∃ body, (schema k).Brings content (Json.unnamed tag members) body ∧ shape.pack ⟨k, body⟩ = value := by
  have ends : (adjacent name tag content names schema shape).held (Json.object members) = .ok value ↔
      ∃ whole, Ends tag content names schema members .nothing whole ∧ shape.pack whole = value := by
    rw [held_adjacent_pair, bind_eq_ok]
    constructor
    · intro found
      obtain ⟨last, folded, closed⟩ := found
      cases last with
      | nothing | content _ => cases closed
      | tagged k =>
        rw [close] at closed
        split at closed
        next body absent =>
          cases closed
          exact ⟨⟨k, body⟩, ⟨_, folded, body, absent, rfl⟩, rfl⟩
        next => cases closed
      | whole found =>
        cases closed
        exact ⟨found, ⟨_, folded, rfl⟩, rfl⟩
    · intro found
      obtain ⟨whole, ⟨last, folded, closed⟩, packed⟩ := found
      refine ⟨last, folded, ?_⟩
      cases last with
      | nothing | content _ => exact closed.elim
      | tagged k =>
        obtain ⟨body, absent, rfl⟩ := closed
        rw [close, absent]
        exact congrArg Except.ok packed
      | whole found =>
        rw [← packed, closed]
        rfl
  simp only [ends, ends_nothing]
  constructor
  · intro found
    obtain ⟨_, ⟨k, labelled, body, brought, rfl⟩, packed⟩ := found
    exact ⟨k, labelled, body, brought, packed⟩
  · intro found
    obtain ⟨k, labelled, body, brought, packed⟩ := found
    exact ⟨_, ⟨k, labelled, body, brought, rfl⟩, packed⟩

theorem held_adjacent_array {label : Json} {items : List Json} :
    (adjacent name tag content names schema shape).held (Json.array (label :: items)) = .ok value ↔
      ∃ k, names.readTag Empty.elim .held label = .ok k ∧
        ∃ json, items = [json] ∧ ∃ body, (schema k).held json = .ok body ∧ shape.pack ⟨k, body⟩ = value := by
  rcases items with _ | ⟨json, _ | ⟨next, rest⟩⟩
  · simp [held, Json.array, Items.ofList, read, bind_eq_ok]
  · simp only [held, Json.array, Items.ofList, read, bind_eq_ok, pure, Except.pure, Except.ok.injEq]
    constructor
    · intro found
      obtain ⟨k, labelled, body, taken, packed⟩ := found
      exact ⟨k, labelled, json, rfl, body, taken, packed⟩
    · intro found
      obtain ⟨k, labelled, _, same, body, taken, packed⟩ := found
      cases same
      exact ⟨k, labelled, body, taken, packed⟩
  · simp [held, Json.array, Items.ofList, read, bind_eq_ok]

end Adjacent

end Schema

end NanAdapter
