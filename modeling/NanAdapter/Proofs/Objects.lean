import Mathlib.Data.List.Forall2
import NanAdapter.Proofs.SchemaLaws

/-! What a record takes from an object that was held back. The order of the members does not matter, nor
do members without a slot; so the values follow from what stands under each name. -/

namespace NanAdapter

/-- The value of a document that was held back. -/
def Schema.held (schema : Schema α) (json : Json) : Except Fault α := schema.read Empty.elim .held json

@[simp]
theorem Doc.mistyped_ne_ok {φ : Type} {blame : φ → Fault} {wanted : String} {doc : Doc φ} {value : α} :
    doc.mistyped blame wanted ≠ .ok value := by
  cases doc <;> simp [mistyped]

theorem Doc.pass_whole (json : Json) : json.pass Empty.elim = .ok () := by
  rw [pass]
  cases json.passing? with
  | none => rfl
  | some fault => exact fault.elim

theorem Doc.settle_whole (json : Json) : json.settle Empty.elim = .ok json := by
  have settled := json.settle_lift Empty.elim
  rwa [json.lift_self] at settled

theorem Items.ofList_toList (items : Items Empty) : Items.ofList items.toList = items := by
  match items with
  | .done => rfl
  | .cons head rest => exact congrArg (Items.cons head) rest.ofList_toList
  | .broken flaw => exact flaw.reading.elim
termination_by structural items

namespace Json

/-- An object without a second member of any name. -/
def Distinct (members : List (String × Json)) : Prop := (members.map (·.1)).Nodup

theorem Distinct.filter {members : List (String × Json)} (distinct : Distinct members)
    (kept : String × Json → Bool) : Distinct (members.filter kept) :=
  List.Nodup.sublist (List.filter_sublist.map _) distinct

theorem lookup_eq_some {members : List (String × Json)} (distinct : Distinct members) {name : String} {json : Json} :
    members.lookup name = some json ↔ (name, json) ∈ members := by
  induction members with
  | nil => simp
  | cons member rest ih =>
    obtain ⟨key, first⟩ := member
    obtain ⟨single, distinct⟩ := List.nodup_cons.mp distinct
    by_cases here : name = key
    · subst here
      have unlike : (name, json) ∉ rest := fun member => single (List.mem_map.mpr ⟨_, member, rfl⟩)
      simp [unlike, eq_comm]
    · have elsewhere : (name == key) = false := beq_eq_false_iff_ne.mpr here
      simpa [List.lookup_cons, elsewhere, here] using ih distinct

/-- The last member of a name is the only one. -/
theorem member?_object {members : List (String × Json)} (distinct : Distinct members) (name : String) :
    (object members).member? name = members.lookup name := by
  rw [object, member?, Members.toList_ofList]
  cases found : members.reverse.find? fun member => member.1 = name with
  | none =>
    refine (List.lookup_eq_none_iff.mpr fun member known => ?_).symm
    have other : member.1 ≠ name := by simpa using List.find?_eq_none.mp found member (List.mem_reverse.mpr known)
    exact bne_iff_ne.mpr (Ne.symm other)
  | some member =>
    have here : member.1 = name := by simpa using List.find?_some found
    have known : member ∈ members := List.mem_reverse.mp (List.mem_of_find?_eq_some found)
    exact ((lookup_eq_some distinct).mpr (here ▸ known)).symm

end Json

namespace Fields

section Offer
variable (name : String) (schema : Schema α) (default : Option α) (rest : Fields β σ) {φ : Type} (blame : φ → Fault)
  (source : Source)

theorem offer_first (doc : Doc φ) (slots : σ) :
    (Fields.cons name schema default rest).offer blame source name doc (none, slots) =
      (schema.read blame source doc).map fun value => some (some value, slots) := if_pos rfl

theorem offer_again (doc : Doc φ) (value : α) (slots : σ) :
    (Fields.cons name schema default rest).offer blame source name doc (some value, slots) =
      .error (.refused (.repeated name)) := if_pos rfl

theorem offer_other {name key : String} (other : key ≠ name) (doc : Doc φ) (slot : Option α) (slots : σ) :
    (Fields.cons name schema default rest).offer blame source key doc (slot, slots) =
      (rest.offer blame source key doc slots).map fun found => found.map (slot, ·) := if_neg other

end Offer

/-- A member without a slot is left aside. -/
theorem offer_unknown : {β σ : Type} → (fields : Fields β σ) → {key : String} → key ∉ fields.names →
    {φ : Type} → (blame : φ → Fault) → (source : Source) → (doc : Doc φ) → (slots : σ) →
    fields.offer blame source key doc slots = .ok none
  | _, _, .done, _, _, _, _, _, _, () => rfl
  | _, _, .cons name schema default rest, key, unknown, _, blame, source, doc, (slot, slots) => by
    obtain ⟨other, unknown⟩ : key ≠ name ∧ key ∉ rest.names := by simpa [names] using unknown
    rw [offer_other schema default rest blame source other, rest.offer_unknown unknown]
    rfl
termination_by structural _ _ fields => fields

/-- What a record takes from the members of an object that was held back. -/
def gather (fields : Fields β σ) (members : List (String × Json)) (slots : σ) : Except Fault σ :=
  (Members.ofList members).slots Empty.elim (fields.offer Empty.elim .held) slots

theorem gather_cons (fields : Fields β σ) (key : String) (json : Json) (members : List (String × Json)) (slots : σ) :
    fields.gather ((key, json) :: members) slots =
      (fields.offer Empty.elim .held key json slots).bind fun found => fields.gather members (found.getD slots) := by
  rw [gather, Members.ofList, Members.slots, Members.foldM]
  cases fields.offer Empty.elim .held key json slots with
  | error _ => rfl
  | ok found =>
    cases found with
    | some _ => rfl
    | none =>
      simp only [bind, Except.bind, json.pass_whole]
      rfl

theorem gather_unknown (fields : Fields β σ) {members : List (String × Json)}
    (unknown : ∀ key ∈ members.map (·.1), key ∉ fields.names) (slots : σ) : fields.gather members slots = .ok slots := by
  induction members with
  | nil => rfl
  | cons member rest ih =>
    obtain ⟨here, later⟩ := List.forall_mem_cons.mp unknown
    rw [gather_cons, fields.offer_unknown here]
    exact ih later

section Slots
variable {name : String} {schema : Schema α} {default : Option α} {rest : Fields β σ}

/-- The first slot and the others fill up independently of each other. -/
theorem gather_split (absent : name ∉ rest.names) (members : List (String × Json)) (slot slot' : Option α)
    (slots slots' : σ) :
    (Fields.cons name schema default rest).gather members (slot, slots) = .ok (slot', slots') ↔
      (Fields.cons name schema default .done).gather members (slot, ()) = .ok (slot', ()) ∧
        rest.gather members slots = .ok slots' := by
  induction members generalizing slot slots with
  | nil => simp [gather, Members.ofList, Members.slots, Members.foldM]
  | cons member others ih =>
    obtain ⟨key, json⟩ := member
    rw [gather_cons, gather_cons, gather_cons]
    by_cases here : key = name
    · subst here
      rw [rest.offer_unknown absent]
      cases slot with
      | some value => simp [offer_again, Except.bind]
      | none =>
        rw [offer_first, offer_first]
        cases schema.read Empty.elim .held json with
        | error fault => simp [Except.bind, Except.map]
        | ok value => exact ih (some value) slots
    · rw [offer_other schema default rest _ _ here, offer_other schema default .done _ _ here]
      cases rest.offer Empty.elim .held key json slots with
      | error fault => simp [Except.bind, Except.map]
      | ok found =>
        cases found with
        | none => exact ih slot slots
        | some slots => exact ih slot slots

/-- A slot is filled by the one member of its name. -/
theorem gather_slot {members : List (String × Json)} (distinct : Json.Distinct members) :
    (Fields.cons name schema default .done).gather members (none, ()) =
      ((members.lookup name).mapM schema.held).map (·, ()) := by
  induction members with
  | nil => rfl
  | cons member others ih =>
    obtain ⟨key, json⟩ := member
    obtain ⟨single, distinct⟩ := List.nodup_cons.mp distinct
    rw [gather_cons]
    by_cases here : key = name
    · subst here
      have untouched (value : α) : (Fields.cons key schema default .done).gather others (some value, ()) =
          .ok (some value, ()) := by
        refine gather_unknown _ (fun other member => ?_) _
        rw [names, names, List.mem_singleton]
        exact fun same => single (same ▸ member)
      rw [offer_first, List.lookup_cons_self]
      change ((schema.held json).map _).bind _ = ((schema.held json).map some).map _
      cases schema.held json with
      | error fault => rfl
      | ok value => exact untouched value
    · have elsewhere : (name == key) = false := beq_eq_false_iff_ne.mpr (Ne.symm here)
      rw [offer_other schema default .done _ _ here, List.lookup_cons, elsewhere]
      exact ih distinct

end Slots

/-- The members hold these values: what is there is read, and what is missing has its default. -/
def Takes : {β σ : Type} → Fields β σ → (find? : String → Option Json) → β → Prop
  | _, _, .done, _, () => True
  | _, _, .cons name schema default rest, find?, (value, values) =>
    (match find? name with
      | some json => schema.held json = .ok value
      | none => default = some value) ∧ rest.Takes find? values

theorem takes_congr : {β σ : Type} → (fields : Fields β σ) → {find? other? : String → Option Json} →
    (∀ name ∈ fields.names, find? name = other? name) → {values : β} →
    (fields.Takes find? values ↔ fields.Takes other? values)
  | _, _, .done, _, _, _, () => Iff.rfl
  | _, _, .cons name schema default rest, find?, other?, same, (value, values) => by
    obtain ⟨here, later⟩ := List.forall_mem_cons.mp same
    rw [Takes, Takes, here, rest.takes_congr later]
termination_by structural _ _ fields => fields

private theorem fill_cons {name : String} {schema : Schema α} {default slot : Option α} {rest : Fields β σ} {slots : σ}
    {value : α} {values : β} :
    (Fields.cons name schema default rest).fill (slot, slots) = .ok (value, values) ↔
      slot.or default = some value ∧ rest.fill slots = .ok values := by
  rw [fill]
  cases slot.or default with
  | none => simp
  | some chosen => cases rest.fill slots <;> simp [Except.map]

private theorem choose {schema : Schema α} {default : Option α} {found : Option Json} {value : α} :
    (∃ slot, found.mapM schema.held = .ok slot ∧ slot.or default = some value) ↔
      match found with
      | some json => schema.held json = .ok value
      | none => default = some value := by
  cases found with
  | none =>
    constructor
    · intro found
      obtain ⟨slot, empty, chosen⟩ := found
      cases empty
      exact chosen
    · exact fun chosen => ⟨none, rfl, chosen⟩
  | some json =>
    change (∃ slot, (schema.held json).map some = .ok slot ∧ _) ↔ schema.held json = .ok value
    cases schema.held json <;> simp [Except.map]

/-- The values of a record are those that the members of the object hold. -/
theorem gather_fill : {β σ : Type} → (fields : Fields β σ) → fields.names.Nodup → {members : List (String × Json)} →
    Json.Distinct members → {values : β} →
    ((∃ slots, fields.gather members fields.vacant = .ok slots ∧ fields.fill slots = .ok values) ↔
      fields.Takes (List.lookup · members) values)
  | _, _, .done, _, _, _, () => ⟨fun _ => trivial, fun _ => ⟨(), gather_unknown .done (fun _ _ => nofun) (), rfl⟩⟩
  | _, _, .cons name schema default rest, unlike, members, distinct, (value, values) => by
    obtain ⟨absent, unlike⟩ := List.nodup_cons.mp unlike
    rw [Takes, ← rest.gather_fill unlike distinct, ← choose]
    constructor
    · intro found
      obtain ⟨⟨slot, slots⟩, gathered, filled⟩ := found
      obtain ⟨first, others⟩ := (gather_split absent members none slot rest.vacant slots).mp gathered
      obtain ⟨chosen, filled⟩ := fill_cons.mp filled
      rw [gather_slot distinct] at first
      refine ⟨⟨slot, ?_, chosen⟩, slots, others, filled⟩
      cases read : (members.lookup name).mapM schema.held with
      | error fault => rw [read] at first; cases first
      | ok _ => rw [read] at first; cases first; rfl
    · intro found
      obtain ⟨⟨slot, read, chosen⟩, slots, others, filled⟩ := found
      refine ⟨(slot, slots), (gather_split absent members none slot rest.vacant slots).mpr ⟨?_, others⟩,
        fill_cons.mpr ⟨chosen, filled⟩⟩
      rw [gather_slot distinct, read]
      rfl
termination_by structural _ _ fields => fields

end Fields

namespace Schema

theorem held_record {name : String} {fields : Fields β σ} {shape : Shape β α} (unlike : fields.names.Nodup)
    {members : List (String × Json)} (distinct : Json.Distinct members) {value : α} :
    (record name fields shape).held (Json.object members) = .ok value ↔
      ∃ values, fields.Takes (Json.object members).member? values ∧ shape.pack values = value := by
  have found : (Json.object members).member? = (List.lookup · members) := funext (Json.member?_object distinct)
  simp only [found, ← fields.gather_fill unlike distinct]
  rw [held, Json.object, read]
  simp only [bind_eq_ok, pure, Except.pure, Except.ok.injEq]
  constructor
  · intro taken
    obtain ⟨slots, gathered, values, filled, rfl⟩ := taken
    exact ⟨values, ⟨slots, gathered, filled⟩, rfl⟩
  · intro taken
    obtain ⟨values, ⟨slots, gathered, filled⟩, rfl⟩ := taken
    exact ⟨slots, gathered, values, filled, rfl⟩

/-! Arrays -/

/-- The elements of an array have these values. -/
def Each (item : Schema α) : List Json → List α → Prop :=
  List.Forall₂ fun json value => item.held json = .ok value

theorem held_list {item : Schema α} {items : List Json} {values : List α} :
    (list item).held (Json.array items) = .ok values ↔ item.Each items values := by
  rw [held, Json.array, read]
  induction items generalizing values with
  | nil => cases values <;> simp [Items.ofList, Items.mapM, Each]
  | cons json rest ih =>
    simp only [Items.ofList, Items.mapM, bind_eq_ok, ih, pure, Except.pure, Except.ok.injEq]
    constructor
    · intro taken
      obtain ⟨value, here, values, others, rfl⟩ := taken
      exact .cons here others
    · rintro (_ | ⟨here, others⟩)
      exact ⟨_, here, _, others, rfl⟩

theorem held_exactly {item : Schema α} {wanted : String} {taken count : Nat} {items : List Json} {values : List α} :
    (Items.ofList items).exactly Empty.elim .held wanted (item.read Empty.elim .held) taken count = .ok values ↔
      items.length = count ∧ item.Each items values := by
  induction items generalizing taken count values with
  | nil =>
    cases count with
    | zero => cases values <;> simp [Items.ofList, Items.exactly, Each]
    | succ count => simp [Items.ofList, Items.exactly]
  | cons json rest ih =>
    cases count with
    | zero => simp [Items.ofList, Items.exactly]
    | succ count =>
      simp only [Items.ofList, Items.exactly, bind_eq_ok, ih, pure, Except.pure, Except.ok.injEq]
      constructor
      · intro taken
        obtain ⟨value, here, values, ⟨sized, others⟩, rfl⟩ := taken
        exact ⟨congrArg (· + 1) sized, .cons here others⟩
      · rintro ⟨sized, _ | ⟨here, others⟩⟩
        exact ⟨_, here, _, ⟨Nat.succ.inj sized, others⟩, rfl⟩

theorem held_fixed {count : Nat} {item : Schema α} {items : List Json} {values : Vector α count} :
    (fixed count item).held (Json.array items) = .ok values ↔ item.Each items values.toList := by
  rw [held, Json.array, read]
  simp only [bind_eq_ok, held_exactly]
  constructor
  · intro read
    obtain ⟨parts, ⟨_, each⟩, taken⟩ := read
    split at taken
    · cases taken
      simpa using each
    · cases taken
  · intro each
    have sized : items.length = count := by simpa using each.length_eq
    obtain ⟨elements, rfl⟩ := values
    exact ⟨elements.toList, ⟨sized, each⟩, dif_pos Array.length_toList⟩

end Schema

end NanAdapter
