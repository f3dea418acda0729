import NanAdapter.Proofs.Scanning
import NanAdapter.Schema.Write

/-! A schema is lawful if it reads back what it has written. Every way to build a schema keeps the law,
so a schema is lawful if its members have different names and its parts are lawful. -/

namespace NanAdapter

/-- What was written comes back, wherever the document comes from, and so many arrays and objects may
be opened in its text. -/
structure Schema.Lawful (room : Nat) (schema : Schema α) : Prop where
  reads {φ : Type} (blame : φ → Fault) (source : Source) (value : α) :
    schema.read blame source (schema.write value).lift = .ok value
  fits (value : α) : (schema.write value).Fits room

/-- The width has at most 64 bits, and none of its values is lost. -/
def Width.Lawful (width : Width α) : Prop :=
  ∀ value, width.ofInt? (width.toInt value) = some value ∧
    -(UInt64.size : Int) ≤ 2 * width.toInt value ∧ width.toInt value < UInt64.size

/-- No two members have the same name. -/
def Names.Lawful (names : Names κ) : Prop := ∀ k, names.find? (names.name k) = some k

def Shape.Lawful (shape : Shape β α) : Prop := ∀ value, shape.pack (shape.unpack value) = value

theorem Width.lawful_of_natural {width : Width α} {toNat : α → Nat}
    (writes : ∀ value, width.toInt value = toNat value)
    (same : ∀ value, width.ofInt? (width.toInt value) = some value) (small : ∀ value, toNat value < UInt64.size) :
    width.Lawful := by
  intro value
  have bound := small value
  refine ⟨same value, ?_, ?_⟩
  · rw [writes]
    omega
  · rw [writes]
    omega

private theorem Names.find?_of_nodup {names : Names κ} {k : κ} {all : List κ} (distinct : (all.map names.name).Nodup)
    (member : k ∈ all) : all.find? (fun other => names.name other = names.name k) = some k := by
  induction all with
  | nil => cases member
  | cons first rest ih =>
    obtain ⟨absent, distinct⟩ := List.nodup_cons.mp distinct
    rcases List.mem_cons.mp member with same | later
    · exact same ▸ List.find?_cons_of_pos (decide_eq_true rfl)
    · have other : names.name first ≠ names.name k := by
        intro same
        exact absent (same ▸ List.mem_map_of_mem later)
      rw [List.find?_cons_of_neg (by simpa using other)]
      exact ih distinct later

theorem Names.lawful_of_nodup {names : Names κ} (complete : ∀ k, k ∈ names.all) (distinct : names.list.Nodup) :
    names.Lawful := by
  intro k
  exact Names.find?_of_nodup distinct (complete k)

namespace Schema
variable {room : Nat}

/-! Leaves -/

theorem integer_lawful {width : Width α} (lawful : width.Lawful) : (integer width).Lawful room where
  reads blame source value := by
    rw [write, Doc.lift, read]
    simp only [(lawful value).1]
  fits value := (lawful value).2

theorem boolean_lawful : boolean.Lawful room where
  reads _ _ _ := rfl
  fits _ := trivial

theorem text_lawful : text.Lawful room where
  reads _ _ _ := rfl
  fits _ := trivial

theorem symbol_lawful {names : Names κ} (known : names.Lawful) : (symbol names).Lawful room where
  reads blame source k := names.read_name blame (known k) source
  fits _ := trivial

theorem via_lawful {shape : Shape β α} {inner : Schema β} (restored : shape.Lawful) (lawful : inner.Lawful room) :
    (via shape inner).Lawful room where
  reads blame source value := by
    rw [read, write, lawful.reads]
    exact congrArg Except.ok (restored value)
  fits value := lawful.fits (shape.unpack value)

theorem optional_lawful {schema : Schema α} (present : ∀ value, schema.write value ≠ .null)
    (lawful : schema.Lawful room) : (optional schema).Lawful room where
  reads blame source value := by
    cases value with
    | none => rfl
    | some value =>
      rw [write, read, lawful.reads]
      · rfl
      · exact Doc.lift_ne_null (present value)
  fits value := by
    cases value with
    | none => trivial
    | some value => exact lawful.fits value

/-! Arrays -/

private theorem mapM_written {item : Schema α} (lawful : item.Lawful room) {φ : Type} (blame : φ → Fault)
    (source : Source) (values : List α) :
    (Items.ofList (values.map fun value => (item.write value).lift)).mapM blame (item.read blame source) =
      .ok values := by
  induction values with
  | nil => rfl
  | cons value values ih =>
    rw [List.map_cons, Items.ofList, Items.mapM, lawful.reads, ih]
    rfl

private theorem exactly_written {item : Schema α} (lawful : item.Lawful room) {φ : Type} (blame : φ → Fault)
    (source : Source) (wanted : String) (taken : Nat) (values : List α) :
    (Items.ofList (values.map fun value => (item.write value).lift)).exactly blame source wanted
      (item.read blame source) taken values.length = .ok values := by
  induction values generalizing taken with
  | nil => rfl
  | cons value values ih =>
    rw [List.map_cons, Items.ofList, List.length_cons, Items.exactly, lawful.reads, ih]
    rfl

private theorem array_lift {φ : Type} (item : Schema α) (values : List α) :
    (Json.array (values.map item.write)).lift =
      Doc.arr (φ := φ) (.ofList (values.map fun value => (item.write value).lift)) := by
  rw [Json.array, Doc.lift, Items.lift_ofList, List.map_map]
  rfl

private theorem array_fits {item : Schema α} (lawful : item.Lawful room) (values : List α) :
    (Json.array (values.map item.write)).Fits (room + 1) := by
  refine ⟨Nat.succ_pos room, Items.fits_ofList ?_⟩
  intro json member
  obtain ⟨value, -, rfl⟩ := List.mem_map.mp member
  exact lawful.fits value

theorem list_lawful {item : Schema α} (lawful : item.Lawful room) : (list item).Lawful (room + 1) where
  reads blame source values := by
    rw [write, array_lift, read]
    exact mapM_written lawful blame source values
  fits values := array_fits lawful values

theorem fixed_lawful {count : Nat} {item : Schema α} (lawful : item.Lawful room) :
    (fixed count item).Lawful (room + 1) where
  reads blame source values := by
    obtain ⟨values, rfl⟩ := values
    have elements :=
      exactly_written lawful blame source ("an array of length " ++ Text.decimal values.size) 0 values.toList
    rw [write, array_lift, read]
    simp only [Vector.toList, Array.length_toList] at elements ⊢
    rw [elements]
    exact dif_pos (Array.length_toList)
  fits values := array_fits lawful values.toList

end Schema

/-! Members -/

namespace Fields
variable {room : Nat}

def names : Fields β σ → List String
  | .done => []
  | .cons name _ _ rest => name :: rest.names

def Each (room : Nat) : Fields β σ → Prop
  | .done => True
  | .cons _ value _ rest => value.Lawful room ∧ rest.Each room

structure Lawful (room : Nat) (fields : Fields β σ) : Prop where
  distinct : fields.names.Nodup
  each : fields.Each room

theorem keys_write : {β σ : Type} → (fields : Fields β σ) → (values : β) →
    (fields.write values).keys = fields.names
  | _, _, .done, () => rfl
  | _, _, .cons name _ _ rest, (_, values) => congrArg (List.cons name) (rest.keys_write values)
termination_by structural _ _ fields => fields

theorem fits_write : {β σ : Type} → {fields : Fields β σ} → fields.Each room → (values : β) →
    (fields.write values).Fits room
  | _, _, .done, _, () => trivial
  | _, _, .cons .., each, (value, values) => ⟨each.1.fits value, fits_write each.2 values⟩
termination_by structural _ _ fields => fields

/-- The first member leaves the others to the rest. -/
theorem slots_behind {φ : Type} (blame : φ → Fault) (source : Source) (name : String) (schema : Schema α)
    (default : Option α) (rest : Fields β σ) (slot : Option α) (members : Members φ) (slots : σ)
    (absent : name ∉ members.keys) :
    members.slots blame ((Fields.cons name schema default rest).offer blame source) (slot, slots) =
      (members.slots blame (rest.offer blame source) slots).map (slot, ·) := by
  match members with
  | .done => rfl
  | .broken flaw => rfl
  | .cons (.flawed flaw) _ _ => rfl
  | .cons (.name key) value others =>
    have other : key ≠ name := fun same => absent (same ▸ List.mem_cons_self)
    have behind (slots : σ) := slots_behind blame source name schema default rest slot others slots
      fun member => absent (List.mem_cons_of_mem key member)
    have passed_on : (Fields.cons name schema default rest).offer blame source key value (slot, slots) =
        (rest.offer blame source key value slots).map fun found => found.map (slot, ·) := if_neg other
    unfold Members.slots at behind ⊢
    rw [Members.foldM, Members.foldM, passed_on]
    cases rest.offer blame source key value slots with
    | error fault => rfl
    | ok found =>
      cases found with
      | some slots => exact behind slots
      | none =>
        simp only [Except.map, Option.map, bind, Except.bind]
        cases value.pass blame with
        | error fault => rfl
        | ok _ => exact behind slots
termination_by structural members

theorem slots_write : {β σ : Type} → {fields : Fields β σ} → fields.Lawful room →
    {φ : Type} → (blame : φ → Fault) → (source : Source) → (values : β) →
    ∃ slots, (fields.write values).lift.slots blame (fields.offer blame source) fields.vacant = .ok slots ∧
      fields.fill slots = .ok values
  | _, _, .done, _, _, _, _, () => ⟨(), rfl, rfl⟩
  | _, _, .cons name schema default rest, lawful, _, blame, source, (value, values) => by
    obtain ⟨absent, distinct⟩ := List.nodup_cons.mp lawful.distinct
    obtain ⟨slots, taken, filled⟩ := slots_write ⟨distinct, lawful.each.2⟩ blame source values
    have offered : (Fields.cons name schema default rest).offer blame source name (schema.write value).lift
        (none, rest.vacant) = .ok (some (some value, rest.vacant)) := by
      rw [offer, if_pos rfl, lawful.each.1.reads]
      rfl
    have others := slots_behind blame source name schema default rest (some value) (rest.write values).lift
      rest.vacant (by rwa [Members.keys_lift, keys_write])
    rw [taken] at others
    refine ⟨(some value, slots), ?_, ?_⟩
    · rw [write, Members.lift, Members.slots, Members.foldM, vacant, offered]
      exact others
    · rw [fill, filled]
      rfl
termination_by structural _ _ fields => fields

end Fields

namespace Schema
variable {room : Nat}

/-! Objects -/

theorem record_lawful {name : String} {fields : Fields β σ} {shape : Shape β α} (lawful : fields.Lawful room)
    (restored : shape.Lawful) : (record name fields shape).Lawful (room + 1) where
  reads blame source value := by
    obtain ⟨slots, taken, filled⟩ := Fields.slots_write lawful blame source (shape.unpack value)
    rw [write, Doc.lift, read, taken]
    simp only [bind, Except.bind, filled]
    exact congrArg Except.ok (restored value)
  fits value := ⟨Nat.succ_pos room, Fields.fits_write lawful.each (shape.unpack value)⟩

/-- While the tag is known, the other members are held back, the last one on top. -/
theorem foldM_held {φ κ : Type} (blame : φ → Fault) {tag : String}
    {step : Option κ × List (String × Json) → String → Doc φ → Except Fault (Option κ × List (String × Json))}
    (k? : Option κ)
    (holds : ∀ others key json, key ≠ tag → step (k?, others) key json.lift = .ok (k?, (key, json) :: others))
    (members : List (String × Json)) (absent : tag ∉ members.map (·.1)) (others : List (String × Json)) :
    (Members.ofList members).lift.foldM blame step (k?, others) = .ok (k?, members.reverse ++ others) := by
  induction members generalizing others with
  | nil => rfl
  | cons member rest ih =>
    obtain ⟨other, still⟩ : tag ≠ member.1 ∧ tag ∉ rest.map (·.1) := by simpa using absent
    have held := ih still ((member.1, member.2) :: others)
    rw [Members.ofList, Members.lift, Members.foldM, holds others member.1 member.2 (Ne.symm other), List.reverse_cons,
      List.append_assoc]
    exact held

theorem tagged_lawful {κ : Type} {body slots : κ → Type} {name tag : String} {names : Names κ} {title : κ → String}
    {fields : (k : κ) → Fields (body k) (slots k)} {shape : Shape ((k : κ) × body k) α} (known : names.Lawful)
    (lawful : ∀ k, (fields k).Lawful room) (untagged : ∀ k, tag ∉ (fields k).names) (restored : shape.Lawful) :
    (tagged name tag names title fields shape).Lawful (room + 1) where
  reads blame source value := by
    obtain ⟨⟨k, values⟩, whole⟩ : ∃ whole, shape.unpack value = whole := ⟨_, rfl⟩
    have same : shape.pack ⟨k, values⟩ = value := whole ▸ restored value
    obtain ⟨slots, taken, filled⟩ := Fields.slots_write (lawful k) Empty.elim .held values
    obtain ⟨members, written⟩ : ∃ members, (fields k).write values = Members.ofList members :=
      ⟨_, (Members.ofList_toList _).symm⟩
    have absent := untagged k
    rw [← Fields.keys_write (fields k) values, written, Members.keys, Members.toList_ofList] at absent
    rw [Members.lift_self, written] at taken
    rw [write, whole]
    simp only [Doc.lift, Members.lift, written]
    rw [read]
    simp only [Members.foldM, if_true, names.readTag_name blame (known k) source, Except.map, bind, Except.bind]
    rw [foldM_held blame (some k) _ members absent]
    · simp only [List.append_nil, List.reverse_reverse, taken, filled]
      exact congrArg Except.ok same
    · intro others key json other
      rw [if_neg other, Doc.settle_lift]
  fits value := ⟨Nat.succ_pos room, trivial, Fields.fits_write (lawful _).each (shape.unpack value).2⟩

theorem adjacent_lawful {κ : Type} {body : κ → Type} {name tag content : String} {names : Names κ}
    {schema : (k : κ) → Schema (body k)} {shape : Shape ((k : κ) × body k) α} (known : names.Lawful)
    (different : content ≠ tag) (lawful : ∀ k, (schema k).Lawful room) (restored : shape.Lawful) :
    (adjacent name tag content names schema shape).Lawful (room + 1) where
  reads blame source value := by
    obtain ⟨⟨k, body⟩, whole⟩ : ∃ whole, shape.unpack value = whole := ⟨_, rfl⟩
    have same : shape.pack ⟨k, body⟩ = value := whole ▸ restored value
    rw [write, whole]
    simp only [Json.object, Members.ofList, Doc.lift, Members.lift]
    rw [read]
    simp only [Members.foldM, if_true, names.read_name blame (known k) source, Except.map, bind, Except.bind]
    -- the tag was written first, so the content is read in place and never held back
    rw [if_neg different, (lawful k).reads]
    exact congrArg Except.ok same
  fits value := ⟨Nat.succ_pos room, trivial, (lawful _).fits (shape.unpack value).2, trivial⟩

/-- What was written is read back, as a document and as a text. -/
structure Recovers (schema : Schema α) : Prop where
  document (value : α) : schema.ofJson (schema.write value) = .ok value
  text (value : α) : schema.ofText (schema.print value) = .ok value

theorem Lawful.recovers {schema : Schema α} (lawful : schema.Lawful Json.deepest) : schema.Recovers where
  document value := by
    have same := lawful.reads Empty.elim .parsed value
    rwa [Doc.lift_self] at same
  text value := by
    rw [ofText, Json.readText, print, Json.text, String.toList_ofList, Json.scan_chars (lawful.fits value)]
    simp only [lawful.reads]
    rfl

end Schema

end NanAdapter
