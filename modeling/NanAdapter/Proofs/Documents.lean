import NanAdapter.Schema.Read

/-! Documents without faults among those that may have some: nothing that is in them is lost, and they
can be held back and read later. -/

namespace NanAdapter

theorem bind_eq_ok {ε : Type} {first : Except ε α} {next : α → Except ε β} {result : β} :
    (first >>= next) = .ok result ↔ ∃ value, first = .ok value ∧ next value = .ok result := by
  cases first <;> simp [bind, Except.bind]

theorem bind_eq_error {ε : Type} {first : Except ε α} {next : α → Except ε β} {fault : ε} :
    (first >>= next) = .error fault ↔
      first = .error fault ∨ ∃ value, first = .ok value ∧ next value = .error fault := by
  cases first <;> simp [bind, Except.bind]

theorem map_eq_ok {ε : Type} {first : Except ε α} {change : α → β} {result : β} :
    first.map change = .ok result ↔ ∃ value, first = .ok value ∧ change value = result := by
  cases first <;> simp [Except.map]

theorem mapError_eq_ok {ε δ : Type} {result : Except ε α} {change : ε → δ} {value : α} :
    result.mapError change = .ok value ↔ result = .ok value := by
  constructor
  · intro done
    cases result with
    | ok _ =>
      cases done
      rfl
    | error _ => cases done
  · rintro rfl
    rfl

mutual
/-- The same document among those that may have faults. -/
def Doc.lift {φ : Type} : Json → Doc φ
  | .null => .null
  | .bool value => .bool value
  | .int value => .int value
  | .real value => .real value
  | .str text => .str text
  | .arr items => .arr items.lift
  | .obj members => .obj members.lift
  | .flawed flaw => nomatch flaw.reading

def Items.lift {φ : Type} : Items Empty → Items φ
  | .done => .done
  | .broken flaw => nomatch flaw.reading
  | .cons head rest => .cons head.lift rest.lift

def Members.lift {φ : Type} : Members Empty → Members φ
  | .done => .done
  | .broken flaw => nomatch flaw.reading
  | .cons (.name key) value rest => .cons (.name key) value.lift rest.lift
  | .cons (.flawed flaw) _ _ => nomatch flaw.reading
end

mutual
/-- The document comes back from its text if so many arrays and objects may be opened. Its numbers
are integers of 64 bits. -/
def Doc.Fits : (room : Nat) → Json → Prop
  | _, .int value => -(UInt64.size : Int) ≤ 2 * value ∧ value < UInt64.size
  | _, .real _ => False
  | room, .arr items => 0 < room ∧ items.Fits (room - 1)
  | room, .obj members => 0 < room ∧ members.Fits (room - 1)
  | _, _ => True

def Items.Fits : (room : Nat) → Items Empty → Prop
  | room, .cons head rest => head.Fits room ∧ rest.Fits room
  | _, _ => True

def Members.Fits : (room : Nat) → Members Empty → Prop
  | room, .cons _ value rest => value.Fits room ∧ rest.Fits room
  | _, _ => True
end

theorem Doc.lift_ne_null {φ : Type} {json : Json} (present : json ≠ .null) : json.lift ≠ (.null : Doc φ) := by
  intro same
  cases json with
  | null => exact present rfl
  | flawed flaw => exact flaw.reading.elim
  | _ => cases same

/-! Elements -/

theorem Items.lift_ofList {φ : Type} (items : List Json) :
    (Items.ofList items).lift = Items.ofList (φ := φ) (items.map Doc.lift) := by
  induction items with
  | nil => rfl
  | cons head rest ih => exact congrArg (Items.cons head.lift) ih

theorem Items.fits_ofList {room : Nat} {items : List Json} (fits : ∀ item ∈ items, item.Fits room) :
    (Items.ofList items).Fits room := by
  induction items with
  | nil => trivial
  | cons head rest ih =>
    exact ⟨fits head List.mem_cons_self, ih fun item member => fits item (List.mem_cons_of_mem head member)⟩

/-! Members -/

def Members.keys {φ : Type} (members : Members φ) : List String := members.toList.map (·.1)

theorem Members.ofList_toList (members : Members Empty) : Members.ofList members.toList = members := by
  match members with
  | .done => rfl
  | .broken flaw => exact flaw.reading.elim
  | .cons (.flawed flaw) _ _ => exact flaw.reading.elim
  | .cons (.name key) value rest => exact congrArg (Members.cons (.name key) value) rest.ofList_toList
termination_by structural members

theorem Members.keys_lift {φ : Type} (members : Members Empty) : members.lift (φ := φ).keys = members.keys := by
  match members with
  | .done => rfl
  | .broken flaw => exact flaw.reading.elim
  | .cons (.flawed flaw) _ _ => exact flaw.reading.elim
  | .cons (.name key) value rest => exact congrArg (List.cons key) rest.keys_lift
termination_by structural members

mutual
theorem Doc.lift_self (json : Json) : json.lift = json := by
  match json with
  | .null => rfl
  | .bool _ => rfl
  | .int _ => rfl
  | .real _ => rfl
  | .str _ => rfl
  | .arr items => exact congrArg Doc.arr items.lift_self
  | .obj members => exact congrArg Doc.obj members.lift_self
  | .flawed flaw => exact flaw.reading.elim
termination_by structural json

theorem Items.lift_self (items : Items Empty) : items.lift = items := by
  match items with
  | .done => rfl
  | .broken flaw => exact flaw.reading.elim
  | .cons head rest => rw [Items.lift, head.lift_self, rest.lift_self]
termination_by structural items

theorem Members.lift_self (members : Members Empty) : members.lift = members := by
  match members with
  | .done => rfl
  | .broken flaw => exact flaw.reading.elim
  | .cons (.flawed flaw) _ _ => exact flaw.reading.elim
  | .cons (.name key) value rest => rw [Members.lift, value.lift_self, rest.lift_self]
termination_by structural members
end

section Held
variable {φ : Type} (blame : φ → Fault)

mutual
theorem Doc.settle_lift (json : Json) : json.lift.settle blame = .ok json := by
  match json with
  | .null => rfl
  | .bool _ => rfl
  | .int _ => rfl
  | .real _ => rfl
  | .str _ => rfl
  | .arr items => rw [Doc.lift, Doc.settle, items.settle_lift]; rfl
  | .obj members => rw [Doc.lift, Doc.settle, members.settle_lift]; rfl
  | .flawed flaw => exact flaw.reading.elim
termination_by structural json

theorem Items.settle_lift (items : Items Empty) : items.lift.settle blame = .ok items := by
  match items with
  | .done => rfl
  | .broken flaw => exact flaw.reading.elim
  | .cons head rest => rw [Items.lift, Items.settle, head.settle_lift, rest.settle_lift]; rfl
termination_by structural items

theorem Members.settle_lift (members : Members Empty) : members.lift.settle blame = .ok members := by
  match members with
  | .done => rfl
  | .broken flaw => exact flaw.reading.elim
  | .cons (.flawed flaw) _ _ => exact flaw.reading.elim
  | .cons (.name key) value rest => rw [Members.lift, Members.settle, value.settle_lift, rest.settle_lift]; rfl
termination_by structural members
end

mutual
/-- What could be held back had no faults. -/
theorem Doc.lift_of_settle (doc : Doc φ) {json : Json} (settled : doc.settle blame = .ok json) : json.lift = doc := by
  match doc with
  | .null => cases settled; rfl
  | .bool _ => cases settled; rfl
  | .int _ => cases settled; rfl
  | .real _ => cases settled; rfl
  | .str _ => cases settled; rfl
  | .arr items =>
    obtain ⟨held, taken, rfl⟩ := map_eq_ok.mp settled
    exact congrArg Doc.arr (items.lift_of_settle taken)
  | .obj members =>
    obtain ⟨held, taken, rfl⟩ := map_eq_ok.mp settled
    exact congrArg Doc.obj (members.lift_of_settle taken)
  | .flawed flaw => cases settled
termination_by structural doc

theorem Items.lift_of_settle (items : Items φ) {held : Items Empty} (settled : items.settle blame = .ok held) :
    held.lift = items := by
  match items with
  | .done => cases settled; rfl
  | .broken flaw => cases settled
  | .cons head rest =>
    obtain ⟨first, taken, others⟩ := bind_eq_ok.mp settled
    obtain ⟨later, followed, whole⟩ := bind_eq_ok.mp others
    cases whole
    rw [Items.lift, head.lift_of_settle taken, rest.lift_of_settle followed]
termination_by structural items

theorem Members.lift_of_settle (members : Members φ) {held : Members Empty}
    (settled : members.settle blame = .ok held) : held.lift = members := by
  match members with
  | .done => cases settled; rfl
  | .broken flaw => cases settled
  | .cons (.flawed flaw) _ _ => cases settled
  | .cons (.name key) value rest =>
    obtain ⟨first, taken, others⟩ := bind_eq_ok.mp settled
    obtain ⟨later, followed, whole⟩ := bind_eq_ok.mp others
    cases whole
    rw [Members.lift, value.lift_of_settle taken, rest.lift_of_settle followed]
termination_by structural members
end

end Held

end NanAdapter
