import NanAdapter.Proofs.MemberOrder

/-! Where the parts of a value stand in its document. A record may be given as an object or as an array, and then a part
is the member of its name or the element in its place. Whatever else the document has, and in whatever order, a value
that was read has its parts from there. -/

namespace NanAdapter

namespace Json

/-- The member of that name, or the element in that place. -/
def part? (json : Json) (name : String) (place : Nat) : Option Json :=
  match json with
  | .arr items => items.toList[place]?
  | json => json.member? name

theorem part?_array (items : List Json) (name : String) (place : Nat) :
    (array items).part? name place = items[place]? := by
  rw [array, part?, Items.toList_ofList]

/-- The last member of a name is among those of that name. -/
theorem member?_named (members : List (String × Json)) (name : String) :
    (object members).member? name = (named name members).getLast?.map (·.2) := by
  rw [object, member?, Members.toList_ofList, named, ← List.head?_filter, List.filter_reverse, List.head?_reverse]

/-- Other members make no difference. -/
theorem member?_unnamed {name other : String} (unlike : name ≠ other) (members : List (String × Json)) :
    (object (unnamed other members)).member? name = (object members).member? name := by
  have kept : named name (unnamed other members) = named name members := by
    rw [named, unnamed, List.filter_filter, named]
    apply List.filter_congr
    intro member _
    by_cases here : member.1 = name
    · simp [here, unlike]
    · simp [here]
  rw [member?_named, member?_named, kept]

end Json

namespace Fields

section Slot
variable {name : String} {schema : Schema α} {default : Option α}

/-- A slot that was filled has its value from the only member of its name. -/
theorem gather_named {members : List (String × Json)} {slot filled : Option α}
    (gathered : (Fields.cons name schema default .done).gather members (slot, ()) = .ok (filled, ())) :
    Json.named name members = [] ∧ filled = slot ∨
      ∃ json value, slot = none ∧ Json.named name members = [(name, json)] ∧ schema.held json = .ok value ∧
        filled = some value := by
  induction members generalizing slot with
  | nil =>
    cases gathered
    exact .inl ⟨rfl, rfl⟩
  | cons member rest ih =>
    obtain ⟨key, json⟩ := member
    obtain ⟨⟨middle, _⟩, put, followed⟩ := gather_cons_eq_ok.mp gathered
    rw [put_cons] at put
    by_cases here : key = name
    · subst here
      rw [if_pos rfl] at put
      obtain ⟨rfl, -, value, held, rfl⟩ := put
      obtain ⟨alone, rfl⟩ | ⟨_, _, taken, -⟩ := ih followed
      · exact .inr ⟨json, value, rfl, by rw [Json.named_same, alone], held, rfl⟩
      · cases taken
    · rw [if_neg here] at put
      obtain ⟨rfl, -⟩ := put
      rw [Json.named_other here]
      exact ih followed

end Slot

/-- What an object fills the slots with is what stands under their names. -/
theorem takes_of_gather : {β σ : Type} → {fields : Fields β σ} → fields.names.Nodup → {members : List (String × Json)} →
    {slots : σ} → fields.gather members fields.vacant = .ok slots → {values : β} → fields.fill slots = .ok values →
    fields.Takes (Json.object members).member? values
  | _, _, .done, _, _, (), _, (), _ => trivial
  | _, _, .cons name schema default rest, unlike, members, (slot, slots), gathered, (value, values), filled => by
    obtain ⟨absent, unlike⟩ := List.nodup_cons.mp unlike
    -- The first slot is filled from the members of its name, the others from those that are left.
    obtain ⟨first, others⟩ := (gather_split absent members none slot rest.vacant slots).mp gathered
    rw [fill] at filled
    cases chosen : slot.or default with
    | none =>
      rw [chosen] at filled
      cases filled
    | some found =>
      rw [chosen] at filled
      obtain ⟨later, followed, same⟩ := map_eq_ok.mp filled
      cases same
      refine ⟨?_, takes_of_gather unlike others followed⟩
      rw [Json.member?_named]
      obtain ⟨missing, rfl⟩ | ⟨json, value', -, alone, held, rfl⟩ := gather_named first
      · rw [missing]
        exact chosen
      · rw [alone]
        cases chosen
        exact held
termination_by structural _ _ fields => fields

/-- What an array has for the members is what stands in their places. -/
theorem takes_of_readItems : {β σ : Type} → {fields : Fields β σ} → fields.names.Nodup → {title : String} →
    {taken : Nat} → {items : List Json} → {values : β} →
    fields.readItems Empty.elim .held title taken (.ofList items) = .ok values →
    fields.Takes (fun name => items[fields.names.idxOf name]?) values
  | _, _, .done, _, _, _, _, (), _ => trivial
  | _, _, .cons name schema default rest, unlike, title, taken, items, (value, values), read => by
    obtain ⟨absent, distinct⟩ := List.nodup_cons.mp unlike
    have places {other : String} (listed : other ∈ rest.names) :
        (Fields.cons name schema default rest).names.idxOf other = rest.names.idxOf other + 1 := by
      have apart : name ≠ other := fun same => absent (same ▸ listed)
      rw [names, List.idxOf_cons_ne _ apart]
    have first : (Fields.cons name schema default rest).names.idxOf name = 0 := by
      rw [names, List.idxOf_cons_self]
    rw [Takes, first]
    cases items with
    | nil =>
      cases default with
      | none => simp [Items.ofList, readItems] at read
      | some before =>
        -- An array that is too short leaves all further members to their defaults.
        rw [Items.ofList, readItems] at read
        obtain ⟨later, followed, same⟩ := map_eq_ok.mp read
        cases same
        have nothing : rest.readItems Empty.elim .held title (taken + 1) (.ofList []) = .ok values := followed
        exact ⟨rfl, (rest.takes_congr fun _ _ => rfl).mp (takes_of_readItems distinct nothing)⟩
    | cons json items =>
      obtain ⟨held, followed⟩ := readItems_cons.mp read
      refine ⟨held, (rest.takes_congr fun other listed => ?_).mp (takes_of_readItems distinct followed)⟩
      rw [places listed]
      rfl
termination_by structural _ _ fields => fields

end Fields

namespace Schema

section Record
variable {name : String} {fields : Fields β σ} {shape : Shape β α}

/-- A record has its values from the parts of its document. -/
theorem takes_of_held_record (unlike : fields.names.Nodup) {json : Json} {value : α}
    (taken : (record name fields shape).held json = .ok value) :
    ∃ values, fields.Takes (fun name => json.part? name (fields.names.idxOf name)) values ∧
      shape.pack values = value := by
  cases json with
  | obj members =>
    rw [held, read] at taken
    obtain ⟨slots, gathered, taken⟩ := bind_eq_ok.mp taken
    obtain ⟨values, filled, whole⟩ := bind_eq_ok.mp taken
    rw [← members.ofList_toList] at gathered
    refine ⟨values, ?_, Except.ok.inj whole⟩
    have found := Fields.takes_of_gather unlike gathered filled
    rwa [Json.object, members.ofList_toList] at found
  | arr items =>
    rw [held, read] at taken
    obtain ⟨values, read, whole⟩ := bind_eq_ok.mp taken
    rw [← items.ofList_toList] at read
    exact ⟨values, Fields.takes_of_readItems unlike read, Except.ok.inj whole⟩
  | flawed flaw => exact flaw.reading.elim
  | null | bool _ | int _ | real _ | str _ => simp [held, read] at taken

end Record

section Tagged
variable {κ : Type} {body slots : κ → Type} {name tag : String} {names : Names κ} {title : κ → String}
  {fields : (k : κ) → Fields (body k) (slots k)} {shape : Shape ((k : κ) × body k) α} {φ : Type} {blame : φ → Fault}
  {source : Source}

/-- A tagged value has its parts from its document. In an array the tag comes before them. -/
theorem takes_of_read_tagged (unlike : ∀ k, (fields k).names.Nodup) (untagged : ∀ k, tag ∉ (fields k).names)
    {json : Json} {value : α}
    (taken : (tagged name tag names title fields shape).read blame source json.lift = .ok value) :
    ∃ k values, (fields k).Takes (fun name => json.part? name ((fields k).names.idxOf name + 1)) values ∧
      shape.pack ⟨k, values⟩ = value := by
  cases json with
  | obj members =>
    rw [← members.ofList_toList] at taken
    obtain ⟨k, -, slots, gathered, values, filled, whole⟩ := (read_tagged_object blame source).mp taken
    refine ⟨k, values, ?_, whole⟩
    refine ((fields k).takes_congr fun other listed => ?_).mp (Fields.takes_of_gather (unlike k) gathered filled)
    -- The tag is read first, so the members were gathered without it.
    have apart : other ≠ tag := fun same => untagged k (same ▸ listed)
    rw [Json.member?_unnamed apart, Json.object, members.ofList_toList]
    rfl
  | arr items =>
    rw [← items.ofList_toList] at taken ⊢
    cases whole : items.toList with
    | nil =>
      rw [whole] at taken
      simp [Items.ofList, Doc.lift, Items.lift, read] at taken
    | cons label rest =>
      rw [whole] at taken
      obtain ⟨k, -, values, read, whole⟩ := (read_tagged_array blame source).mp taken
      refine ⟨k, values, ?_, whole⟩
      refine ((fields k).takes_congr fun other _ => ?_).mp (Fields.takes_of_readItems (unlike k) read)
      change _ = (Json.array (label :: rest)).part? other _
      rw [Json.part?_array, List.getElem?_cons_succ]
  | flawed flaw => exact flaw.reading.elim
  | null | bool _ | int _ | real _ | str _ => simp [Doc.lift, read] at taken

end Tagged

section Adjacent
variable {κ : Type} {body : κ → Type} {name tag content : String} {names : Names κ} {schema : (k : κ) → Schema (body k)}
  {shape : Shape ((k : κ) × body k) α}

/-- Beside a tag the content has its value from its own part of the document, if nothing else stands for it. -/
theorem content_of_held_adjacent (different : content ≠ tag) (present : ∀ k, (schema k).absent? = none) {json : Json}
    {value : α} (taken : (adjacent name tag content names schema shape).held json = .ok value) :
    ∃ k inner held, json.part? content 1 = some inner ∧ (schema k).held inner = .ok held ∧
      shape.pack ⟨k, held⟩ = value := by
  cases json with
  | obj members =>
    rw [← members.ofList_toList] at taken ⊢
    obtain ⟨k, -, held, brought, whole⟩ := held_adjacent_object.mp taken
    obtain ⟨-, absent⟩ | ⟨inner, alone, read⟩ := brought
    · rw [present k] at absent
      cases absent
    · refine ⟨k, inner, held, ?_, read, whole⟩
      change (Json.object members.toList).member? content = some inner
      rw [← Json.member?_unnamed different, Json.member?_named, alone]
      rfl
  | arr items =>
    rw [← items.ofList_toList] at taken ⊢
    cases whole : items.toList with
    | nil =>
      rw [whole] at taken
      simp [Items.ofList, held, read] at taken
    | cons label rest =>
      rw [whole] at taken
      obtain ⟨k, -, inner, rfl, held, read, whole⟩ := held_adjacent_array.mp taken
      exact ⟨k, inner, held, Json.part?_array _ _ _, read, whole⟩
  | flawed flaw => exact flaw.reading.elim
  | null | bool _ | int _ | real _ | str _ => simp [held, read] at taken

end Adjacent

end Schema

end NanAdapter
