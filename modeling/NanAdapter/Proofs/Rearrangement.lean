import Mathlib.Logic.Relation
import NanAdapter.Proofs.MemberOrder
import NanAdapter.Proofs.WholeTexts

/-! The same document in another arrangement: the members of its objects are put in another order, and members
are added that nothing knows. It is read as before, or refused as before. -/

namespace NanAdapter

namespace Json

/-- The members of one object are put in another order, anywhere in the document. -/
inductive Permuted : Json → Json → Prop where
  | here {members others : List (String × Json)} (order : members.Perm others) :
    Permuted (object members) (object others)
  | member {given other : Json} (inside : Permuted given other) (before : List (String × Json)) (key : String)
    (after : List (String × Json)) :
    Permuted (object (before ++ (key, given) :: after)) (object (before ++ (key, other) :: after))
  | element {given other : Json} (inside : Permuted given other) (before after : List Json) :
    Permuted (array (before ++ given :: after)) (array (before ++ other :: after))

/-- There is one member more, and its name is none of these. -/
def Gains (known : List String) (members others : List (String × Json)) : Prop :=
  ∃ before added after, members = before ++ after ∧ others = before ++ added :: after ∧ added.1 ∉ known

/-- The document of one member has changed. -/
def Changes (change : String → Json → Json → Prop) (members others : List (String × Json)) : Prop :=
  ∃ before key given other after,
    members = before ++ (key, given) :: after ∧ others = before ++ (key, other) :: after ∧ change key given other

/-- The tag stands for nothing else. -/
def Undisputed {κ : Type} (readLabel : Json → Except Fault κ) (tag : String) (members : List (String × Json)) (k : κ) :
    Prop :=
  ∀ other, Tells readLabel tag members other → other = k

end Json

mutual
/-- One member more, which is unknown in its place: in an object for a record, for a tag with other members, or
for a tag with a content. -/
def Schema.Grows : {α : Type} → Schema α → (given more : Json) → Prop
  | _, .integer _, _, _ | _, .boolean, _, _ | _, .text, _, _ | _, .symbol _, _, _ => False
  | _, .optional schema, given, more => schema.Grows given more
  | _, .list item, given, more | _, .fixed _ item, given, more =>
    ∃ before part wider after, given = .array (before ++ part :: after) ∧ more = .array (before ++ wider :: after) ∧
      item.Grows part wider
  | _, .record _ fields _, given, more =>
    (∃ members others, given = .object members ∧ more = .object others ∧
        (Json.Gains fields.names members others ∨
          Json.Changes (fun key part wider => fields.GrowsAt key part wider) members others)) ∨
      ∃ items others, given = .array items ∧ more = .array others ∧ fields.GrowsItems items others
  | _, .tagged _ tag names _ fields _, given, more =>
    (∃ members others k, given = .object members ∧ more = .object others ∧
        Json.Undisputed (names.readTag Empty.elim .held) tag members k ∧
        (Json.Gains (tag :: (fields k).names) members others ∨
          Json.Changes (fun key part wider => key ≠ tag ∧ (fields k).GrowsAt key part wider) members others)) ∨
      ∃ label items others k, given = .array (label :: items) ∧ more = .array (label :: others) ∧
        (∀ other, names.readTag Empty.elim .held label = .ok other → other = k) ∧ (fields k).GrowsItems items others
  | _, .adjacent _ tag content names schema _, given, more =>
    (∃ members others, given = .object members ∧ more = .object others ∧
        (Json.Gains [tag, content] members others ∨
          ∃ k, Json.Undisputed (names.read Empty.elim .held) tag members k ∧
            Json.Changes (fun key part wider => key ≠ tag ∧ key = content ∧ (schema k).Grows part wider) members
              others)) ∨
      ∃ label part wider k, given = .array [label, part] ∧ more = .array [label, wider] ∧
        (∀ other, names.readTag Empty.elim .held label = .ok other → other = k) ∧ (schema k).Grows part wider
  | _, .via _ inner, given, more => inner.Grows given more

/-- The same in the document of a member that has this name. -/
def Fields.GrowsAt : {β σ : Type} → Fields β σ → (key : String) → (given more : Json) → Prop
  | _, _, .done, _, _, _ => False
  | _, _, .cons name schema _ rest, key, given, more =>
    if key = name then schema.Grows given more else rest.GrowsAt key given more

/-- The same in one element of an array that stands for a record. -/
def Fields.GrowsItems : {β σ : Type} → Fields β σ → (given more : List Json) → Prop
  | _, _, .cons _ schema _ rest, item :: items, other :: others =>
    schema.Grows item other ∧ items = others ∨ item = other ∧ rest.GrowsItems items others
  | _, _, _, _, _ => False
end

/-- The documents that come from one by putting members in another order, and by adding unknown ones. -/
def Schema.Rearranged (schema : Schema α) : Json → Json → Prop :=
  Relation.ReflTransGen fun given other => given.Permuted other ∨ schema.Grows given other

/-! Documents that are read alike whatever is wanted -/

namespace Json

/-- What stands for nothing beside a name. -/
def Blank (json : Json) : Prop := json = .null ∨ json = object []

theorem blank_object {members : List (String × Json)} : (object members).Blank ↔ members = [] := by
  cases members <;> simp [Blank, object, Members.ofList]

theorem not_blank_array {items : List Json} : ¬ (array items).Blank := by simp [Blank, array, object]

structure Alike (given other : Json) : Prop where
  same {α : Type} (schema : Schema α) : schema.Same given other
  label {κ : Type} (names : Names κ) (source : Source) (k : κ) :
    names.readTag Empty.elim source given = .ok k ↔ names.readTag Empty.elim source other = .ok k
  blank : given.Blank ↔ other.Blank

theorem Alike.refl (json : Json) : json.Alike json := ⟨fun schema => .refl schema json, fun _ _ _ => Iff.rfl, Iff.rfl⟩

theorem Alike.symm {given other : Json} (alike : given.Alike other) : other.Alike given :=
  ⟨fun schema value => (alike.same schema value).symm, fun names source k => (alike.label names source k).symm,
    alike.blank.symm⟩

/-- The members differ in their order, or one of them in its document. -/
inductive AlikeMembers : (given other : List (String × Json)) → Prop where
  | order {members others : List (String × Json)} (same : members.Perm others) : AlikeMembers members others
  | inside {given other : Json} (alike : given.Alike other) (before : List (String × Json)) (key : String)
    (after : List (String × Json)) : AlikeMembers (before ++ (key, given) :: after) (before ++ (key, other) :: after)

namespace AlikeMembers
variable {members others : List (String × Json)}

theorem symm (alike : AlikeMembers members others) : AlikeMembers others members := by
  cases alike with
  | order same => exact .order same.symm
  | inside alike before key after => exact .inside alike.symm before key after

theorem named (alike : AlikeMembers members others) (name : String) :
    AlikeMembers (Json.named name members) (Json.named name others) := by
  cases alike with
  | order same => exact .order (same.filter _)
  | inside alike before key after =>
    rw [named_append, named_append]
    by_cases here : key = name
    · subst here
      rw [named_same, named_same]
      exact .inside alike _ key _
    · rw [named_other here, named_other here]
      exact .order (.refl _)

theorem unnamed (alike : AlikeMembers members others) (name : String) :
    AlikeMembers (Json.unnamed name members) (Json.unnamed name others) := by
  cases alike with
  | order same => exact .order (same.filter _)
  | inside alike before key after =>
    rw [unnamed_append, unnamed_append]
    by_cases here : key = name
    · subst here
      rw [unnamed_same, unnamed_same]
      exact .order (.refl _)
    · rw [unnamed_other here, unnamed_other here]
      exact .inside alike _ key _

theorem eq_nil (alike : AlikeMembers members others) (none : members = []) : others = [] := by
  cases alike with
  | order same => exact (none ▸ same).nil_eq.symm
  | inside alike before key after => exact absurd none (by simp)

theorem eq_singleton (alike : AlikeMembers members others) {name : String} {json : Json}
    (single : members = [(name, json)]) : ∃ other, others = [(name, other)] ∧ json.Alike other := by
  cases alike with
  | order same =>
    rw [single] at same
    exact ⟨json, List.singleton_perm.mp same |>.symm, .refl json⟩
  | inside alike before key after =>
    obtain rfl : before = [] := by
      cases before with
      | nil => rfl
      | cons first rest => simp at single
    cases single
    exact ⟨_, rfl, alike⟩

theorem tells (alike : AlikeMembers members others) {κ : Type} {readLabel : Json → Except Fault κ}
    (respects : ∀ {given other : Json}, given.Alike other → ∀ {k}, readLabel given = .ok k → readLabel other = .ok k)
    (tag : String) (k : κ) : Tells readLabel tag members k ↔ Tells readLabel tag others k := by
  have forth {members others : List (String × Json)} (alike : AlikeMembers members others)
      (told : Tells readLabel tag members k) : Tells readLabel tag others k := by
    obtain ⟨label, single, read⟩ := told
    obtain ⟨other, alone, same⟩ := (alike.named tag).eq_singleton single
    exact ⟨other, alone, respects same read⟩
  exact ⟨forth alike, forth alike.symm⟩

theorem fields (alike : AlikeMembers members others) (fields : Fields β σ) : fields.Alike members others := by
  cases alike with
  | order same => exact fields.alike_of_perm same
  | inside alike before key after => exact Fields.alike_of_sameAt (fields.sameAt_of_same alike.same key) before after

theorem brings (alike : AlikeMembers members others) (schema : Schema β) (content : String) (value : β) :
    schema.Brings content members value ↔ schema.Brings content others value := by
  have forth {members others : List (String × Json)} (alike : AlikeMembers members others)
      (brought : schema.Brings content members value) : schema.Brings content others value := by
    rcases brought with ⟨missing, absent⟩ | ⟨json, single, held⟩
    · exact .inl ⟨(alike.named content).eq_nil missing, absent⟩
    · obtain ⟨other, alone, same⟩ := (alike.named content).eq_singleton single
      exact .inr ⟨other, alone, (same.same schema value).mp held⟩
  exact ⟨forth alike, forth alike.symm⟩

end AlikeMembers

end Json

namespace Schema

/-- The same value is read of either document, wherever it comes from. -/
def SameFrom {φ : Type} (blame : φ → Fault) (source : Source) (schema : Schema α) (given other : Json) : Prop :=
  ∀ value, schema.read blame source given.lift = .ok value ↔ schema.read blame source other.lift = .ok value

theorem SameFrom.held {schema : Schema α} {given other : Json} (same : schema.SameFrom Empty.elim .held given other) :
    schema.Same given other := by
  intro value
  have taken := same value
  rwa [given.lift_self, other.lift_self] at taken

section Optional
variable {schema : Schema α}

theorem optional_same {given other : Json} (present : given ≠ .null) (present' : other ≠ .null)
    (same : schema.Same given other) : (optional schema).Same given other := by
  have held {json : Json} (present : json ≠ .null) : (optional schema).held json = (schema.held json).map some := by
    cases json with
    | null => exact absurd rfl present
    | flawed flaw => exact flaw.reading.elim
    | bool _ | int _ | real _ | str _ | arr _ | obj _ => rfl
  intro value
  simp only [held present, held present', map_eq_ok, same _]

theorem via_same {shape : Shape α β} {given other : Json} (same : schema.Same given other) :
    (via shape schema).Same given other := by
  intro value
  have taken (json : Json) : (via shape schema).held json = (schema.held json).map shape.pack := rfl
  simp only [taken, map_eq_ok, same _]

end Optional

/-- A name of a closed list may be spelled as the only member of an object. -/
theorem held_symbol_object {κ : Type} {names : Names κ} {members : List (String × Json)} {k : κ} :
    (symbol names).held (Json.object members) = .ok k ↔
      ∃ key json, members = [(key, json)] ∧ names.find? key = some k ∧ json.Blank := by
  rcases members with _ | ⟨⟨key, json⟩, _ | ⟨next, rest⟩⟩
  · simp [held, Json.object, Members.ofList, read, Names.read]
  · have spelled (next : κ → Except Fault κ)
        (same : (symbol names).held (Json.object [(key, json)]) = names.read Empty.elim .held (.str key) >>= next) :
        (symbol names).held (Json.object [(key, json)]) = .ok k ↔
          ∃ k', names.find? key = some k' ∧ next k' = .ok k := by
      simp only [same, bind_eq_ok, Names.read_str]
    have single : (∃ key' json', [(key, json)] = [(key', json')] ∧ names.find? key' = some k ∧ json'.Blank) ↔
        names.find? key = some k ∧ json.Blank := by
      simp
    rw [single]
    cases json with
    | null => simpa [Json.Blank] using spelled .ok rfl
    | bool _ | int _ | real _ | str _ | arr _ =>
      simpa [Json.Blank, Json.object, Members.ofList] using spelled (fun _ => .error _) rfl
    | flawed flaw => exact flaw.reading.elim
    | obj members =>
      cases members with
      | done => simpa [Json.Blank, Json.object, Members.ofList] using spelled .ok rfl
      | cons _ _ _ => simpa [Json.Blank, Json.object, Members.ofList] using spelled (fun _ => .error _) rfl
      | broken flaw => exact flaw.reading.elim
  · simp [held, Json.object, Members.ofList, read, Names.read]

section Tagged
variable {κ : Type} {body slots : κ → Type} {name tag : String} {names : Names κ} {title : κ → String}
  {fields : (k : κ) → Fields (body k) (slots k)} {shape : Shape ((k : κ) × body k) α} {φ : Type} (blame : φ → Fault)
  (source : Source)

theorem tagged_object_sameFrom {members others : List (String × Json)}
    (same : ∀ k, Json.Tells (names.readTag Empty.elim source) tag members k ↔
      Json.Tells (names.readTag Empty.elim source) tag others k)
    (alike : ∀ k, Json.Tells (names.readTag Empty.elim .held) tag members k →
      (fields k).Alike (Json.unnamed tag members) (Json.unnamed tag others)) :
    (tagged name tag names title fields shape).SameFrom blame source (Json.object members) (Json.object others) := by
  intro value
  rw [read_tagged_object, read_tagged_object]
  refine exists_congr fun k => ?_
  rw [← same k]
  refine and_congr_right fun told => ?_
  obtain ⟨label, single, read⟩ := told
  simp only [alike k ⟨label, single, names.readTag_held read⟩ _ _]

theorem tagged_array_sameFrom {label label' : Json} {items others : List Json}
    (same : ∀ k, names.readTag Empty.elim source label = .ok k ↔ names.readTag Empty.elim source label' = .ok k)
    (alike : ∀ k, names.readTag Empty.elim .held label = .ok k → (fields k).SameItems items others) :
    (tagged name tag names title fields shape).SameFrom blame source (Json.array (label :: items))
      (Json.array (label' :: others)) := by
  intro value
  rw [read_tagged_array, read_tagged_array]
  refine exists_congr fun k => ?_
  rw [← same k]
  refine and_congr_right fun read => ?_
  simp only [Fields.readItems_same (alike k (names.readTag_held read))]

end Tagged

theorem adjacent_array_same {κ : Type} {body : κ → Type} {name tag content : String} {names : Names κ}
    {schema : (k : κ) → Schema (body k)} {shape : Shape ((k : κ) × body k) α} {label label' : Json}
    {items others : List Json}
    (same : ∀ k, names.readTag Empty.elim .held label = .ok k ↔ names.readTag Empty.elim .held label' = .ok k)
    (alike : ∀ k, names.readTag Empty.elim .held label = .ok k → List.Forall₂ (schema k).Same items others) :
    (adjacent name tag content names schema shape).Same (Json.array (label :: items))
      (Json.array (label' :: others)) := by
  intro value
  rw [held_adjacent_array, held_adjacent_array]
  refine exists_congr fun k => ?_
  rw [← same k]
  refine and_congr_right fun read => ?_
  cases alike k read with
  | nil => simp
  | cons first later =>
    cases later with
    | nil => simp [first _]
    | cons _ _ => simp

end Schema

/-! Another order -/

namespace Json

section Tagged
variable {κ : Type} {body slots : κ → Type} {name tag : String} {names : Names κ} {title : κ → String}
  {fields : (k : κ) → Fields (body k) (slots k)} {shape : Shape ((k : κ) × body k) α} {φ : Type} (blame : φ → Fault)
  (source : Source)

theorem AlikeMembers.tagged_sameFrom {members others : List (String × Json)} (alike : AlikeMembers members others) :
    (Schema.tagged name tag names title fields shape).SameFrom blame source (object members) (object others) := by
  apply Schema.tagged_object_sameFrom
  · exact alike.tells (fun same k read => (same.label names _ k).mp read) tag
  · exact fun k _ => (alike.unnamed tag).fields (fields k)

theorem sameItems_of_alike : {β σ : Type} → (fields : Fields β σ) → {items others : List Json} →
    List.Forall₂ Alike items others → fields.SameItems items others
  | _, _, .done, _, _, alike => alike.length_eq
  | _, _, .cons _ _ _ _, _, _, .nil => rfl
  | _, _, .cons _ schema _ rest, _, _, .cons first later => ⟨first.same schema, sameItems_of_alike rest later⟩
termination_by structural _ _ fields => fields

theorem array_tagged_sameFrom {items others : List Json} (alike : List.Forall₂ Alike items others) :
    (Schema.tagged name tag names title fields shape).SameFrom blame source (array items) (array others) := by
  cases alike with
  | nil => exact fun _ => Iff.rfl
  | cons first later =>
    exact Schema.tagged_array_sameFrom _ _ (first.label names _) fun k _ => sameItems_of_alike (fields k) later

end Tagged

theorem AlikeMembers.same {members others : List (String × Json)} (alike : AlikeMembers members others) :
    {α : Type} → (schema : Schema α) → schema.Same (object members) (object others)
  | _, .integer _ | _, .boolean | _, .text | _, .list _ => by
    intro value
    simp [Schema.held, object, Schema.read]
  | _, .fixed _ _ => by
    intro value
    simp [Schema.held, object, Schema.read]
  | _, .optional schema => Schema.optional_same nofun nofun (alike.same schema)
  | _, .via shape inner => Schema.via_same (alike.same inner)
  | _, .record name fields shape => Schema.record_object_same (alike.fields fields)
  | _, .symbol names => by
    have forth {members others : List (String × Json)} (alike : AlikeMembers members others) {k}
        (held : (Schema.symbol names).held (object members) = .ok k) :
        (Schema.symbol names).held (object others) = .ok k := by
      obtain ⟨key, json, single, known, blank⟩ := Schema.held_symbol_object.mp held
      obtain ⟨other, alone, same⟩ := alike.eq_singleton single
      exact Schema.held_symbol_object.mpr ⟨key, other, alone, known, same.blank.mp blank⟩
    exact fun k => ⟨forth alike, forth alike.symm⟩
  | _, .tagged _ _ _ _ _ _ => (alike.tagged_sameFrom _ _).held
  | _, .adjacent name tag content names schema shape => by
    intro value
    have told (k : _) :
        Tells (names.read Empty.elim .held) tag members k ↔ Tells (names.read Empty.elim .held) tag others k :=
      alike.tells (fun same k read => (same.same (.symbol names) k).mp read) tag k
    simp only [Schema.held_adjacent_object, told, (alike.unnamed tag).brings (schema _)]
termination_by structural _ schema => schema

theorem array_same {items others : List Json} (alike : List.Forall₂ Alike items others) :
    {α : Type} → (schema : Schema α) → schema.Same (array items) (array others)
  | _, .integer _ | _, .boolean | _, .text | _, .symbol _ => by
    intro value
    simp [Schema.held, array, Schema.read, Names.read]
  | _, .list item => Schema.list_same (alike.imp fun _ _ same => same.same item)
  | _, .fixed count item => Schema.fixed_same (alike.imp fun _ _ same => same.same item)
  | _, .optional schema => Schema.optional_same nofun nofun (array_same alike schema)
  | _, .via shape inner => Schema.via_same (array_same alike inner)
  | _, .record name fields shape => Schema.record_array_same (sameItems_of_alike fields alike)
  | _, .tagged _ _ _ _ _ _ => (array_tagged_sameFrom _ _ alike).held
  | _, .adjacent name tag content names schema shape => by
    cases alike with
    | nil => exact .refl _ _
    | cons first later =>
      exact Schema.adjacent_array_same (first.label names _) fun k _ => later.imp fun _ _ same => same.same (schema k)
termination_by structural _ schema => schema

theorem forall₂_middle {r : α → α → Prop} (refl : ∀ x, r x x) {one other : α} (here : r one other)
    (before : List α) (after : List α) :
    List.Forall₂ r (before ++ one :: after) (before ++ other :: after) := by
  have same (items : List α) : List.Forall₂ r items items := List.forall₂_same.mpr fun x _ => refl x
  induction before with
  | nil => exact .cons here (same after)
  | cons first _ ih => exact .cons (refl first) ih

theorem Permuted.alike {given other : Json} (permuted : given.Permuted other) : given.Alike other := by
  have object_alike {members others : List (String × Json)} (alike : AlikeMembers members others) :
      (object members).Alike (object others) := by
    refine ⟨alike.same, ?_, ?_⟩
    · intro κ names source k
      simp [object, Names.readTag]
    · rw [blank_object, blank_object]
      exact ⟨alike.eq_nil, alike.symm.eq_nil⟩
  induction permuted with
  | here order => exact object_alike (.order order)
  | member _ before key after ih => exact object_alike (.inside ih before key after)
  | element _ before after ih =>
    refine ⟨array_same (forall₂_middle Alike.refl ih before after), ?_, ?_⟩
    · intro κ names source k
      simp [array, Names.readTag]
    · exact iff_of_false not_blank_array not_blank_array

theorem Permuted.tagged_sameFrom {κ : Type} {body slots : κ → Type} {name tag : String} {names : Names κ}
    {title : κ → String} {fields : (k : κ) → Fields (body k) (slots k)} {shape : Shape ((k : κ) × body k) α} {φ : Type}
    (blame : φ → Fault) (source : Source) {given other : Json} (permuted : given.Permuted other) :
    (Schema.tagged name tag names title fields shape).SameFrom blame source given other := by
  cases permuted with
  | here order => exact (AlikeMembers.order order).tagged_sameFrom blame source
  | member inside before key after =>
    exact (AlikeMembers.inside inside.alike before key after).tagged_sameFrom blame source
  | element inside before after =>
    exact array_tagged_sameFrom blame source (forall₂_middle Alike.refl inside.alike before after)

end Json

/-! Unknown members -/

namespace Fields

theorem alike_of_gains {fields : Fields β σ} {known : List String} (covers : ∀ name ∈ fields.names, name ∈ known)
    {members others : List (String × Json)} (gains : Json.Gains known members others) :
    fields.Alike members others := by
  obtain ⟨before, ⟨key, json⟩, after, rfl, rfl, unknown⟩ := gains
  exact fields.alike_of_unknown (fun member => unknown (covers key member)) before json after

end Fields

namespace Json

theorem Gains.named {known : List String} {members others : List (String × Json)} (gains : Gains known members others)
    {name : String} (member : name ∈ known) : named name members = named name others := by
  obtain ⟨before, ⟨key, json⟩, after, rfl, rfl, unknown⟩ := gains
  have other : key ≠ name := fun same => unknown (same ▸ member)
  rw [named_append, named_append, named_other other]

theorem Gains.unnamed {known : List String} {members others : List (String × Json)} (gains : Gains known members others)
    {name : String} (member : name ∈ known) : Gains known (unnamed name members) (unnamed name others) := by
  obtain ⟨before, ⟨key, json⟩, after, rfl, rfl, unknown⟩ := gains
  have other : key ≠ name := fun same => unknown (same ▸ member)
  refine ⟨Json.unnamed name before, (key, json), Json.unnamed name after, unnamed_append .., ?_, unknown⟩
  rw [unnamed_append, unnamed_other other]

theorem Changes.named {change : String → Json → Json → Prop} {members others : List (String × Json)}
    (changes : Changes change members others) {name : String}
    (apart : ∀ {key given other}, change key given other → key ≠ name) :
    named name members = named name others := by
  obtain ⟨before, key, given, other, after, rfl, rfl, changed⟩ := changes
  rw [named_append, named_append, named_other (apart changed), named_other (apart changed)]

theorem Changes.unnamed {change : String → Json → Json → Prop} {members others : List (String × Json)}
    (changes : Changes change members others) {name : String}
    (apart : ∀ {key given other}, change key given other → key ≠ name) :
    Changes change (unnamed name members) (unnamed name others) := by
  obtain ⟨before, key, given, other, after, rfl, rfl, changed⟩ := changes
  refine ⟨Json.unnamed name before, key, given, other, Json.unnamed name after, ?_, ?_, changed⟩
  · rw [unnamed_append, unnamed_other (apart changed)]
  · rw [unnamed_append, unnamed_other (apart changed)]

end Json

theorem Fields.alike_of_changes {fields : Fields β σ} {change : String → Json → Json → Prop}
    (same : ∀ {key given other}, change key given other → fields.SameAt key given other)
    {members others : List (String × Json)} (changes : Json.Changes change members others) :
    fields.Alike members others := by
  obtain ⟨before, key, given, other, after, rfl, rfl, changed⟩ := changes
  exact alike_of_sameAt (same changed) before after

theorem Json.tells_congr {κ : Type} {readLabel : Json → Except Fault κ} {tag : String}
    {members others : List (String × Json)} (same : named tag members = named tag others) (k : κ) :
    Tells readLabel tag members k ↔ Tells readLabel tag others k := by
  rw [Tells, Tells, same]

/-- An array or an object, which never stands for a name of a closed list alone. -/
def Json.Nested : Json → Prop
  | .arr _ | .obj _ => True
  | _ => False

namespace Schema

section Tagged
variable {κ : Type} {body slots : κ → Type} {name tag : String} {names : Names κ} {title : κ → String}
  {fields : (k : κ) → Fields (body k) (slots k)} {shape : Shape ((k : κ) × body k) α}
  (sameAt : ∀ k {key given more}, (fields k).GrowsAt key given more → (fields k).SameAt key given more)
  (sameItems : ∀ k {given more}, (fields k).GrowsItems given more → (fields k).SameItems given more)
include sameAt sameItems

theorem tagged_sameFrom_of_grows {φ : Type} (blame : φ → Fault) (source : Source) {given more : Json}
    (grows : (tagged name tag names title fields shape).Grows given more) :
    (tagged name tag names title fields shape).SameFrom blame source given more := by
  rcases grows with ⟨members, others, k, rfl, rfl, undisputed, gains | changes⟩ |
    ⟨label, items, others, k, rfl, rfl, undisputed, grows⟩
  · refine tagged_object_sameFrom _ _ (Json.tells_congr (gains.named List.mem_cons_self)) fun k' told => ?_
    obtain rfl := undisputed k' told
    exact Fields.alike_of_gains (fun name member => List.mem_cons_of_mem tag member) (gains.unnamed List.mem_cons_self)
  · refine tagged_object_sameFrom _ _ (Json.tells_congr (changes.named And.left)) fun k' told => ?_
    obtain rfl := undisputed k' told
    exact Fields.alike_of_changes (fun change => sameAt _ change.2) (changes.unnamed And.left)
  · refine tagged_array_sameFrom _ _ (fun _ => Iff.rfl) fun k' read => ?_
    obtain rfl := undisputed k' read
    exact sameItems _ grows

end Tagged

theorem adjacent_object_same {κ : Type} {body : κ → Type} {name tag content : String} {names : Names κ}
    {schema : (k : κ) → Schema (body k)} {shape : Shape ((k : κ) × body k) α} {members others : List (String × Json)}
    (same : ∀ k, Json.Tells (names.read Empty.elim .held) tag members k ↔
      Json.Tells (names.read Empty.elim .held) tag others k)
    (brings : ∀ k, Json.Tells (names.read Empty.elim .held) tag members k → ∀ body,
      (schema k).Brings content (Json.unnamed tag members) body ↔
        (schema k).Brings content (Json.unnamed tag others) body) :
    (adjacent name tag content names schema shape).Same (Json.object members) (Json.object others) := by
  intro value
  rw [held_adjacent_object, held_adjacent_object]
  refine exists_congr fun k => ?_
  rw [← same k]
  refine and_congr_right fun told => ?_
  simp only [brings k told]

/-- Only arrays and objects grow. -/
theorem nested_of_grows : {α : Type} → (schema : Schema α) → {given more : Json} → schema.Grows given more →
    given.Nested ∧ more.Nested
  | _, .integer _, _, _, grows | _, .boolean, _, _, grows | _, .text, _, _, grows | _, .symbol _, _, _, grows =>
    False.elim grows
  | _, .optional schema, _, _, grows => nested_of_grows schema grows
  | _, .via _ inner, _, _, grows => nested_of_grows inner grows
  | _, .list _, _, _, grows | _, .fixed _ _, _, _, grows => by
    obtain ⟨before, part, wider, after, rfl, rfl, -⟩ := grows
    exact ⟨trivial, trivial⟩
  | _, .record _ _ _, _, _, grows => by
    rcases grows with ⟨_, _, rfl, rfl, -⟩ | ⟨_, _, rfl, rfl, -⟩ <;> exact ⟨trivial, trivial⟩
  | _, .tagged _ _ _ _ _ _, _, _, grows => by
    rcases grows with ⟨_, _, _, rfl, rfl, -⟩ | ⟨_, _, _, _, rfl, rfl, -⟩ <;> exact ⟨trivial, trivial⟩
  | _, .adjacent _ _ _ _ _ _, _, _, grows => by
    rcases grows with ⟨_, _, rfl, rfl, -⟩ | ⟨_, _, _, _, rfl, rfl, -⟩ <;> exact ⟨trivial, trivial⟩
termination_by structural _ schema => schema

theorem adjacent_same_of_grows {κ : Type} {body : κ → Type} {name tag content : String} {names : Names κ}
    {schema : (k : κ) → Schema (body k)} {shape : Shape ((k : κ) × body k) α}
    (same : ∀ k {given more}, (schema k).Grows given more → (schema k).Same given more) {given more : Json}
    (grows : (adjacent name tag content names schema shape).Grows given more) :
    (adjacent name tag content names schema shape).Same given more := by
  rcases grows with ⟨members, others, rfl, rfl, gains | ⟨k, undisputed, changes⟩⟩ |
    ⟨label, part, wider, k, rfl, rfl, undisputed, grows⟩
  · refine adjacent_object_same (Json.tells_congr (gains.named List.mem_cons_self)) fun k _ body => ?_
    have others := (gains.unnamed List.mem_cons_self).named (List.mem_cons_of_mem tag List.mem_cons_self)
    rw [Brings, Brings, others]
  · refine adjacent_object_same (Json.tells_congr (changes.named And.left)) fun k' told body => ?_
    obtain rfl := undisputed k' told
    obtain ⟨before, _, part, wider, after, members, others, -, rfl, grows⟩ := changes.unnamed And.left
    rw [members, others, (Json.AlikeMembers.order List.perm_middle).brings,
      (Json.AlikeMembers.order List.perm_middle).brings, brings_same, brings_same, same _ grows]
  · refine adjacent_array_same (fun _ => Iff.rfl) fun k' read => ?_
    obtain rfl := undisputed k' read
    exact .cons (same _ grows) .nil

mutual
theorem same_of_grows : {α : Type} → (schema : Schema α) → {given more : Json} → schema.Grows given more →
    schema.Same given more
  | _, .integer _, _, _, grows | _, .boolean, _, _, grows | _, .text, _, _, grows | _, .symbol _, _, _, grows =>
    False.elim grows
  | _, .optional schema, _, _, grows => by
    obtain ⟨given, more⟩ := nested_of_grows schema grows
    apply optional_same
    · rintro rfl
      exact given
    · rintro rfl
      exact more
    · exact same_of_grows schema grows
  | _, .list item, _, _, grows => by
    obtain ⟨before, part, wider, after, rfl, rfl, grows⟩ := grows
    exact list_same (Json.forall₂_middle (Same.refl item) (same_of_grows item grows) before after)
  | _, .fixed _ item, _, _, grows => by
    obtain ⟨before, part, wider, after, rfl, rfl, grows⟩ := grows
    exact fixed_same (Json.forall₂_middle (Same.refl item) (same_of_grows item grows) before after)
  | _, .record _ fields _, _, _, grows => by
    rcases grows with ⟨members, others, rfl, rfl, gains | changes⟩ | ⟨items, others, rfl, rfl, grows⟩
    · exact record_object_same (Fields.alike_of_gains (fun _ member => member) gains)
    · exact record_object_same (Fields.alike_of_changes (fun grows => sameAt_of_growsAt fields grows) changes)
    · exact record_array_same (sameItems_of_growsItems fields grows)
  | _, .tagged _ _ _ _ fields _, _, _, grows =>
    (tagged_sameFrom_of_grows (fun k _ _ _ grows => sameAt_of_growsAt (fields k) grows)
      (fun k _ _ grows => sameItems_of_growsItems (fields k) grows) Empty.elim .held grows).held
  | _, .adjacent _ _ _ _ schema _, _, _, grows =>
    adjacent_same_of_grows (fun k _ _ grows => same_of_grows (schema k) grows) grows
  | _, .via _ inner, _, _, grows => via_same (same_of_grows inner grows)
termination_by structural _ schema => schema

theorem sameAt_of_growsAt : {β σ : Type} → (fields : Fields β σ) → {key : String} → {given more : Json} →
    fields.GrowsAt key given more → fields.SameAt key given more
  | _, _, .done, _, _, _, grows => False.elim grows
  | _, _, .cons name schema _ rest, key, _, _, grows => by
    rw [Fields.GrowsAt] at grows
    rw [Fields.SameAt]
    split
    next here => exact same_of_grows schema (by rwa [if_pos here] at grows)
    next elsewhere => exact sameAt_of_growsAt rest (by rwa [if_neg elsewhere] at grows)
termination_by structural _ _ fields => fields

theorem sameItems_of_growsItems : {β σ : Type} → (fields : Fields β σ) → {given more : List Json} →
    fields.GrowsItems given more → fields.SameItems given more
  | _, _, .done, _, _, grows => False.elim grows
  | _, _, .cons _ _ _ _, [], _, grows => False.elim grows
  | _, _, .cons _ _ _ _, _ :: _, [], grows => False.elim grows
  | _, _, .cons _ schema _ rest, _ :: _, _ :: _, grows => by
    rcases grows with ⟨here, rfl⟩ | ⟨rfl, later⟩
    · have others (items : List Json) := (List.forall₂_same (l := items)).mpr fun item _ => Json.Alike.refl item
      exact ⟨same_of_grows schema here, Json.sameItems_of_alike rest (others _)⟩
    · exact ⟨Same.refl schema _, sameItems_of_growsItems rest later⟩
termination_by structural _ _ fields => fields
end

theorem list_sameFrom {item : Schema α} {φ : Type} {blame : φ → Fault} {source : Source} {items others : List Json}
    (same : List.Forall₂ (item.SameFrom blame source) items others) :
    (list item).SameFrom blame source (Json.array items) (Json.array others) := by
  intro values
  rw [Json.array, Json.array, Doc.lift, Doc.lift, read, read]
  induction same generalizing values with
  | nil => rfl
  | cons first _ ih =>
    simp only [Items.ofList, Items.lift, Items.mapM, bind_eq_ok, first _, ih]

/-- What no single step changes is not changed in the end. -/
theorem Rearranged.sameFrom {schema : Schema α} {φ : Type} {blame : φ → Fault} {source : Source}
    (step : ∀ {given other}, given.Permuted other ∨ schema.Grows given other → schema.SameFrom blame source given other)
    {given other : Json} (rearranged : schema.Rearranged given other) : schema.SameFrom blame source given other := by
  induction rearranged with
  | refl => exact fun _ => Iff.rfl
  | tail _ last ih => exact fun value => (ih value).trans (step last value)

end Schema

theorem Event.sameFrom {given other : Json} (step : given.Permuted other ∨ schema.Grows given other) :
    schema.SameFrom Break.fault .text given other := by
  rcases step with permuted | grows
  · exact permuted.tagged_sameFrom _ _
  · exact Schema.tagged_sameFrom_of_grows (fun kind _ _ _ grows => Schema.sameAt_of_growsAt kind.fields grows)
      (fun kind _ _ grows => Schema.sameItems_of_growsItems kind.fields grows) _ _ grows

theorem Trace.sameFrom {given other : Json} (step : given.Permuted other ∨ schema.Grows given other) :
    schema.SameFrom Break.fault .text given other := by
  have refl (json : Json) : Event.schema.SameFrom Break.fault .text json json := fun _ => Iff.rfl
  rcases step with permuted | grows
  · cases permuted with
    | here _ | member _ _ _ _ => exact fun events => by simp [Json.object, Doc.lift, schema, Schema.read]
    | element inside before after =>
      exact Schema.list_sameFrom (Json.forall₂_middle refl (Event.sameFrom (.inl inside)) before after)
  · obtain ⟨before, part, wider, after, rfl, rfl, grows⟩ := grows
    exact Schema.list_sameFrom (Json.forall₂_middle refl (Event.sameFrom (.inr grows)) before after)

/-- However the members of its objects are put, and whatever unknown members are added, a text gives the event
that it gave, or is refused as it was; and so do the events of a trace. No name has to be the only one of its
kind for that. A text that holds no document, because it is broken or passes a limit, is refused in any case. -/
theorem arrangement_is_irrelevant :
    (∀ text other given more, Json.ofText text = .ok given → Json.ofText other = .ok more →
      Event.schema.Rearranged given more → ∀ e, Event.schema.ofText text = .ok e ↔ Event.schema.ofText other = .ok e) ∧
    (∀ text other given more, Json.ofText text = .ok given → Json.ofText other = .ok more →
      Trace.schema.Rearranged given more → ∀ events, Trace.ofText text = .ok events ↔ Trace.ofText other = .ok events) ∧
    ∀ text fault, Json.ofText text = .error fault →
      (∀ e, Event.schema.ofText text ≠ .ok e) ∧ ∀ events, Trace.ofText text ≠ .ok events := by
  refine ⟨?_, ?_, ?_⟩
  · intro text other given more holds holds' rearranged e
    rw [Schema.ofText_of_holds Event.settles holds, Schema.ofText_of_holds Event.settles holds']
    exact rearranged.sameFrom Event.sameFrom e
  · intro text other given more holds holds' rearranged events
    rw [Trace.ofText_eq_ok, Trace.ofText_eq_ok, Schema.ofText_of_holds Trace.settles holds,
      Schema.ofText_of_holds Trace.settles holds']
    exact rearranged.sameFrom Trace.sameFrom events
  · intro text fault broken
    constructor
    · intro e taken
      obtain ⟨json, holds, -⟩ := (Schema.ofText_eq_ok Event.settles).mp taken
      rw [broken] at holds
      cases holds
    · intro events taken
      obtain ⟨json, holds, -⟩ := (Schema.ofText_eq_ok Trace.settles).mp (Trace.ofText_eq_ok.mp taken)
      rw [broken] at holds
      cases holds

/-- The tag comes last, the channels come before the revision that they belong to, and a note stands between
them. -/
theorem arrangement_is_irrelevant_with_tag_last :
    let update := Json.object
      [("peer_discovery_address", .array (List.replicate 6 (.int 2))), ("ndp_instance_ids", .array [.int 4])]
    let given := Json.object [("event", .str "data_path_schedule_update"), ("indication", update),
      ("channel_info", .object [("revision", .str "1.6"), ("channels", .null)])]
    let more := Json.object
      [("channel_info", .object [("channels", .null), ("note", .array []), ("revision", .str "1.6")]),
        ("indication", update), ("event", .str "data_path_schedule_update")]
    Event.schema.Rearranged given more ∧
      ∀ e, Event.schema.ofText (Json.text given) = .ok e ↔ Event.schema.ofText (Json.text more) = .ok e := by
  intro update given more
  have fits : given.Fits Json.deepest ∧ more.Fits Json.deepest := by
    simp [given, more, update, Json.object, Json.array, Members.ofList, Items.ofList, List.replicate, Doc.Fits,
      Members.Fits, Items.Fits, Json.deepest, UInt64.size]
  let first := [("event", Doc.str "data_path_schedule_update"), ("indication", update)]
  let channels (members : List (String × Json)) := ("channel_info", Json.object members)
  have grown : Event.schema.Grows given
      (.object (first ++ [channels [("revision", .str "1.6"), ("note", .array []), ("channels", .null)]])) := by
    refine .inl ⟨_, _, .indication .scheduleUpdate, rfl, rfl, ?_,
      .inr ⟨first, "channel_info", _, _, [], rfl, rfl, ?_, ?_⟩⟩
    · intro kind found
      obtain ⟨label, single, read⟩ := found
      cases single
      have known : Except.ok (.indication .scheduleUpdate) = Except.ok kind := read
      exact (Except.ok.inj known).symm
    · decide
    · refine .inl ⟨_, _, rfl, rfl, .inl ⟨[("revision", .str "1.6")], ("note", .array []), [("channels", .null)], ?_⟩⟩
      exact ⟨rfl, rfl, by decide⟩
  have turned : Json.Permuted
      (.object (first ++ [channels [("revision", .str "1.6"), ("note", .array []), ("channels", .null)]]))
      (.object (first ++ [channels [("channels", .null), ("note", .array []), ("revision", .str "1.6")]])) :=
    .member (.here (List.reverse_perm _).symm) first "channel_info" []
  have reversed : Json.Permuted
      (.object (first ++ [channels [("channels", .null), ("note", .array []), ("revision", .str "1.6")]])) more :=
    .here (List.reverse_perm _).symm
  have rearranged : Event.schema.Rearranged given more :=
    .tail (.tail (.tail .refl (.inr grown)) (.inl turned)) (.inl reversed)
  obtain ⟨events, -, -⟩ := arrangement_is_irrelevant
  exact ⟨rearranged, events _ _ given more (Json.ofText_text fits.1) (Json.ofText_text fits.2) rearranged⟩

end NanAdapter
