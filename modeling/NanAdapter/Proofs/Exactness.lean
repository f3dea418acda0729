import NanAdapter.Proofs.TaggedObjects

/-! A schema is exact if it reads the documents that it admits and no others, and if what it writes then is
what it has read, completed by what was left out. Every way to build a schema keeps the law. -/

namespace NanAdapter

namespace Json

def elements : Json → List Json
  | .arr items => items.toList
  | _ => []

/-- Not an array, and not an object with two members of one name. -/
def Regular : Json → Prop
  | .arr _ => False
  | .obj members => Distinct members.toList
  | _ => True

end Json

/-! What a schema says of documents, without reading them -/

mutual
/-- As far as the schema looks, records are objects, tags are texts, and no object has two members of one
name. -/
def Schema.Plain : {α : Type} → Schema α → Json → Prop
  | _, .integer _, _ | _, .boolean, _ | _, .text, _ => True
  | _, .optional schema, json => schema.Plain json
  | _, .list item, json | _, .fixed _ item, json => ∀ part ∈ json.elements, item.Plain part
  | _, .symbol _, json => ∀ members, json ≠ .obj members
  | _, .record _ fields _, json => json.Regular ∧ fields.Plain json
  | _, .tagged _ tag names _ fields _, json =>
    json.Regular ∧ (∀ label ∈ json.member? tag, ∃ text, label = .str text) ∧
      ∀ k, json.member? tag = some (.str (names.name k)) → (fields k).Plain json
  | _, .adjacent _ tag content names schema _, json =>
    json.Regular ∧ (∀ label ∈ json.member? tag, ∃ text, label = .str text) ∧
      ∀ k, json.member? tag = some (.str (names.name k)) → ∀ body ∈ json.member? content, (schema k).Plain body
  | _, .via _ inner, json => inner.Plain json

def Fields.Plain : {β σ : Type} → Fields β σ → Json → Prop
  | _, _, .done, _ => True
  | _, _, .cons name schema _ rest, json => (∀ given ∈ json.member? name, schema.Plain given) ∧ rest.Plain json
end

mutual
/-- Every member that is needed is there, and every member that is known holds a value of its type. -/
def Schema.Admits : {α : Type} → Schema α → Json → Prop
  | _, .integer width, json => ∃ value, json = .int (width.toInt value)
  | _, .boolean, json => ∃ value, json = .bool value
  | _, .text, json => ∃ value, json = .str value
  | _, .optional schema, json => json = .null ∨ schema.Admits json
  | _, .list item, json => ∃ parts, json = .array parts ∧ ∀ part ∈ parts, item.Admits part
  | _, .fixed count item, json =>
    ∃ parts, json = .array parts ∧ parts.length = count ∧ ∀ part ∈ parts, item.Admits part
  | _, .symbol names, json => ∃ k ∈ names.all, json = .str (names.name k)
  | _, .record _ fields _, json => (∃ members, json = .obj members) ∧ fields.Admits json
  | _, .tagged _ tag names _ fields _, json =>
    ∃ k ∈ names.all, json.member? tag = some (.str (names.name k)) ∧ (fields k).Admits json
  | _, .adjacent _ tag content names schema _, json =>
    ∃ k ∈ names.all, json.member? tag = some (.str (names.name k)) ∧
      match json.member? content with
      | some body => (schema k).Admits body
      | none => (schema k).absent?.isSome
  | _, .via _ inner, json => inner.Admits json

def Fields.Admits : {β σ : Type} → Fields β σ → Json → Prop
  | _, _, .done, _ => True
  | _, _, .cons name schema default rest, json =>
    (match json.member? name with
      | some given => schema.Admits given
      | none => default.isSome) ∧ rest.Admits json
end

mutual
/-- What stands for a member that was left out: nothing, zero, false, no text, or what is made up of these. -/
def Schema.zero : {α : Type} → Schema α → Json
  | _, .integer _ => .int 0
  | _, .boolean => .bool false
  | _, .text => .str ""
  | _, .list _ => .array []
  | _, .fixed count item => .array (List.replicate count item.zero)
  | _, .record _ fields _ => .obj fields.zero
  | _, .via _ inner => inner.zero
  | _, .optional _ | _, .symbol _ | _, .tagged .. | _, .adjacent .. => .null

def Fields.zero : {β σ : Type} → Fields β σ → Members Empty
  | _, _, .done => .done
  | _, _, .cons name schema _ rest => .cons (.name name) schema.zero rest.zero
end

mutual
/-- What was written holds every known member of what was given, with the same value, and zero for those
that were left out. Nothing else is in it. -/
def Schema.Completes : {α : Type} → Schema α → (given written : Json) → Prop
  | _, .integer _, given, written | _, .boolean, given, written | _, .text, given, written
  | _, .symbol _, given, written => written = given
  | _, .optional schema, given, written =>
    given = .null ∧ written = .null ∨ given ≠ .null ∧ schema.Completes given written
  | _, .list item, given, written | _, .fixed _ item, given, written =>
    ∃ parts others, given = .array parts ∧ written = .array others ∧ List.Forall₂ item.Completes parts others
  | _, .record _ fields _, given, written => ∃ members, written = .obj members ∧ fields.Completes given members
  | _, .tagged _ tag names _ fields _, given, written =>
    ∃ k members, given.member? tag = some (.str (names.name k)) ∧
      written = .obj (.cons (.name tag) (.str (names.name k)) members) ∧ (fields k).Completes given members
  | _, .adjacent _ tag content names schema _, given, written =>
    ∃ k body, given.member? tag = some (.str (names.name k)) ∧
      written = .object [(tag, .str (names.name k)), (content, body)] ∧
      match given.member? content with
      | some held => (schema k).Completes held body
      | none => body = (schema k).zero
  | _, .via _ inner, given, written => inner.Completes given written

def Fields.Completes : {β σ : Type} → Fields β σ → (given : Json) → (written : Members Empty) → Prop
  | _, _, .done, _, written => written = .done
  | _, _, .cons name schema _ rest, given, written =>
    ∃ value others, written = .cons (.name name) value others ∧
      (match given.member? name with
        | some held => schema.Completes held value
        | none => value = schema.zero) ∧ rest.Completes given others
end

/-- The documents that are decoded are those that the schema admits, and what is written then is what was
decoded, completed. -/
structure Schema.Decodes (schema : Schema α) (decode : Json → Except Fault α) : Prop where
  accepts {json : Json} (plain : schema.Plain json) : (∃ value, decode json = .ok value) ↔ schema.Admits json
  completes {json : Json} {value : α} (plain : schema.Plain json) (taken : decode json = .ok value) :
    schema.Completes json (schema.write value)

abbrev Schema.Exact (schema : Schema α) : Prop := schema.Decodes schema.held

/-- An integer is taken for the value that it is the integer of, and for no other. -/
def Width.Exact (width : Width α) : Prop := ∀ {n value}, width.ofInt? n = some value ↔ n = width.toInt value

/-- Nothing is lost when values are put together. -/
def Shape.Exact (shape : Shape β α) : Prop := ∀ parts, shape.unpack (shape.pack parts) = parts

theorem Names.Lawful.mem {names : Names κ} (known : names.Lawful) (k : κ) : k ∈ names.all :=
  List.mem_of_find?_eq_some (known k)

namespace Schema

/-! Leaves -/

/-- The law for documents that are taken as they are. -/
private theorem leaf_exact {schema : Schema α}
    (takes : ∀ {json value}, schema.held json = .ok value ↔ json = schema.write value)
    (admits : ∀ json, schema.Admits json ↔ ∃ value, json = schema.write value)
    (same : ∀ json, schema.Completes json json) : schema.Exact where
  accepts {json} _ := by simp only [takes, admits]
  completes {json value} _ taken := by
    rw [← takes.mp taken]
    exact same json

theorem integer_exact {width : Width α} (exact : width.Exact) : (integer width).Exact := by
  refine leaf_exact ?_ (fun _ => Iff.rfl) (fun _ => rfl)
  intro json value
  cases json with
  | int n =>
    rw [write, Doc.int.injEq, ← exact, held, read]
    cases width.ofInt? n <;> simp
  | flawed flaw => exact flaw.reading.elim
  | null | bool _ | real _ | str _ | arr _ | obj _ => simp [held, read, write]

theorem boolean_exact : boolean.Exact := by
  refine leaf_exact ?_ (fun _ => Iff.rfl) (fun _ => rfl)
  intro json value
  cases json with
  | bool given => rw [write, Doc.bool.injEq, held, read, Except.ok.injEq]
  | flawed flaw => exact flaw.reading.elim
  | null | int _ | real _ | str _ | arr _ | obj _ => simp [held, read, write]

theorem text_exact : text.Exact := by
  refine leaf_exact ?_ (fun _ => Iff.rfl) (fun _ => rfl)
  intro json value
  cases json with
  | str given => rw [write, Doc.str.injEq, held, read, Except.ok.injEq]
  | flawed flaw => exact flaw.reading.elim
  | null | bool _ | int _ | real _ | arr _ | obj _ => simp [held, read, write]

theorem via_exact {shape : Shape β α} {inner : Schema β} (shaped : shape.Exact) (exact : inner.Exact) :
    (via shape inner).Exact where
  accepts {json} plain := by
    rw [Admits, ← exact.accepts plain]
    simp only [held, read, map_eq_ok]
    constructor
    · intro found
      obtain ⟨_, parts, taken, -⟩ := found
      exact ⟨parts, taken⟩
    · intro found
      obtain ⟨parts, taken⟩ := found
      exact ⟨shape.pack parts, parts, taken, rfl⟩
  completes {json value} plain taken := by
    obtain ⟨parts, held, rfl⟩ := map_eq_ok.mp taken
    rw [write, shaped]
    exact exact.completes plain held

private theorem held_optional {schema : Schema α} {json : Json} (present : json ≠ .null) :
    (optional schema).held json = (schema.held json).map some := by
  cases json with
  | null => exact absurd rfl present
  | flawed flaw => exact flaw.reading.elim
  | bool _ | int _ | real _ | str _ | arr _ | obj _ => rfl

theorem optional_exact {schema : Schema α} (exact : schema.Exact) : (optional schema).Exact where
  accepts {json} plain := by
    by_cases absent : json = .null
    · exact ⟨fun _ => Or.inl absent, fun _ => ⟨none, absent ▸ rfl⟩⟩
    · rw [held_optional absent, Admits, ← exact.accepts plain]
      simp only [map_eq_ok, absent, false_or]
      constructor
      · intro found
        obtain ⟨_, value, taken, -⟩ := found
        exact ⟨value, taken⟩
      · intro found
        obtain ⟨value, taken⟩ := found
        exact ⟨some value, value, taken, rfl⟩
  completes {json value} plain taken := by
    by_cases absent : json = .null
    · subst absent
      cases taken
      exact Or.inl ⟨rfl, rfl⟩
    · rw [held_optional absent] at taken
      obtain ⟨value, held, rfl⟩ := map_eq_ok.mp taken
      exact Or.inr ⟨absent, exact.completes plain held⟩

/-! Arrays -/

private theorem Exact.exists_each {item : Schema α} (exact : item.Exact) {parts : List Json}
    (plain : ∀ part ∈ parts, item.Plain part) :
    (∃ values, item.Each parts values) ↔ ∀ part ∈ parts, item.Admits part := by
  induction parts with
  | nil => exact ⟨fun _ => nofun, fun _ => ⟨[], .nil⟩⟩
  | cons part rest ih =>
    obtain ⟨here, later⟩ := List.forall_mem_cons.mp plain
    rw [List.forall_mem_cons, ← ih later, ← exact.accepts here]
    constructor
    · rintro ⟨_, _ | ⟨taken, others⟩⟩
      exact ⟨⟨_, taken⟩, ⟨_, others⟩⟩
    · intro found
      obtain ⟨⟨value, taken⟩, values, others⟩ := found
      exact ⟨value :: values, .cons taken others⟩

private theorem Exact.completes_each {item : Schema α} (exact : item.Exact) {parts : List Json} {values : List α}
    (plain : ∀ part ∈ parts, item.Plain part) (each : item.Each parts values) :
    List.Forall₂ item.Completes parts (values.map item.write) := by
  induction each with
  | nil => exact .nil
  | cons taken _ ih =>
    obtain ⟨here, later⟩ := List.forall_mem_cons.mp plain
    exact .cons (exact.completes here taken) (ih later)

private theorem array_elements {items : Items Empty} : Doc.arr items = Json.array items.toList :=
  congrArg Doc.arr items.ofList_toList.symm

private theorem array_inj {parts others : List Json} : Json.array parts = Json.array others ↔ parts = others := by
  refine ⟨fun same => ?_, congrArg Json.array⟩
  have items : Items.ofList parts = Items.ofList others := Doc.arr.inj same
  rw [← Items.toList_ofList parts, items, Items.toList_ofList]

theorem list_exact {item : Schema α} (exact : item.Exact) : (list item).Exact where
  accepts {json} plain := by
    cases json with
    | arr items =>
      rw [array_elements]
      simp only [held_list, Admits, array_inj, exists_eq_left']
      exact exact.exists_each plain
    | flawed flaw => exact flaw.reading.elim
    | null | bool _ | int _ | real _ | str _ | obj _ => exact ⟨nofun, nofun⟩
  completes {json value} plain taken := by
    cases json with
    | arr items =>
      rw [array_elements] at taken ⊢
      exact ⟨items.toList, _, rfl, rfl, exact.completes_each plain (held_list.mp taken)⟩
    | flawed flaw => exact flaw.reading.elim
    | null | bool _ | int _ | real _ | str _ | obj _ => cases taken

theorem fixed_exact {count : Nat} {item : Schema α} (exact : item.Exact) : (fixed count item).Exact where
  accepts {json} plain := by
    cases json with
    | arr items =>
      rw [array_elements]
      simp only [held_fixed, Admits, array_inj, exists_eq_left']
      have parts : (∃ values, item.Each items.toList values) ↔ _ := exact.exists_each plain
      rw [← parts]
      constructor
      · intro found
        obtain ⟨values, each⟩ := found
        exact ⟨by simpa using each.length_eq, values.toList, each⟩
      · intro found
        obtain ⟨sized, values, each⟩ := found
        have size : values.toArray.size = count := by simpa using each.length_eq.symm.trans sized
        exact ⟨⟨values.toArray, size⟩, each⟩
    | flawed flaw => exact flaw.reading.elim
    | null | bool _ | int _ | real _ | str _ | obj _ => exact ⟨nofun, nofun⟩
  completes {json value} plain taken := by
    cases json with
    | arr items =>
      rw [array_elements] at taken ⊢
      exact ⟨items.toList, _, rfl, rfl, exact.completes_each plain (held_fixed.mp taken)⟩
    | flawed flaw => exact flaw.reading.elim
    | null | bool _ | int _ | real _ | str _ | obj _ => cases taken

end Schema

/-! Members -/

namespace Fields

/-- The members are exact, and the default of each is zero. -/
def Exact : {β σ : Type} → Fields β σ → Prop
  | _, _, .done => True
  | _, _, .cons _ schema default rest => schema.Exact ∧ (∀ value ∈ default, schema.write value = schema.zero) ∧ rest.Exact

theorem done_exact : Fields.done.Exact := trivial

theorem need_exact {name : String} {schema : Schema α} {rest : Fields β σ} (exact : schema.Exact) (others : rest.Exact) :
    (need name schema rest).Exact := ⟨exact, nofun, others⟩

theorem may_exact {name : String} {schema : Schema α} {default : α} {rest : Fields β σ} (exact : schema.Exact)
    (zero : schema.write default = schema.zero) (others : rest.Exact) : (may name schema default rest).Exact := by
  refine ⟨exact, ?_, others⟩
  rintro value ⟨⟩
  exact zero

theorem exists_takes : {β σ : Type} → {fields : Fields β σ} → fields.Exact → {json : Json} → fields.Plain json →
    ((∃ values, fields.Takes json.member? values) ↔ fields.Admits json)
  | _, _, .done, _, _, _ => ⟨fun _ => trivial, fun _ => ⟨(), trivial⟩⟩
  | _, _, .cons name schema default rest, exact, json, plain => by
    have others := exists_takes exact.2.2 plain.2
    have here : (∃ value, match json.member? name with
          | some given => schema.held given = .ok value
          | none => default = some value) ↔
        match json.member? name with
        | some given => schema.Admits given
        | none => default.isSome := by
      have read := plain.1
      cases member : json.member? name with
      | some given => exact exact.1.accepts (read given member)
      | none => exact Option.isSome_iff_exists.symm
    rw [Admits, ← others, ← here]
    constructor
    · intro found
      obtain ⟨⟨value, values⟩, taken, later⟩ := found
      exact ⟨⟨value, taken⟩, values, later⟩
    · intro found
      obtain ⟨⟨value, taken⟩, values, later⟩ := found
      exact ⟨(value, values), taken, later⟩
termination_by structural _ _ fields => fields

theorem completes : {β σ : Type} → {fields : Fields β σ} → fields.Exact → {json : Json} → fields.Plain json →
    {values : β} → fields.Takes json.member? values → fields.Completes json (fields.write values)
  | _, _, .done, _, _, _, (), _ => rfl
  | _, _, .cons name schema default rest, exact, json, plain, (value, values), taken => by
    refine ⟨schema.write value, rest.write values, rfl, ?_, completes exact.2.2 plain.2 taken.2⟩
    have here := taken.1
    cases member : json.member? name with
    | some given =>
      rw [member] at here
      exact exact.1.completes (plain.1 given member) here
    | none =>
      rw [member] at here
      exact exact.2.1 value here
termination_by structural _ _ fields => fields

end Fields

/-! Objects -/

namespace Json

theorem object_toList (members : Members Empty) : Doc.obj members = object members.toList :=
  congrArg Doc.obj members.ofList_toList.symm

end Json

namespace Schema

theorem record_exact {name : String} {fields : Fields β σ} {shape : Shape β α} (unlike : fields.names.Nodup)
    (exact : fields.Exact) (shaped : shape.Exact) : (record name fields shape).Exact where
  accepts {json} plain := by
    obtain ⟨regular, plain⟩ := plain
    cases json with
    | obj members =>
      rw [Json.object_toList] at plain ⊢
      simp only [held_record unlike regular, Admits, ← Fields.exists_takes exact plain]
      constructor
      · intro found
        obtain ⟨_, values, taken, -⟩ := found
        exact ⟨⟨_, rfl⟩, values, taken⟩
      · intro found
        obtain ⟨_, values, taken⟩ := found
        exact ⟨_, values, taken, rfl⟩
    | arr _ => exact regular.elim
    | flawed flaw => exact flaw.reading.elim
    | null | bool _ | int _ | real _ | str _ => exact ⟨nofun, nofun⟩
  completes {json value} plain taken := by
    obtain ⟨regular, plain⟩ := plain
    cases json with
    | obj members =>
      rw [Json.object_toList] at plain taken ⊢
      obtain ⟨values, held, rfl⟩ := (held_record unlike regular).mp taken
      rw [write, shaped]
      exact ⟨_, rfl, Fields.completes exact plain held⟩
    | arr _ => exact regular.elim
    | flawed flaw => exact flaw.reading.elim
    | null | bool _ | int _ | real _ | str _ => cases taken

/-- Only what is optional may be missing, and then it is nothing. -/
theorem write_absent : {α : Type} → {schema : Schema α} → {value : α} → schema.absent? = some value →
    schema.write value = schema.zero
  | _, .optional _, _, absent => by cases absent; rfl

theorem adjacent_exact {κ : Type} {body : κ → Type} {name tag content : String} {names : Names κ}
    {schema : (k : κ) → Schema (body k)} {shape : Shape ((k : κ) × body k) α} (known : names.Lawful)
    (different : content ≠ tag) (exact : ∀ k, (schema k).Exact) (shaped : shape.Exact) :
    (adjacent name tag content names schema shape).Exact where
  accepts {json} plain := by
    obtain ⟨regular, text, plain⟩ := plain
    cases json with
    | obj members =>
      rw [Json.object_toList] at text plain ⊢
      have content (k : κ) (labelled : (Json.object members.toList).member? tag = some (.str (names.name k))) :
          (∃ body, match (Json.object members.toList).member? content with
            | some given => (schema k).held given = .ok body
            | none => (schema k).absent? = some body) ↔
          match (Json.object members.toList).member? content with
          | some given => (schema k).Admits given
          | none => (schema k).absent?.isSome := by
        have read := plain k labelled
        cases member : (Json.object members.toList).member? content with
        | some given => exact (exact k).accepts (read given member)
        | none => exact Option.isSome_iff_exists.symm
      simp only [held_adjacent known different regular text, Admits]
      constructor
      · intro found
        obtain ⟨_, k, body, labelled, taken, -⟩ := found
        exact ⟨k, known.mem k, labelled, (content k labelled).mp ⟨body, taken⟩⟩
      · intro found
        obtain ⟨k, -, labelled, admitted⟩ := found
        obtain ⟨body, taken⟩ := (content k labelled).mpr admitted
        exact ⟨_, k, body, labelled, taken, rfl⟩
    | arr _ => exact regular.elim
    | flawed flaw => exact flaw.reading.elim
    | null | bool _ | int _ | real _ | str _ =>
      constructor
      · intro found
        obtain ⟨_, taken⟩ := found
        cases taken
      · intro found
        obtain ⟨_, -, labelled, -⟩ := found
        cases labelled
  completes {json value} plain taken := by
    obtain ⟨regular, text, plain⟩ := plain
    cases json with
    | obj members =>
      rw [Json.object_toList] at text plain taken ⊢
      obtain ⟨k, body, labelled, held, rfl⟩ := (held_adjacent known different regular text).mp taken
      rw [write, shaped]
      refine ⟨k, _, labelled, rfl, ?_⟩
      cases member : (Json.object members.toList).member? content with
      | some given =>
        rw [member] at held
        exact (exact k).completes (plain k labelled given member) held
      | none =>
        rw [member] at held
        exact write_absent held
    | arr _ => exact regular.elim
    | flawed flaw => exact flaw.reading.elim
    | null | bool _ | int _ | real _ | str _ => cases taken

section Tagged
variable {κ : Type} {body slots : κ → Type} {name tag : String} {names : Names κ} {title : κ → String}
  {fields : (k : κ) → Fields (body k) (slots k)} {shape : Shape ((k : κ) × body k) α} (known : names.Lawful)
  (unlike : ∀ k, (fields k).names.Nodup) (untagged : ∀ k, tag ∉ (fields k).names) {φ : Type} (blame : φ → Fault)
  (source : Source)
include known unlike untagged

/-- Wherever the document comes from, the other members are held back until the tag is known. -/
private theorem read_tagged_plain {json : Json} (plain : (tagged name tag names title fields shape).Plain json)
    (value : α) :
    (tagged name tag names title fields shape).read blame source json.lift = .ok value ↔
      ∃ k values, json.member? tag = some (.str (names.name k)) ∧ (fields k).Takes json.member? values ∧
        shape.pack ⟨k, values⟩ = value := by
  obtain ⟨regular, text, -⟩ := plain
  cases json with
  | obj members =>
    rw [Json.object_toList] at text ⊢
    exact read_tagged known unlike untagged regular text blame source
  | arr _ => exact regular.elim
  | flawed flaw => exact flaw.reading.elim
  | null | bool _ | int _ | real _ | str _ => exact ⟨nofun, fun ⟨_, _, labelled, _⟩ => nomatch labelled⟩

private theorem ofJson_tagged {json : Json} (plain : (tagged name tag names title fields shape).Plain json) (value : α) :
    (tagged name tag names title fields shape).ofJson json = .ok value ↔
      ∃ k values, json.member? tag = some (.str (names.name k)) ∧ (fields k).Takes json.member? values ∧
        shape.pack ⟨k, values⟩ = value := by
  have parsed := read_tagged_plain known unlike untagged Empty.elim .parsed plain value
  rwa [json.lift_self] at parsed

theorem tagged_agrees {json : Json} (plain : (tagged name tag names title fields shape).Plain json) {value : α} :
    (tagged name tag names title fields shape).read blame source json.lift = .ok value ↔
      (tagged name tag names title fields shape).ofJson json = .ok value :=
  (read_tagged_plain known unlike untagged blame source plain value).trans
    (ofJson_tagged known unlike untagged plain value).symm

theorem tagged_decodes (exact : ∀ k, (fields k).Exact) (shaped : shape.Exact) :
    (tagged name tag names title fields shape).Decodes (tagged name tag names title fields shape).ofJson where
  accepts {json} plain := by
    simp only [ofJson_tagged known unlike untagged plain, Admits]
    constructor
    · intro found
      obtain ⟨_, k, values, labelled, taken, -⟩ := found
      exact ⟨k, known.mem k, labelled, (Fields.exists_takes (exact k) (plain.2.2 k labelled)).mp ⟨values, taken⟩⟩
    · intro found
      obtain ⟨k, -, labelled, admitted⟩ := found
      obtain ⟨values, taken⟩ := (Fields.exists_takes (exact k) (plain.2.2 k labelled)).mpr admitted
      exact ⟨_, k, values, labelled, taken, rfl⟩
  completes {json value} plain taken := by
    obtain ⟨k, values, labelled, held, rfl⟩ := (ofJson_tagged known unlike untagged plain value).mp taken
    rw [write, shaped]
    exact ⟨k, _, labelled, rfl, Fields.completes (exact k) (plain.2.2 k labelled) held⟩

end Tagged

end Schema

end NanAdapter
