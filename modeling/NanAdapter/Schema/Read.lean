import NanAdapter.Schema.Basic
import NanAdapter.Json.Scan

/-! The value of a document. A reader takes the members of an object as they come and blames the
first fault that it meets; what is missing it notices at the end. -/

namespace NanAdapter

/-- Where a document comes from. A document that had to be held back until a tag was known is read a
little differently from one that is read in place. -/
inductive Source where
  | parsed
  | held
  | text
  deriving DecidableEq, Repr

namespace Source

/-- The fault of more elements than were taken. In a text it shows at the first one. -/
def surplus (source : Source) (taken extra : Nat) : Fault :=
  match source with
  | .text => .broken .surplus none
  | .parsed => .refused (.wrongLength (taken + extra) "fewer elements in array")
  | .held => .refused (.wrongLength (taken + extra) (Refusal.counted taken "element" ++ " in sequence"))

end Source

section Documents
variable {φ : Type} (blame : φ → Fault)

/-- Passes over a document that nobody wants. -/
def Doc.pass (doc : Doc φ) : Except Fault Unit :=
  match doc.passing? with
  | some fault => .error (blame fault)
  | none => .ok ()

mutual
/-- The whole document, to be held back. -/
def Doc.settle : Doc φ → Except Fault Json
  | .null => .ok .null
  | .bool value => .ok (.bool value)
  | .int value => .ok (.int value)
  | .real value => .ok (.real value)
  | .str text => .ok (.str text)
  | .arr items => items.settle.map .arr
  | .obj members => members.settle.map .obj
  | .flawed flaw => .error (blame flaw.reading)

def Items.settle : Items φ → Except Fault (Items Empty)
  | .done => .ok .done
  | .broken flaw => .error (blame flaw.reading)
  | .cons head rest => do return .cons (← head.settle) (← rest.settle)

def Members.settle : Members φ → Except Fault (Members Empty)
  | .done => .ok .done
  | .broken flaw => .error (blame flaw.reading)
  | .cons (.name key) value rest => do return .cons (.name key) (← value.settle) (← rest.settle)
  | .cons (.flawed flaw) _ _ => .error (blame flaw.reading)
end

/-- Takes the elements in their order. -/
def Items.mapM {α : Type} (read : Doc φ → Except Fault α) : Items φ → Except Fault (List α)
  | .done => .ok []
  | .broken flaw => .error (blame flaw.reading)
  | .cons head rest => do return (← read head) :: (← rest.mapM read)

/-- Takes that many elements, and no more are there. -/
def Items.exactly {α : Type} (source : Source) (wanted : String) (read : Doc φ → Except Fault α) (taken : Nat) :
    (count : Nat) → Items φ → Except Fault (List α)
  | 0, .done => .ok []
  | 0, items@(.cons _ _) => .error (source.surplus taken items.length)
  | _ + 1, .done => .error (.refused (.wrongLength taken wanted))
  | _, .broken flaw => .error (blame flaw.reading)
  | count + 1, .cons head rest => do return (← read head) :: (← rest.exactly source wanted read (taken + 1) count)

/-- Takes the members in their order. -/
def Members.foldM {σ : Type} (step : σ → String → Doc φ → Except Fault σ) : σ → Members φ → Except Fault σ
  | state, .done => .ok state
  | _, .broken flaw => .error (blame flaw.reading)
  | state, .cons (.name key) value rest => do rest.foldM step (← step state key value)
  | _, .cons (.flawed flaw) _ _ => .error (blame flaw.reading)

/-- Puts the members that are wanted into their slots and passes over the others. -/
def Members.slots {σ : Type} (offer : String → Doc φ → σ → Except Fault (Option σ)) : σ → Members φ → Except Fault σ :=
  foldM blame fun slots key doc => do
    match ← offer key doc slots with
    | some slots => return slots
    | none =>
      doc.pass blame
      return slots

/-- The fault of a document that is not what is wanted. -/
def Doc.mistyped {α : Type} (wanted : String) : Doc φ → Except Fault α
  | .flawed flaw => .error (blame flaw.reading)
  | doc => .error (.refused (.mistyped doc.glimpse wanted))

end Documents

namespace Names
variable {φ κ : Type} (blame : φ → Fault) (names : Names κ)

private def named (text : String) : Except Fault κ :=
  match names.find? text with
  | some k => .ok k
  | none => .error (.refused (.unknown text names.list))

/-- The tag of a tagged object. A document that was held back may give the place of the name in the
list instead. -/
def readTag (source : Source) : Doc φ → Except Fault κ
  | .str text => names.named text
  | .int value =>
    if source = .held ∧ 0 ≤ value then match names.all[value.toNat]? with
      | some k => .ok k
      | none => .error (.refused (.outOfRange value names.places))
    else .error (.refused (.mistyped (.integer value) "variant identifier"))
  | doc => doc.mistyped blame "variant identifier"

/-- What stands for nothing beside a name. -/
private def readUnit (source : Source) : Doc φ → Except Fault Unit
  | .null => .ok ()
  | .obj .done => if source = .held then .ok () else .error (.refused (.mistyped .map "unit"))
  | doc => doc.mistyped blame "unit"

/-- A name, or an object whose only member has that name and nothing in it. -/
def read (source : Source) : Doc φ → Except Fault κ
  | .str text => names.named text
  | .flawed flaw => .error (blame flaw.naming)
  | .obj members => match source, members with
    | .text, .done => .error (.broken .noValue none)
    | _, .broken flaw => .error (blame flaw.reading)
    | _, .cons (.flawed flaw) _ _ => .error (blame flaw.naming)
    | .text, .cons (.name key) value rest => do
      let k ← names.named key
      readUnit blame source value
      match rest with
      | .done => return k
      | .broken flaw => .error (blame flaw.reading)
      | .cons .. => .error (.broken .noValue none)
    | _, .cons (.name key) value .done => do
      let k ← names.named key
      readUnit blame source value
      return k
    | _, _ => .error (.refused .notOneMember)
  | doc =>
    .error (if source = .text then .broken .noValue none else .refused (.mistyped doc.glimpse "string or map"))

private theorem named_eq_ok {names : Names κ} {text : String} {k : κ} :
    names.named text = .ok k ↔ names.find? text = some k := by
  rw [named]
  cases names.find? text <;> simp

theorem readTag_str {names : Names κ} {text : String} {k : κ} (source : Source) :
    names.readTag blame source (.str text) = .ok k ↔ names.find? text = some k := by
  rw [readTag, named_eq_ok]

theorem read_str {names : Names κ} {text : String} {k : κ} (source : Source) :
    names.read blame source (.str text) = .ok k ↔ names.find? text = some k := by
  rw [read, named_eq_ok]

theorem readTag_name {names : Names κ} {k : κ} (known : names.find? (names.name k) = some k) (source : Source) :
    names.readTag blame source (.str (names.name k)) = .ok k :=
  (readTag_str blame source).mpr known

theorem read_name {names : Names κ} {k : κ} (known : names.find? (names.name k) = some k) (source : Source) :
    names.read blame source (.str (names.name k)) = .ok k :=
  (read_str blame source).mpr known

end Names

/-- What has been read of an object with a tag and a content. -/
inductive Pairing (κ : Type) (body : κ → Type) where
  | nothing
  | tagged (k : κ)
  | content (json : Json)
  | whole (value : (k : κ) × body k)

mutual
def Schema.read : {α : Type} → Schema α → {φ : Type} → (φ → Fault) → Source → Doc φ → Except Fault α
  | _, .integer width, _, blame, _, doc => match doc with
    | .int value => match width.ofInt? value with
      | some result => .ok result
      | none => .error (.refused (.outOfRange value width.name))
    | doc => doc.mistyped blame width.name
  | _, .boolean, _, blame, _, doc => match doc with
    | .bool value => .ok value
    | doc => doc.mistyped blame "a boolean"
  | _, .text, _, blame, _, doc => match doc with
    | .str text => .ok text
    | doc => doc.mistyped blame "a string"
  | _, .optional schema, _, blame, source, doc => match doc with
    | .null => .ok none
    | doc => (schema.read blame source doc).map some
  | _, .list item, _, blame, source, doc => match doc with
    | .arr items => items.mapM blame (item.read blame source)
    | doc => doc.mistyped blame "a sequence"
  | _, .fixed count item, _, blame, source, doc => match doc with
    | .arr items => do
      let wanted := "an array of length " ++ Text.decimal count
      let values ← items.exactly blame source wanted (item.read blame source) 0 count
      if sized : values.length = count then return ⟨values.toArray, by simpa using sized⟩
      else .error (.refused (.wrongLength values.length wanted))
    | doc => doc.mistyped blame ("an array of length " ++ Text.decimal count)
  | _, .symbol names, _, blame, source, doc => names.read blame source doc
  | _, .record name fields shape, _, blame, source, doc => match doc with
    | .obj members => do
      return shape.pack (← fields.fill (← members.slots blame (fields.offer blame source) fields.vacant))
    | .arr items => do return shape.pack (← fields.readItems blame source ("struct " ++ name) 0 items)
    | doc => doc.mistyped blame ("struct " ++ name)
  | _, .tagged name tag names title fields shape, _, blame, source, doc => match doc with
    | .obj members => do
      let (k?, others) ← members.foldM blame (σ := Option _ × List (String × Json)) (fun (k?, others) key value =>
        if key = tag then match k? with
          | some _ => .error (.refused (.repeated tag))
          | none => (names.readTag blame source value).map fun k => (some k, others)
        else (value.settle blame).map fun json => (k?, (key, json) :: others)) (none, [])
      match k? with
      | none => .error (.refused (.missing tag))
      | some k =>
        let held := Members.ofList others.reverse
        let body ← (fields k).fill (← held.slots Empty.elim ((fields k).offer Empty.elim .held) (fields k).vacant)
        return shape.pack ⟨k, body⟩
    | .arr items => match items with
      | .done => .error (.refused (.missing tag))
      | .broken flaw => .error (blame flaw.reading)
      | .cons head rest => do
        let k ← names.readTag blame source head
        let held ← rest.settle blame
        return shape.pack ⟨k, ← (fields k).readItems Empty.elim .held (title k) 0 held⟩
    | doc => doc.mistyped blame ("internally tagged enum " ++ name)
  | _, @Schema.adjacent _ κ body name tag content names schema shape, _, blame, source, doc => match doc with
    | .obj members => do
      let pairing ← members.foldM blame (σ := Pairing κ body) (fun pairing key value =>
        if key = tag then match pairing with
          | .nothing => (names.read blame source value).map .tagged
          | .content json => do
            let k ← names.read blame source value
            return .whole ⟨k, ← (schema k).read Empty.elim .held json⟩
          | .tagged _ | .whole _ => .error (.refused (.repeated tag))
        else if key = content then match pairing with
          | .nothing => (value.settle blame).map .content
          | .tagged k => do return .whole ⟨k, ← (schema k).read blame source value⟩
          | .content _ | .whole _ => .error (.refused (.repeated content))
        else do
          value.pass blame
          return pairing) .nothing
      match pairing with
      | .nothing | .content _ => .error (.refused (.missing tag))
      | .tagged k => match (schema k).absent? with
        | some value => return shape.pack ⟨k, value⟩
        | none => .error (.refused (.missing content))
      | .whole value => return shape.pack value
    | .arr items => match items with
      | .done => .error (.refused (.wrongLength 0 ("adjacently tagged enum " ++ name)))
      | .broken flaw => .error (blame flaw.reading)
      | .cons head rest => do
        let k ← names.readTag blame source head
        match rest with
        | .done => .error (.refused (.wrongLength 1 ("adjacently tagged enum " ++ name)))
        | .broken flaw => .error (blame flaw.reading)
        | .cons value rest =>
          let value ← (schema k).read blame source value
          match rest with
          | .done => return shape.pack ⟨k, value⟩
          | .broken flaw => .error (blame flaw.reading)
          | .cons .. => .error (source.surplus 2 rest.length)
    | doc => doc.mistyped blame ("adjacently tagged enum " ++ name)
  | _, .via shape inner, _, blame, source, doc => (inner.read blame source doc).map shape.pack

/-- Reads a member into its slot, if the record has one for it. -/
def Fields.offer : {β σ : Type} → Fields β σ → {φ : Type} → (φ → Fault) → Source → String → Doc φ → σ →
    Except Fault (Option σ)
  | _, _, .done, _, _, _, _, _, _ => .ok none
  | _, _, .cons name schema _ rest, _, blame, source, key, doc, (slot, slots) =>
    if key = name then match slot with
      | some _ => .error (.refused (.repeated name))
      | none => (schema.read blame source doc).map fun value => some (some value, slots)
    else (rest.offer blame source key doc slots).map fun found => found.map (slot, ·)

/-- Reads the values in their order, after so many others. The last ones may be missing if they can be
missing from an object. -/
def Fields.readItems : {β σ : Type} → Fields β σ → {φ : Type} → (φ → Fault) → Source → (title : String) →
    (taken : Nat) → Items φ → Except Fault β
  | _, _, .done, _, blame, source, _, taken, items => match items with
    | .done => .ok ()
    | .broken flaw => .error (blame flaw.reading)
    | .cons .. => .error (source.surplus taken items.length)
  | _, _, .cons _ schema default rest, _, blame, source, title, taken, items => match items with
    | .done => match default with
      | some value => (rest.readItems blame source title (taken + 1) .done).map (value, ·)
      | none =>
        let all := Refusal.counted (taken + rest.length + 1) "element"
        .error (.refused (.wrongLength taken (title ++ " with " ++ all)))
    | .broken flaw => .error (blame flaw.reading)
    | .cons head tail => do
      let value ← schema.read blame source head
      return (value, ← rest.readItems blame source title (taken + 1) tail)
end

namespace Schema

/-- The value of a document that is already whole. -/
def ofJson (schema : Schema α) (json : Json) : Except Fault α := schema.read Empty.elim .parsed json

end Schema

/-- As many arrays and objects may be open at once in a text. -/
def Json.deepest : Nat := 127

/-- Reads the document that a text holds, and nothing else. -/
def Json.readText (read : Doc Break → Except Fault α) (text : String) : Except Fault α := do
  let (doc, rest) := Json.scan deepest text.toList
  let value ← read doc
  let rest := skipGap rest
  if rest = [] then return value else .error (Break.within rest .surplus).fault

/-- The value of a text that holds one document and nothing else. -/
def Schema.ofText (schema : Schema α) (text : String) : Except Fault α :=
  Json.readText (schema.read Break.fault .text) text

/-- The document of a text that holds one and nothing else. -/
def Json.ofText (text : String) : Except Fault Json := readText (Doc.settle Break.fault) text

end NanAdapter
