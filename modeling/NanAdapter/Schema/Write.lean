import NanAdapter.Schema.Basic
import NanAdapter.Json.Print

/-! The document of a value. -/

namespace NanAdapter

mutual
def Schema.write : {α : Type} → Schema α → α → Json
  | _, .integer width, value => .int (width.toInt value)
  | _, .boolean, value => .bool value
  | _, .text, value => .str value
  | _, .optional _, none => .null
  | _, .optional schema, some value => schema.write value
  | _, .list item, values => .array (values.map item.write)
  | _, .fixed _ item, values => .array (values.toList.map item.write)
  | _, .symbol names, value => .str (names.name value)
  | _, .record _ fields shape, value => .obj (fields.write (shape.unpack value))
  | _, .tagged _ tag names _ fields shape, value =>
    let ⟨k, body⟩ := shape.unpack value
    .obj (.cons (.name tag) (.str (names.name k)) ((fields k).write body))
  | _, .adjacent _ tag content names schema shape, value =>
    let ⟨k, body⟩ := shape.unpack value
    .object [(tag, .str (names.name k)), (content, (schema k).write body)]
  | _, .via shape inner, value => inner.write (shape.unpack value)

def Fields.write : {β σ : Type} → Fields β σ → β → Members Empty
  | _, _, .done, () => .done
  | _, _, .cons name schema _ rest, (value, values) =>
    .cons (.name name) (schema.write value) (rest.write values)
end

/-- The compact text of a value. -/
def Schema.print (schema : Schema α) (value : α) : String := Json.text (schema.write value)

end NanAdapter
