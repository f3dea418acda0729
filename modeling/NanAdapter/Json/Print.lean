import NanAdapter.Json.Document

/-! The compact text of a document: no blanks, members in their order, and only quotation marks,
backslashes and control characters escaped. -/

namespace NanAdapter

namespace Json

private def hexDigit (n : Nat) : Char := Nat.digitChar n

def escaped : Char → List Char
  | '"' => ['\\', '"']
  | '\\' => ['\\', '\\']
  | '\x08' => ['\\', 'b']
  | '\t' => ['\\', 't']
  | '\n' => ['\\', 'n']
  | '\x0c' => ['\\', 'f']
  | '\r' => ['\\', 'r']
  | c => if c.toNat < 0x20 then ['\\', 'u', '0', '0', hexDigit (c.toNat / 16), hexDigit (c.toNat % 16)] else [c]

def string (text : String) : List Char :=
  '"' :: text.toList.flatMap escaped ++ ['"']

end Json

mutual
def Doc.chars : Json → List Char
  | .null => "null".toList
  | .bool true => "true".toList
  | .bool false => "false".toList
  | .int value => Text.integer value
  | .real value => value.text
  | .str text => Json.string text
  | .arr items => '[' :: items.chars true
  | .obj members => '\x7b' :: members.chars true
  | .flawed flaw => nomatch flaw.reading

/-- The elements with their separators, and the closing bracket. -/
def Items.chars (first : Bool) : Items Empty → List Char
  | .done => [']']
  | .broken flaw => nomatch flaw.reading
  | .cons head rest => (if first then [] else [',']) ++ head.chars ++ rest.chars false

/-- The members with their separators, and the closing brace. -/
def Members.chars (first : Bool) : Members Empty → List Char
  | .done => ['\x7d']
  | .broken flaw => nomatch flaw.reading
  | .cons (.name key) value rest =>
    (if first then [] else [',']) ++ Json.string key ++ ':' :: value.chars ++ rest.chars false
  | .cons (.flawed flaw) _ _ => nomatch flaw.reading
end

def Json.text (json : Json) : String := String.ofList (Doc.chars json)

end NanAdapter
