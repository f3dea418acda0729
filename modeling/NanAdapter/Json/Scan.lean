import NanAdapter.Json.Numeral
import NanAdapter.Json.Strings

/-! The document of a text. Scanning never fails: where the text cannot be followed any further the
document breaks off, and whoever reads it decides whether that point is reached. -/

namespace NanAdapter.Json

/-- Blanks between tokens. -/
def isGap (c : Char) : Bool := c = ' ' || c = '\n' || c = '\t' || c = '\r'

def skipGap (cs : List Char) : List Char := cs.dropWhile isGap

/-- The fault of a token that is something else than it should be, or that is not there. -/
def unfit (rest : List Char) (breach missing : Breach) : Break :=
  .within rest (if rest = [] then missing else breach)

/-- What remains after the letters of a word. -/
def word : (letters : List Char) → List Char → Except Break (List Char)
  | [], rest => .ok rest
  | letter :: letters, c :: rest => if c = letter then word letters rest else .error (.within (c :: rest) .wrongWord)
  | _ :: _, [] => .error (.before [] .endInValue)

/-- A word that starts with the first letter of the text. -/
def scanWord (letters : List Char) (value : Doc Break) (cs : List Char) : Doc Break × List Char :=
  match word letters cs with
  | .ok rest => (value, rest)
  | .error fault => (.flawed ⟨fault, .within cs .noValue, some fault⟩, [])

/-- A value other than an array or an object. -/
def scanScalar (cs : List Char) : Doc Break × List Char :=
  match cs with
  | '"' :: rest => match scanString rest with
    | (.ok text, after) => (.str text, after)
    | (.error flaw, after) => (.flawed flaw, after)
  | 'n' :: _ => scanWord "null".toList .null cs
  | 't' :: _ => scanWord "true".toList (.bool true) cs
  | 'f' :: _ => scanWord "false".toList (.bool false) cs
  | _ =>
    if cs.head?.any fun c => c = '-' ∨ c.isDigit then scanNumber cs
    else (.flawed (.dead (unfit cs .noValue .endInValue)), [])

/-- A quotation mark, the name of a member after it, and what follows them. -/
def scanName : List Char → Key Break × List Char
  | '"' :: cs => match scanString cs with
    | (.ok text, rest) => (.name text, rest)
    | (.error flaw, rest) => (.flawed flaw, rest)
  | '\x7d' :: rest => (.flawed (.dead (.within ('\x7d' :: rest) .commaAtEnd)), [])
  | cs => (.flawed (.dead (unfit cs .noName .endInValue)), [])

/-- What remains after the colon behind a name. -/
def colon (cs : List Char) : Except Break (List Char) :=
  match skipGap cs with
  | ':' :: rest => .ok rest
  | rest => .error (unfit rest .noColon .endInObject)

/-- The inside of an array or an object that is too deep. It can be passed over, but not read. -/
def tooDeep (cs : List Char) (passing : Option Break) : Flaw Break :=
  ⟨.within cs .tooDeep, .within cs .tooDeep, passing⟩

mutual
/-- The value at the start of a text, and what follows it. So many arrays and objects may still be
opened. -/
def scanValue : (fuel room : Nat) → List Char → Doc Break × List Char
  | 0, _, _ => (.flawed (.dead (.before [] .endInValue)), [])
  | fuel + 1, room, cs =>
    match skipGap cs with
    | '[' :: rest =>
      let (items, after) := scanItems fuel (room - 1) true rest
      (.arr (if room = 0 then .broken (tooDeep ('[' :: rest) items.passing?) else items), after)
    | '\x7b' :: rest =>
      let (members, after) := scanMembers fuel (room - 1) true rest
      (.obj (if room = 0 then .broken (tooDeep ('\x7b' :: rest) members.passing?) else members), after)
    | token => scanScalar token

/-- The elements of an array from the first one, or from the comma after another one, to the closing
bracket. -/
def scanItems : (fuel room : Nat) → (first : Bool) → List Char → Items Break × List Char
  | 0, _, _, _ => (.broken (.dead (.before [] .endInArray)), [])
  | fuel + 1, room, first, cs =>
    match skipGap cs with
    | ']' :: rest => (.done, rest)
    | rest =>
      if rest ≠ [] ∧ (first ∨ rest.head? = some ',') then
        let token := if first then rest else skipGap rest.tail
        if token.head? = some ']' then
          let flaw : Flaw Break := .dead (.within token .commaAtEnd)
          (.cons (.flawed flaw) (.broken flaw), [])
        else
          let (head, rest) := scanValue fuel room token
          let (items, after) := scanItems fuel room false rest
          (.cons head items, after)
      else (.broken (.dead (unfit rest .noCommaInArray .endInArray)), [])

/-- The members of an object from the first one, or from the comma after another one, to the closing
brace. -/
def scanMembers : (fuel room : Nat) → (first : Bool) → List Char → Members Break × List Char
  | 0, _, _, _ => (.broken (.dead (.before [] .endInObject)), [])
  | fuel + 1, room, first, cs =>
    match skipGap cs with
    | '\x7d' :: rest => (.done, rest)
    | rest =>
      if rest ≠ [] ∧ (first ∨ rest.head? = some ',') then
        let (key, rest) := scanName (if first then rest else skipGap rest.tail)
        match colon rest with
        | .ok rest =>
          let (value, rest) := scanValue fuel room rest
          let (members, after) := scanMembers fuel room false rest
          (.cons key value members, after)
        | .error fault => (.cons key (.flawed (.dead fault)) (.broken (.dead fault)), [])
      else (.broken (.dead (unfit rest .noCommaInObject .endInObject)), [])
end

/-- The document of a text and what follows it. No branch of the scan is deeper than twice the
length of the text. -/
def scan (room : Nat) (cs : List Char) : Doc Break × List Char := scanValue (2 * cs.length + 2) room cs

end NanAdapter.Json
