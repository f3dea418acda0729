/-! Arguments of a command line, by their look. -/

namespace NanAdapter

inductive Argument where
  /-- Two hyphens and nothing else: what follows are words. -/
  | separator
  /-- Two hyphens and a name, perhaps with a value after an equals sign. -/
  | long (name : String) (value : Option String)
  /-- One hyphen and at least one letter. -/
  | short (first : Char) (rest : List Char)
  | word
  deriving DecidableEq, Repr

def Argument.ofChars : List Char → Argument
  | ['-', '-'] => .separator
  | '-' :: '-' :: rest =>
    let name := String.ofList (rest.takeWhile (· ≠ '='))
    match rest.dropWhile (· ≠ '=') with
    | _ :: value => .long name (some (String.ofList value))
    | [] => .long name none
  | '-' :: first :: rest => .short first rest
  | _ => .word

def Argument.of (text : String) : Argument := ofChars text.toList

namespace Argument

/-- The wording for an option that is given once more. -/
def repeatedText (option : String) : String := "the argument '" ++ option ++ "' cannot be used multiple times"

/-- The wording for a value that an option has no use for. -/
def needlessValueText (option value : String) : String :=
  "unexpected value '" ++ value ++ "' for '" ++ option ++ "' found; no more were expected"

end Argument

end NanAdapter
