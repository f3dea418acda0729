/-! Outputs, which may be able to take only so many octets. -/

namespace NanAdapter

structure Output where
  limit : Option Nat
  written : List UInt8
  deriving DecidableEq, Repr

namespace Output

/-- What every failed write is blamed on. -/
def fault : String := "failed to write whole buffer"

def octets (text : String) : List UInt8 := text.toByteArray.data.toList

def unlimited : Output := ⟨none, []⟩

def limited (limit : Option Nat) : Output := ⟨limit, []⟩

/-- Writes as much as there is room for, and tells whether that was all. -/
def write (out : Output) (text : String) : Output × Bool :=
  let all := octets text
  match out.limit with
  | none => ({ out with written := out.written ++ all }, true)
  | some limit =>
    let taken := all.take (limit - out.written.length)
    ({ out with written := out.written ++ taken }, taken.length = all.length)

/-- Writes one text after the other until one does not fit. -/
def writeAll (out : Output) : List String → Output × Bool
  | [] => (out, true)
  | text :: rest =>
    match out.write text with
    | (out, true) => out.writeAll rest
    | (out, false) => (out, false)

/-- What was written. A character that was cut off is shown as a replacement character. -/
def text (out : Output) : String :=
  let whole (cut : Nat) : Option String :=
    String.fromUTF8? ⟨(out.written.take (out.written.length - cut)).toArray⟩
  (whole 0).getD (((List.range 4).findSome? whole |>.getD "") ++ "\ufffd")

end Output

end NanAdapter
