/-! Lines of a text. -/

namespace NanAdapter.Text

/-- The first line, without what ends it. -/
def firstLine (text : String) : String :=
  let line := text.toList.takeWhile (· ≠ '\n')
  if line.length < text.toList.length ∧ line.getLast? = some '\r' then String.ofList line.dropLast
  else String.ofList line

end NanAdapter.Text
