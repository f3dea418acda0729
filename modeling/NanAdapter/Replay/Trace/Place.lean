import NanAdapter.Event.Schema
import NanAdapter.Schema.Read

/-! Where a text shows that it is no trace. An event is looked at when all of it has been read but
its tag, which is looked at in its place; a fault in its members shows only after the reader has
turned to what follows the event. -/

namespace NanAdapter.Trace

open Json

/-- What follows the value at the start of a text. -/
def behind (cs : List Char) : List Char := (scan deepest cs).2

/-- What is left when a value is not of the wanted type. Arrays and objects are not entered. -/
def refused (cs : List Char) : List Char :=
  match cs with
  | '[' :: _ | '\x7b' :: _ => cs
  | _ => behind cs

/-- What a reader has learned of the tag of an event. -/
inductive Tagging where
  | missing
  | known
  /-- The event is given up, and so much of the text is left. -/
  | refused (rest : List Char)
  deriving DecidableEq, Repr

/-- Looks at the value at the start of a text as a tag. -/
def Tagging.look (cs : List Char) : Tagging :=
  match EventKind.names.readTag Break.fault .text (scan deepest cs).1 with
  | .ok _ => .known
  | .error _ => .refused (Trace.refused cs)

/-- Looks for the tag of an object among its members. A second tag is noticed by its name, and then
the object is left if it ends there. -/
def Tagging.search : (fuel : Nat) → Tagging → List Char → Tagging
  | 0, tagging, _ => tagging
  | fuel + 1, tagging, cs =>
    let (key, rest) := scanName (skipGap cs)
    let isTag := key = .name Event.tag
    if isTag ∧ tagging = .known then match skipGap rest with
      | '\x7d' :: rest => .refused rest
      | rest => .refused rest
    else match colon rest with
      | .error _ => tagging
      | .ok rest =>
        let value := skipGap rest
        match if isTag then look value else tagging with
        | .refused rest => .refused rest
        | tagging => match skipGap (behind value) with
          | ',' :: rest => search fuel tagging rest
          | _ => tagging

/-- Looks for the tag of the value at the start of a text. -/
def Tagging.ofElement (cs : List Char) : Tagging :=
  match cs with
  | '[' :: rest => match skipGap rest with
    | ']' :: _ => .missing
    | rest => .look rest
  | '\x7b' :: rest => search rest.length .missing rest
  | _ => .missing

/-- What is left when an array is given up after an element. -/
def leave (cs : List Char) : List Char :=
  match skipGap cs with
  | ']' :: rest => rest
  | ',' :: rest => skipGap rest
  | rest => rest

/-- What is left when the value at the start of a text is no event. -/
def noEvent (cs : List Char) : List Char :=
  match Tagging.ofElement cs with
  | .refused rest => rest
  | .missing => behind cs
  | .known => leave (behind cs)

/-- What is left at the first element of an array that is no event. -/
def firstRefused : (fuel : Nat) → List Char → List Char
  | 0, cs => cs
  | fuel + 1, cs =>
    let element := skipGap cs
    let (doc, rest) := scan deepest element
    match Event.schema.read Break.fault .text doc, skipGap rest with
    | .ok _, ',' :: rest => firstRefused fuel rest
    | .ok _, rest => rest
    | .error _, _ => noEvent element

/-- How many octets of a text are left where a fault shows. -/
def left (text : String) : Fault → Nat
  | .broken _ left => left.getD 0
  | .refused _ => Text.octets <| match skipGap text.toList with
    | '[' :: rest => firstRefused rest.length rest
    | cs => refused cs

end NanAdapter.Trace
