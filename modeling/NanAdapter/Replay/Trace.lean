import NanAdapter.Replay.Trace.Place
import NanAdapter.Schema.Write

/-! Traces: the events of a HAL in the order in which they came, as the text of an array. -/

namespace NanAdapter

namespace Trace

def schema : Schema (List Event) := .list Event.schema

/-- A text that is no trace, and where it shows. -/
structure Invalid where
  cause : Fault
  place : Text.Place
  deriving DecidableEq, Repr

def Invalid.message : String := "Trace is not a JSON array of HAL events"

def Invalid.reason (e : Invalid) : String := e.cause.message ++ " at " ++ e.place.text

def ofText (text : String) : Except Invalid (List Event) :=
  (schema.ofText text).mapError fun cause => ⟨cause, .before (left text cause) text.toList⟩

def text (events : List Event) : String := schema.print events

end Trace

end NanAdapter
