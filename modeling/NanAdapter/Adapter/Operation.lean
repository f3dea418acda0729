import NanAdapter.Adapter.Diagnostics

/-! All that can be done with an adapter, and what one gets for it. -/

namespace NanAdapter

inductive Operation where
  | dispatch (event : Event)
  | upgrade (revision : Revision)
  | setVerbose (on : Bool)
  | resetChannels
  | clearCounters
  | drainCounters
  | count (kind : IndicationKind)
  | command (arguments : List String) (outLimit errLimit : Option Nat)
  | execute (command : Command) (outLimit : Option Nat)
  | help (outLimit : Option Nat)
  | dump (outLimit : Option Nat)
  | change (change : ChannelCache.Change)
  | lookup (path : UInt32)

inductive Reply where
  | outcome (outcome : Outcome)
  | revision (revision : Revision)
  | verbose (on : Bool)
  | nothing
  | counters (counters : Counters)
  | count (n : UInt32)
  | command (result : Adapter.CommandResult)
  | executed (result : Except CommandFault Unit) (out : Output)
  | written (out : Output) (complete : Bool)
  | channels (channels : Option (List Channel))

namespace Adapter

private def writeOut (lines : List String) (limit : Option Nat) : Reply :=
  let (out, complete) := (Output.limited limit).writeAll lines
  .written out complete

def perform (a : Adapter) : Operation → Reply × Adapter × Journal
  | .dispatch event =>
    let (outcome, a, journal) := a.dispatch event
    (.outcome outcome, a, journal)
  | .upgrade revision =>
    let (a, journal) := a.upgrade revision
    (.revision a.revision, a, journal)
  | .setVerbose on => (.verbose on, { a with verbose := on }, .empty)
  | .resetChannels => (.nothing, { a with channels := .empty }, .empty)
  | .clearCounters => (.nothing, { a with counters := .empty }, .empty)
  | .drainCounters => (.counters a.counters, { a with counters := .empty }, .empty)
  | .count kind => (.count (a.counters.count kind), a, .empty)
  | .command arguments outLimit errLimit =>
    let (result, a, journal) := a.onCommand arguments (.limited outLimit) (.limited errLimit)
    (.command result, a, journal)
  | .execute command outLimit =>
    let (result, a, out) := a.execute command (.limited outLimit)
    (.executed result out, a, .empty)
  | .help outLimit => (writeOut Command.help outLimit, a, .empty)
  | .dump outLimit => (writeOut a.dump outLimit, a, .empty)
  | .change change => (.nothing, { a with channels := a.channels.change change }, .empty)
  | .lookup path => (.channels (a.channels.get? path), a, .empty)

/-- Does one operation after the other. -/
def performAll : Adapter → List Operation → Adapter × Journal
  | a, [] => (a, .empty)
  | a, operation :: rest =>
    let (_, a, first) := a.perform operation
    let (a, later) := a.performAll rest
    (a, first ++ later)

end Adapter

end NanAdapter
