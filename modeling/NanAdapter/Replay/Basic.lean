import NanAdapter.Adapter.Basic
import NanAdapter.Config

/-! Replaying events: one after the other, or through the pump. The pump is a queue that holds no
more than so many events; whoever sends has to wait while it is full, and the adapter takes the
events out at the other end. -/

namespace NanAdapter

/-- How many events were processed, and how many dropped. -/
structure Tally where
  processed : Nat
  dropped : Nat
  deriving DecidableEq, Repr

namespace Tally

def total (t : Tally) : Nat := t.processed + t.dropped

def ofOutcomes (outcomes : List Outcome) : Tally := ⟨outcomes.count .processed, outcomes.count .dropped⟩

end Tally

/-- How far a replay has come: the adapter, and what each event led to, latest first. -/
structure Progress where
  adapter : Adapter
  steps : List (Outcome × Journal)

/-- What is left of a replay when it is over. -/
structure Replayed where
  adapter : Adapter
  tally : Tally
  journal : Journal

namespace Progress

def start (a : Adapter) : Progress := ⟨a, []⟩

def dispatch (p : Progress) (e : Event) : Progress :=
  let (outcome, adapter, journal) := p.adapter.dispatch e
  ⟨adapter, (outcome, journal) :: p.steps⟩

def result (p : Progress) : Replayed :=
  ⟨p.adapter, .ofOutcomes (p.steps.map (·.1)), p.steps.foldl (fun later step => step.2 ++ later) .empty⟩

end Progress

/-- Dispatches the events where they are. -/
def Adapter.replay (a : Adapter) (events : List Event) : Replayed :=
  (events.foldl Progress.dispatch (.start a)).result

/-- A pump at work: the events that are still to be sent, and those that wait in the queue. -/
structure Pump where
  capacity : Nat
  pending : List Event
  queue : List Event
  /-- Whether the sender has left, so that nothing will follow what waits. -/
  closed : Bool
  progress : Progress

namespace Pump

/-- At least one event fits into the queue. -/
def size (config : Config) : Nat := max config.capacity.toNat 1

def start (config : Config) (a : Adapter) (events : List Event) : Pump :=
  ⟨size config, events, [], false, .start a⟩

/-- Sends an event, unless the queue is full. -/
def send? (p : Pump) : Option Pump :=
  match p.pending with
  | e :: rest =>
    if p.queue.length < p.capacity then some { p with pending := rest, queue := p.queue ++ [e] } else none
  | [] => none

/-- Leaves, once everything is sent. -/
def close? (p : Pump) : Option Pump :=
  match p.pending with
  | _ :: _ => none
  | [] => if p.closed then none else some { p with closed := true }

/-- Takes an event out, unless the queue is empty. -/
def receive? (p : Pump) : Option Pump :=
  match p.queue with
  | e :: rest => some { p with queue := rest, progress := p.progress.dispatch e }
  | [] => none

/-- The sender has left and nothing waits. -/
def isOver (p : Pump) : Bool := p.closed && p.queue.isEmpty

/-- How many moves are left. -/
def remaining (p : Pump) : Nat := 2 * p.pending.length + p.queue.length + if p.closed then 0 else 1

theorem remaining_of_send? {p q : Pump} (sent : p.send? = some q) : q.remaining + 1 = p.remaining := by
  unfold send? at sent
  split at sent
  · split at sent
    · cases sent
      rename_i pending _
      simp only [remaining, pending, List.length_append, List.length_cons, List.length_nil]
      omega
    · cases sent
  · cases sent

theorem remaining_of_close? {p q : Pump} (left : p.close? = some q) : q.remaining + 1 = p.remaining := by
  unfold close? at left
  split at left
  · cases left
  · split at left
    · cases left
    · cases left
      rename_i present
      simp [remaining, present]

theorem remaining_of_receive? {p q : Pump} (received : p.receive? = some q) : q.remaining + 1 = p.remaining := by
  unfold receive? at received
  split at received
  · cases received
    rename_i queue
    simp only [remaining, queue, List.length_cons]
    omega
  · cases received

/-- Runs until nothing moves. An event is taken out as soon as it is there; any other order comes to
the same. -/
def finish (p : Pump) : Progress :=
  match received : p.receive? with
  | some q =>
    have := remaining_of_receive? received
    q.finish
  | none => match sent : p.send? with
    | some q =>
      have := remaining_of_send? sent
      q.finish
    | none => match left : p.close? with
      | some q =>
        have := remaining_of_close? left
        q.finish
      | none => p.progress
termination_by p.remaining

end Pump

/-- Dispatches the events through a pump, which logs its start and its end. -/
def Adapter.replayPumped (a : Adapter) (config : Config) (events : List Event) : Replayed :=
  let done := (Pump.start config a events).finish.result
  let first : Journal := .ofLog ⟨.debug, "Event pump started", []⟩
  let last : Journal := .ofLog ⟨.debug, "Event pump stopped, channel closed",
    [("processed", Text.decimal done.tally.processed), ("dropped", Text.decimal done.tally.dropped)]⟩
  { done with journal := first ++ done.journal ++ last }

end NanAdapter
