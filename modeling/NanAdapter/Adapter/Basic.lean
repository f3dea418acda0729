import NanAdapter.Adapter.Effect
import NanAdapter.Counters
import NanAdapter.Register

/-! The adapter between the HAL and the session manager. It does what events require, and keeps a
journal of all that others get to see of it. -/

namespace NanAdapter

/-- Where anomalies go besides the log. -/
inductive AnomalySink where
  | nowhere
  | recording
  deriving DecidableEq, Repr

structure Adapter where
  register : Register
  verbose : Bool
  sink : AnomalySink
  counters : Counters
  channels : ChannelCache

/-- A notification, with the counters and channels that the session manager finds when it is called.
-/
structure Call where
  notification : Notification
  counters : Counters
  channels : ChannelCache

@[ext] structure Journal where
  calls : List Call
  anomalies : List Anomaly
  logs : List LogEntry

namespace Journal

def empty : Journal := ⟨[], [], []⟩

instance : Append Journal :=
  ⟨fun first later => ⟨first.calls ++ later.calls, first.anomalies ++ later.anomalies, first.logs ++ later.logs⟩⟩

def ofCall (call : Call) : Journal := ⟨[call], [], []⟩

def ofLog (entry : LogEntry) : Journal := ⟨[], [], [entry]⟩

@[simp] theorem calls_append (first later : Journal) :
    (first ++ later).calls = first.calls ++ later.calls := rfl

@[simp] theorem anomalies_append (first later : Journal) :
    (first ++ later).anomalies = first.anomalies ++ later.anomalies := rfl

@[simp] theorem logs_append (first later : Journal) :
    (first ++ later).logs = first.logs ++ later.logs := rfl

theorem append_assoc (first second third : Journal) :
    first ++ second ++ third = first ++ (second ++ third) := by
  ext1 <;> simp [List.append_assoc]

def notifications (j : Journal) : List Notification := j.calls.map Call.notification

@[simp] theorem notifications_append (first later : Journal) :
    (first ++ later).notifications = first.notifications ++ later.notifications := List.map_append

end Journal

namespace Adapter

def revision (a : Adapter) : Revision := a.register.revision

/-- Does one thing. An anomaly is logged wherever else it goes. -/
def enact (a : Adapter) : Effect → Adapter × Journal
  | .count kind => ({ a with counters := a.counters.increment kind }, .empty)
  | .store change => ({ a with channels := a.channels.change change }, .empty)
  | .report anomaly => (a, ⟨[], if a.sink = .recording then [anomaly] else [], [anomaly.entry]⟩)
  | .notify notification => (a, .ofCall ⟨notification, a.counters, a.channels⟩)
  | .log entry => (a, .ofLog entry)

def run : Adapter → List Effect → Adapter × Journal
  | a, [] => (a, .empty)
  | a, effect :: rest =>
    let (a, first) := a.enact effect
    let (a, later) := a.run rest
    (a, first ++ later)

theorem run_append (a : Adapter) (first later : List Effect) :
    a.run (first ++ later) =
      (((a.run first).1.run later).1, (a.run first).2 ++ ((a.run first).1.run later).2) := by
  induction first generalizing a with
  | nil => rfl
  | cons effect rest ih => simp [run, ih, Journal.append_assoc]

/-- Takes one event from the HAL. -/
def dispatch (a : Adapter) (e : Event) : Outcome × Adapter × Journal :=
  (e.outcome a.revision, a.run (e.effects a.revision a.verbose))

/-- Raises the negotiated revision; a lower one is ignored. -/
def upgrade (a : Adapter) (r : Revision) : Adapter × Journal :=
  let raised := { a with register := a.register.raise r }
  (raised,
    if r.code < a.register.code then
      .ofLog ⟨.debug, "Ignoring HAL revision downgrade", [("requested", r.text), ("current", raised.revision.text)]⟩
    else .empty)

end Adapter

end NanAdapter
