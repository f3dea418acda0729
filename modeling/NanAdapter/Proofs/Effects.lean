import NanAdapter.Adapter.Operation

/-! What a list of effects leaves behind. Every part of an adapter and of its journal follows from the
effects of one sort, whatever stands between them. -/

namespace NanAdapter

namespace Effect

def counted? : Effect → Option IndicationKind
  | .count kind => some kind
  | _ => none

def stored? : Effect → Option ChannelCache.Change
  | .store change => some change
  | _ => none

def reported? : Effect → Option Anomaly
  | .report anomaly => some anomaly
  | _ => none

end Effect

theorem Journal.append_empty (j : Journal) : j ++ .empty = j := by
  ext1 <;> exact List.append_nil _

namespace Adapter
variable (a : Adapter) (effects : List Effect)

/-- Effects move nothing but the counters and the channels. -/
theorem run_keeps :
    (a.run effects).1 =
      { a with counters := (a.run effects).1.counters, channels := (a.run effects).1.channels } := by
  induction effects generalizing a with
  | nil => rfl
  | cons effect rest ih =>
    refine (ih (a.enact effect).1).trans ?_
    cases effect <;> rfl

theorem run_register : (a.run effects).1.register = a.register := by
  rw [run_keeps]

theorem run_counters :
    (a.run effects).1.counters = (effects.filterMap Effect.counted?).foldl Counters.increment a.counters := by
  induction effects generalizing a with
  | nil => rfl
  | cons effect rest ih =>
    refine (ih (a.enact effect).1).trans ?_
    cases effect <;> rfl

theorem run_channels :
    (a.run effects).1.channels = (effects.filterMap Effect.stored?).foldl ChannelCache.change a.channels := by
  induction effects generalizing a with
  | nil => rfl
  | cons effect rest ih =>
    refine (ih (a.enact effect).1).trans ?_
    cases effect <;> rfl

theorem run_anomalies :
    (a.run effects).2.anomalies = if a.sink = .recording then effects.filterMap Effect.reported? else [] := by
  -- no effect moves the sink, so one answer serves for the whole list
  induction effects generalizing a with
  | nil => simp [run, Journal.empty]
  | cons effect rest ih =>
    have later := ih (a.enact effect).1
    cases effect with
    | report anomaly =>
      simp only [run, Journal.anomalies_append, later]
      by_cases recording : a.sink = .recording <;> simp [enact, recording, Effect.reported?]
    | count _ | store _ | notify _ | log _ => exact later

end Adapter

/-- What an accepted event does to the channels, in the order in which it is done. -/
def Event.changes : Event → List ChannelCache.Change
  | .indication (.disabled _) => [.clear]
  | .indication (.dataPathConfirm result (some report)) => [.update result.path report.channels?]
  | .indication (.dataPathTerminated path) => [.remove path]
  | .indication (.scheduleUpdate update report) => update.paths.map (.update · report.channels?)
  | _ => []

/-- What the handling of an accepted event finds wrong with it. -/
def Event.complaints : Event → List Anomaly
  | .response id status .enable => if status.code = .alreadyEnabled then [.alreadyEnabled id] else []
  | .indication (.cluster report) =>
    if ClusterEvent.ofCode? report.code = none then [.unknownClusterEvent report.code] else []
  | _ => []

private theorem filterMap_nothing (items : List α) : items.filterMap (fun _ => (none : Option β)) = [] := by
  simp

section Handling
variable {β : Type} (f : Effect → Option β) (unlogged : ∀ entry, f (.log entry) = none)
  (unnotified : ∀ notification, f (.notify notification) = none)
include unlogged unnotified

private theorem filterMap_answer (id : TransactionId) (status : Status) (answer : Answer) :
    (answer.effects id status).filterMap f =
      (Event.response id status answer).complaints.filterMap fun anomaly => f (.report anomaly) := by
  have unseen := unseen_failure f unlogged
  cases answer with
  | enable =>
    simp only [Answer.effects, Event.complaints]
    split
    · simp [List.filterMap_cons, unnotified]
    · split <;> simp [unseen, unnotified]
  | disable | createInterface | deleteInterface | respondToDataPath | terminateDataPath =>
    simp [Answer.effects, Event.complaints, filterMap_warnFailed f unlogged, unnotified]
  | startPublish session | startSubscribe session =>
    exact (filterMap_sessionStarted f unlogged id status _ session).trans (by rw [unnotified]; rfl)
  | capabilities _ | config | stopPublish | stopSubscribe | transmitFollowUp | initiateDataPath _ =>
    simp only [Answer.effects, Event.complaints]
    split <;> simp [unseen, unnotified]

omit unlogged in
private theorem filterMap_cluster (report : ClusterReport) :
    report.effects.filterMap f =
      (Event.indication (.cluster report)).complaints.filterMap fun anomaly => f (.report anomaly) := by
  simp only [ClusterReport.effects, Event.complaints]
  split
  all_goals
    rename_i known
    simp [known, List.filterMap_cons, unnotified]

private theorem filterMap_update (update : ScheduleUpdate) (report : ChannelReport) :
    (update.effects report).filterMap f =
      (update.paths.map (ChannelCache.Change.update · report.channels?)).filterMap fun change =>
        f (.store change) := by
  simp only [ScheduleUpdate.effects]
  split
  next unnamed => simp [unnamed, unlogged]
  next named =>
    simp only [List.filterMap_append, List.filterMap_map, Function.comp_def, unnotified, filterMap_nothing,
      List.append_nil]

/-- Besides what is logged and announced, the handling of an event consists of its changes and its
complaints. No event has both. -/
theorem filterMap_handling (e : Event) :
    e.handling.filterMap f =
      (e.changes.filterMap fun change => f (.store change)) ++
        e.complaints.filterMap fun anomaly => f (.report anomaly) := by
  cases e with
  | response id status answer => exact filterMap_answer f unlogged unnotified id status answer
  | indication notice =>
    cases notice with
    | cluster report => exact filterMap_cluster f unnotified report
    | scheduleUpdate update report =>
      simpa [Event.changes, Event.complaints] using! filterMap_update f unlogged unnotified update report
    | dataPathConfirm result report =>
      cases report <;>
        simp [Event.handling, Indication.effects, DataPathResult.effects, Event.changes, Event.complaints,
          List.filterMap_cons, unnotified]
    | followUpTransmitted id status =>
      simp only [Event.handling, Indication.effects]
      split <;> simp [Event.changes, Event.complaints, unnotified]
    | disabled _ | publishTerminated _ _ | subscribeTerminated _ _ | found _ | expired _ _ | followUpReceived _
    | dataPathRequest _ | dataPathTerminated _ =>
      simp [Event.handling, Indication.effects, Event.changes, Event.complaints, List.filterMap_cons, unnotified]

end Handling

namespace Event
variable (e : Event)

/-- What is logged before the effects of an event. -/
def trace (verbose : Bool) : List Effect :=
  if verbose then [.log ⟨.debug, "HAL callback", [("callback", e.callback)]⟩] else []

theorem effects_eq_trace (negotiated : Revision) (verbose : Bool) :
    e.effects negotiated verbose = e.trace verbose ++ e.effects negotiated false := by
  simp [effects, trace]

theorem handling_counted : e.handling.filterMap Effect.counted? = [] := by
  simp [filterMap_handling Effect.counted? (fun _ => rfl) (fun _ => rfl), Effect.counted?]

theorem handling_stored : e.handling.filterMap Effect.stored? = e.changes := by
  simp [filterMap_handling Effect.stored? (fun _ => rfl) (fun _ => rfl), Effect.stored?]

theorem handling_reported : e.handling.filterMap Effect.reported? = e.complaints := by
  simp [filterMap_handling Effect.reported? (fun _ => rfl) (fun _ => rfl), Effect.reported?]

theorem filterMap_effects (f : Effect → Option β) (unlogged : ∀ entry, f (.log entry) = none)
    (negotiated : Revision) (verbose : Bool) :
    (e.effects negotiated verbose).filterMap f =
      ((e.anomaly? negotiated).toList.filterMap fun anomaly => f (.report anomaly)) ++
        if e.outcome negotiated = .processed then
          (e.kind.counter?.toList.filterMap fun kind => f (.count kind)) ++ e.handling.filterMap f
        else [] := by
  have untraced : (if verbose then [Effect.log ⟨.debug, "HAL callback", [("callback", e.callback)]⟩]
      else []).filterMap f = [] := by
    split <;> simp [unlogged]
  simp only [effects, List.filterMap_append, untraced, List.nil_append, List.filterMap_map, Function.comp_def]
  congr 1
  cases e.outcome negotiated with
  | dropped => rfl
  | processed => simp only [if_true, List.filterMap_append, List.filterMap_map, Function.comp_def]

end Event

namespace Adapter
variable (a : Adapter) (e : Event)

theorem dispatch_counters :
    (a.dispatch e).2.1.counters =
      if (a.dispatch e).1 = .processed then e.kind.counter?.toList.foldl Counters.increment a.counters
      else a.counters := by
  simp only [dispatch, run_counters, e.filterMap_effects Effect.counted? (fun _ => rfl), e.handling_counted]
  by_cases accepted : e.outcome a.revision = .processed
  · simp only [accepted, if_true, Effect.counted?, filterMap_nothing, List.filterMap_some, List.nil_append,
      List.append_nil]
  · simp only [accepted, if_false, Effect.counted?, filterMap_nothing, List.append_nil, List.foldl_nil]

theorem dispatch_channels :
    (a.dispatch e).2.1.channels =
      if (a.dispatch e).1 = .processed then e.changes.foldl ChannelCache.change a.channels else a.channels := by
  simp only [dispatch, run_channels, e.filterMap_effects Effect.stored? (fun _ => rfl), e.handling_stored]
  by_cases accepted : e.outcome a.revision = .processed
  · simp only [accepted, if_true, Effect.stored?, filterMap_nothing, List.nil_append]
  · simp only [accepted, if_false, Effect.stored?, filterMap_nothing, List.append_nil, List.foldl_nil]

theorem dispatch_anomalies :
    (a.dispatch e).2.2.anomalies =
      if a.sink = .recording then
        (e.anomaly? a.revision).toList ++ if (a.dispatch e).1 = .processed then e.complaints else []
      else [] := by
  simp only [dispatch, run_anomalies, e.filterMap_effects Effect.reported? (fun _ => rfl), e.handling_reported]
  by_cases accepted : e.outcome a.revision = .processed
  · simp only [accepted, if_true, Effect.reported?, filterMap_nothing, List.filterMap_some, List.nil_append]
  · simp only [accepted, if_false, Effect.reported?, List.filterMap_some]

end Adapter

end NanAdapter
