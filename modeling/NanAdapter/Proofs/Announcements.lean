import NanAdapter.Config
import NanAdapter.Proofs.Effects
import NanAdapter.Proofs.History

/-! What the session manager is told of an event, and when. All that an event counts and stores is
counted and stored before the first call is made, so every call finds what the event leaves behind. -/

namespace NanAdapter

def Effect.announced? : Effect → Option Notification
  | .notify notification => some notification
  | _ => none

/-- The effects announce these notifications, and do nothing else once they have begun to. -/
def Announces (effects : List Effect) (notifications : List Notification) : Prop :=
  ∃ before, effects = before ++ notifications.map .notify ∧ before.filterMap Effect.announced? = []

/-- What the session manager is told of an accepted event. -/
def Event.announcements (e : Event) : List Notification := e.handling.filterMap Effect.announced?

namespace Announces
variable {effects : List Effect} {notifications : List Notification}

theorem filterMap_announced (announces : Announces effects notifications) :
    effects.filterMap Effect.announced? = notifications := by
  obtain ⟨before, rfl, silent⟩ := announces
  rw [List.filterMap_append, silent, List.filterMap_map]
  exact List.filterMap_some

theorem behind {first : List Effect} (silent : first.filterMap Effect.announced? = [])
    (announces : Announces effects notifications) : Announces (first ++ effects) notifications := by
  obtain ⟨before, rfl, quiet⟩ := announces
  exact ⟨first ++ before, (List.append_assoc ..).symm, by rw [List.filterMap_append, silent, quiet]; rfl⟩

theorem nothing (silent : effects.filterMap Effect.announced? = []) : Announces effects [] :=
  ⟨effects, (List.append_nil _).symm, silent⟩

theorem last (silent : effects.filterMap Effect.announced? = []) (notification : Notification) :
    Announces (effects ++ [.notify notification]) [notification] :=
  ⟨effects, rfl, silent⟩

theorem alone (notification : Notification) : Announces [.notify notification] [notification] :=
  ⟨[], rfl, rfl⟩

theorem after {effect : Effect} (silent : effect.announced? = none) (notification : Notification) :
    Announces [effect, .notify notification] [notification] :=
  ⟨[effect], rfl, by rw [List.filterMap_cons, silent]; rfl⟩

end Announces

private theorem Answer.announces (id : TransactionId) (status : Status) (answer : Answer) :
    ∃ notifications, Announces (answer.effects id status) notifications := by
  cases answer with
  | disable | createInterface | deleteInterface | respondToDataPath | terminateDataPath =>
    exact ⟨_, .last (filterMap_warnFailed Effect.announced? (fun _ => rfl) _ id status) _⟩
  | enable =>
    simp only [effects]
    split
    · exact ⟨_, .after rfl _⟩
    · split
      · exact ⟨_, .alone _⟩
      · exact ⟨_, .after rfl _⟩
  | config | transmitFollowUp | initiateDataPath _ =>
    simp only [effects]
    split
    · exact ⟨_, .alone _⟩
    · exact ⟨_, .after rfl _⟩
  | startPublish _ | startSubscribe _ =>
    change ∃ notifications, Announces (if status.isSuccess then _ else _) notifications
    split
    · exact ⟨_, .alone _⟩
    · exact ⟨_, .after rfl _⟩
  | capabilities _ =>
    simp only [effects]
    split
    · exact ⟨_, .alone _⟩
    · exact ⟨_, .nothing rfl⟩
  | stopPublish | stopSubscribe =>
    simp only [effects]
    split
    · exact ⟨_, .nothing rfl⟩
    · exact ⟨_, .nothing rfl⟩

theorem ScheduleUpdate.announces (update : ScheduleUpdate) (report : ChannelReport) :
    Announces (update.effects report) (update.paths.map (.scheduleUpdate update.peer · report.channels?)) := by
  unfold effects
  split
  next unnamed =>
    rw [unnamed]
    exact .nothing rfl
  next =>
    refine ⟨update.paths.map fun path => .store (.update path report.channels?), ?_, ?_⟩
    · rw [List.map_map]
      rfl
    · simp [List.filterMap_map, Function.comp_def, Effect.announced?]

private theorem Indication.announces (notice : Indication) :
    ∃ notifications, Announces notice.effects notifications := by
  cases notice with
  | cluster report =>
    simp only [effects, ClusterReport.effects]
    split
    · exact ⟨_, .alone _⟩
    · exact ⟨_, .alone _⟩
    · exact ⟨_, .alone _⟩
    · exact ⟨_, .nothing rfl⟩
  | followUpTransmitted id status =>
    simp only [effects]
    split
    · exact ⟨_, .alone _⟩
    · exact ⟨_, .alone _⟩
  | dataPathConfirm result report =>
    cases report with
    | none => exact ⟨_, .alone _⟩
    | some report => exact ⟨_, .after rfl _⟩
  | scheduleUpdate update report => exact ⟨_, update.announces report⟩
  | disabled _ | dataPathTerminated _ => exact ⟨_, .after rfl _⟩
  | publishTerminated _ _ | subscribeTerminated _ _ | found _ | expired _ _ | followUpReceived _
  | dataPathRequest _ => exact ⟨_, .alone _⟩

theorem Event.announces_handling (e : Event) : Announces e.handling e.announcements := by
  have concluded : ∃ notifications, Announces e.handling notifications := by
    cases e with
    | response id status answer => exact answer.announces id status
    | indication notice => exact notice.announces
  obtain ⟨notifications, announces⟩ := concluded
  rw [announcements, announces.filterMap_announced]
  exact announces

theorem Event.announces_effects (e : Event) (negotiated : Revision) (verbose : Bool) :
    Announces (e.effects negotiated verbose)
      (if e.outcome negotiated = .processed then e.announcements else []) := by
  have traced : (if verbose then [Effect.log ⟨.debug, "HAL callback", [("callback", e.callback)]⟩]
      else []).filterMap Effect.announced? = [] := by
    split <;> rfl
  have reported : ((e.anomaly? negotiated).toList.map Effect.report).filterMap Effect.announced? = [] := by
    cases e.anomaly? negotiated <;> rfl
  have counted : (e.kind.counter?.toList.map Effect.count).filterMap Effect.announced? = [] := by
    cases e.kind.counter? <;> rfl
  refine Announces.behind (by rw [List.filterMap_append, traced, reported]; rfl) ?_
  cases e.outcome negotiated with
  | dropped => exact ⟨[], rfl, rfl⟩
  | processed => exact e.announces_handling.behind counted

/-- What an operation makes the session manager hear: nothing, unless it is an event that is accepted. -/
def Operation.forwards (met : Adapter) : Operation → List Notification
  | .dispatch e => if (met.dispatch e).1 = .processed then (met.dispatch e).2.2.notifications else []
  | _ => []

namespace Adapter
variable (a : Adapter)

private theorem run_silent {effects : List Effect} (silent : effects.filterMap Effect.announced? = []) :
    (a.run effects).2.calls = [] := by
  induction effects generalizing a with
  | nil => rfl
  | cons effect rest ih =>
    have later := ih (a.enact effect).1
    cases effect with
    | notify _ => cases silent
    | count _ | store _ | report _ | log _ => exact later silent

private theorem run_notify (notifications : List Notification) :
    a.run (notifications.map .notify) = (a, ⟨notifications.map (⟨·, a.counters, a.channels⟩), [], []⟩) := by
  induction notifications with
  | nil => rfl
  | cons notification rest ih =>
    simp only [List.map_cons, run, enact, ih]
    rfl

/-- Whoever is told last is told of a state that does not change any more. -/
theorem run_calls {effects : List Effect} {notifications : List Notification}
    (announces : Announces effects notifications) :
    (a.run effects).2.calls =
      notifications.map (⟨·, (a.run effects).1.counters, (a.run effects).1.channels⟩) := by
  obtain ⟨before, rfl, silent⟩ := announces
  simp only [run_append, run_notify, Journal.calls_append, run_silent a silent, List.nil_append]

variable (e : Event)

theorem dispatch_calls :
    (a.dispatch e).2.2.calls =
      (if (a.dispatch e).1 = .processed then e.announcements else []).map
        (⟨·, (a.dispatch e).2.1.counters, (a.dispatch e).2.1.channels⟩) :=
  a.run_calls (e.announces_effects a.revision a.verbose)

theorem dispatch_notifications :
    (a.dispatch e).2.2.notifications = if (a.dispatch e).1 = .processed then e.announcements else [] := by
  simp only [Journal.notifications, dispatch_calls, List.map_map, Function.comp_def, List.map_id']

/-- Nothing but an event makes the session manager hear anything. -/
theorem perform_calls (operation : Operation) :
    (a.perform operation).2.2.calls =
      match operation with
      | .dispatch event => (a.dispatch event).2.2.calls
      | _ => [] := by
  cases operation with
  | upgrade revision =>
    simp only [perform, upgrade]
    split <;> rfl
  | command arguments outLimit errLimit =>
    simp only [perform, onCommand]
    split <;> rfl
  | dispatch _ | setVerbose _ | resetChannels | clearCounters | drainCounters | count _ | execute _ _ | help _
  | dump _ | change _ | lookup _ => rfl

theorem notifications_perform (operation : Operation) :
    (a.perform operation).2.2.notifications = operation.forwards a := by
  rw [Journal.notifications, perform_calls]
  cases operation with
  | dispatch e =>
    change (a.dispatch e).2.2.notifications = if (a.dispatch e).1 = .processed then _ else []
    split
    next => rfl
    next dropped => rw [dispatch_notifications, if_neg dropped]
  | upgrade _ | setVerbose _ | resetChannels | clearCounters | drainCounters | count _ | command _ _ _ | execute _ _
  | help _ | dump _ | change _ | lookup _ => rfl

/-- Every call that an event leads to finds the counters and the channels as the event leaves them, since
counting and storing are over when the first call is made. So over any run a call finds what the event
that it is about has left, and nothing of what comes later. -/
theorem calls_find_the_whole_event (a : Adapter) :
    (∀ e : Event,
      (∀ call ∈ (a.dispatch e).2.2.calls,
        call.counters = (a.dispatch e).2.1.counters ∧ call.channels = (a.dispatch e).2.1.channels) ∧
      ∃ before notifications, e.effects a.revision a.verbose = before ++ notifications.map .notify ∧
        (∀ notification, .notify notification ∉ before) ∧ (a.dispatch e).2.2.notifications = notifications) ∧
      ∀ operations, ∀ call ∈ (a.performAll operations).2.calls, ∃ first e later,
        operations = first ++ .dispatch e :: later ∧
          call.counters = (a.performAll (first ++ [.dispatch e])).1.counters ∧
          call.channels = (a.performAll (first ++ [.dispatch e])).1.channels := by
  have whole (met : Adapter) (e : Event) : ∀ call ∈ (met.dispatch e).2.2.calls,
      call.counters = (met.dispatch e).2.1.counters ∧ call.channels = (met.dispatch e).2.1.channels := by
    intro call made
    rw [dispatch_calls] at made
    obtain ⟨notification, -, rfl⟩ := List.mem_map.mp made
    exact ⟨rfl, rfl⟩
  refine ⟨fun e => ⟨whole a e, ?_⟩, ?_⟩
  · obtain ⟨before, split, silent⟩ := e.announces_effects a.revision a.verbose
    refine ⟨before, _, split, fun notification member => ?_, a.dispatch_notifications e⟩
    cases List.filterMap_eq_nil_iff.mp silent _ member
  · intro operations call made
    rw [calls_performAll] at made
    obtain ⟨step, taken, made⟩ := List.mem_flatMap.mp made
    obtain ⟨first, operation, later, rfl, rfl⟩ := mem_steps taken
    rw [perform_calls] at made
    cases operation with
    | dispatch e =>
      refine ⟨first, e, later, rfl, ?_⟩
      rw [performAll_append]
      exact whole _ e call made
    | upgrade _ | setVerbose _ | resetChannels | clearCounters | drainCounters | count _ | command _ _ _ | execute _ _
    | help _ | dump _ | change _ | lookup _ => cases made

/-- An update that names one path twice is called about three times, and each call finds all of it. -/
theorem calls_find_the_whole_update :
    let a := new .latest .recording
    let update : Event := .indication (.scheduleUpdate ⟨.zero, [4, 9, 4]⟩ (.v1_6 (some [⟨5180, 2, 2⟩])))
    (a.dispatch update).2.2.calls.length = 3 ∧
      ∀ call ∈ (a.dispatch update).2.2.calls,
        call.counters.count .scheduleUpdate = 1 ∧ call.channels.get? 4 = some [⟨5180, .mhz80, 2⟩] ∧
          call.channels.get? 9 = some [⟨5180, .mhz80, 2⟩] := by
  intro a update
  refine ⟨rfl, fun call made => ?_⟩
  obtain ⟨counters, channels⟩ := ((calls_find_the_whole_event a).1 update).1 call made
  rw [counters, channels]
  exact ⟨rfl, rfl, rfl⟩

end Adapter

end NanAdapter
