import NanAdapter.Proofs.Forwarding
import NanAdapter.Proofs.Introspection
import NanAdapter.Proofs.NegotiatedRevision

/-! Tracing and sinks are there to watch, and nothing else. Wherever tracing is switched on and off, and whoever
listens for anomalies, a run becomes the same, and all that is logged besides the traces stays what it is. -/

namespace NanAdapter

/-- What an effect leaves in the log. It does not matter who else hears of an anomaly. -/
def Effect.logged? : Effect → Option LogEntry
  | .log entry => some entry
  | .report anomaly => some anomaly.entry
  | _ => none

/-- The entry is one of an anomaly. -/
def LogEntry.isAnomaly (entry : LogEntry) : Bool :=
  entry.level = .error && entry.fields.any fun field => field.1 = "anomaly"

/-- The entry that an event leaves when it comes, if callbacks are traced. -/
def Event.traced (e : Event) : LogEntry := ⟨.debug, "HAL callback", [("callback", e.callback)]⟩

/-- The entry is the trace of some event. -/
def LogEntry.isTrace (entry : LogEntry) : Bool := entry.level = .debug && entry.message = "HAL callback"

def Operation.switchesTracing : Operation → Bool
  | .setVerbose _ => true
  | _ => false

theorem Operation.eq_of_switchesTracing {operation : Operation} (switches : operation.switchesTracing = true) :
    ∃ on, operation = .setVerbose on := by
  unfold switchesTracing at switches
  split at switches
  next on => exact ⟨on, rfl⟩
  next => cases switches

/-- What is left of a run without the switches of tracing. -/
def Operation.untraced (operations : List Operation) : List Operation :=
  operations.filter fun operation => !operation.switchesTracing

/-- The anomalies that an operation makes known, whether or not the sink records them. -/
def Operation.reported (met : Adapter) : Operation → List Anomaly
  | .dispatch e => met.reports e
  | _ => []

/-- What is said of a request that failed has fields of its own. -/
private theorem isAnomaly_failure (level : LogLevel) (message id status : String) {others : List (String × String)}
    (own : others.any (fun field => field.1 = "anomaly") = false) :
    LogEntry.isAnomaly ⟨level, message, ("id", id) :: ("status", status) :: others⟩ = false := by
  simp [LogEntry.isAnomaly, own]

section Answers
variable {id : TransactionId} {status : Status} {P : Effect → Prop}
  (notified : ∀ notification, P (.notify notification)) (reported : ∀ anomaly, P (.report anomaly))
  (failed : status.isSuccess = false → ∀ level message (others : List (String × String)),
    others.any (fun field => field.1 = "anomaly") = false →
      P (.log ⟨level, message, ("id", Text.decimal id.toNat) :: ("status", status.text) :: others⟩))
include notified reported failed

/-- A response is announced or it is not, and what it logs is that the request has failed. -/
private theorem Answer.forall_effects (answer : Answer) : ∀ effect ∈ answer.effects id status, P effect := by
  cases answer with
  | enable =>
    simp only [effects]
    split
    · simp [notified, reported]
    · split
      · simp [notified]
      next bad =>
        refine List.forall_mem_cons.mpr ⟨failed (eq_false_of_ne_true bad) _ _ _ rfl, ?_⟩
        simp [notified]
  | disable | createInterface | deleteInterface | respondToDataPath | terminateDataPath =>
    refine List.forall_mem_append.mpr ⟨?_, by simp [notified]⟩
    change ∀ effect ∈ (if status.isSuccess then [] else _), P effect
    split
    · simp
    next bad =>
      refine List.forall_mem_cons.mpr ⟨failed (eq_false_of_ne_true bad) _ _ _ rfl, ?_⟩
      simp
  | startPublish _ | startSubscribe _ =>
    change ∀ effect ∈ (if status.isSuccess then _ else _), P effect
    split
    · simp [notified]
    next bad =>
      refine List.forall_mem_cons.mpr ⟨failed (eq_false_of_ne_true bad) _ _ _ rfl, ?_⟩
      simp [notified]
  | capabilities _ | config | stopPublish | stopSubscribe | transmitFollowUp | initiateDataPath _ =>
    simp only [effects]
    split
    · simp [notified]
    next bad =>
      refine List.forall_mem_cons.mpr ⟨failed (eq_false_of_ne_true bad) _ _ _ rfl, ?_⟩
      simp [notified]

end Answers

namespace Event
variable (e : Event)

/-- The event brings a code that is not the one of success, or it is an update of nothing. -/
def Amiss : Prop :=
  (∃ code ∈ e.particulars.code, code.raw ≠ 0) ∨
    ∃ update report, e = .indication (.scheduleUpdate update report) ∧ update.paths = []

/-- The handling of an event logs only what is amiss, and nothing of that looks like an anomaly. -/
theorem handling_logs {entry : LogEntry} (logged : .log entry ∈ e.handling) :
    entry.isAnomaly = false ∧ e.Amiss := by
  cases e with
  | response id status answer =>
    let Fine (effect : Effect) : Prop :=
      ∀ entry, effect = .log entry → entry.isAnomaly = false ∧ status.isSuccess = false
    have fine : ∀ effect ∈ answer.effects id status, Fine effect := by
      apply Answer.forall_effects
      · intro notification entry same
        cases same
      · intro anomaly entry same
        cases same
      · intro bad level message others own entry same
        cases same
        exact ⟨isAnomaly_failure level message _ _ own, bad⟩
    obtain ⟨ordinary, bad⟩ := fine _ logged entry rfl
    rw [Status.isSuccess_eq] at bad
    have told : status.code ∈ (answer.particulars id status).code := by
      cases answer <;> rfl
    exact ⟨ordinary, .inl ⟨status.code, told, of_decide_eq_false bad⟩⟩
  | indication notice =>
    cases notice with
    | scheduleUpdate update report =>
      simp only [handling, Indication.effects, ScheduleUpdate.effects] at logged
      split at logged
      next unnamed =>
        cases List.mem_singleton.mp logged
        exact ⟨rfl, .inr ⟨update, report, rfl, unnamed⟩⟩
      next => simp at logged
    | cluster report =>
      simp only [handling, Indication.effects, ClusterReport.effects] at logged
      split at logged <;> simp at logged
    | dataPathConfirm result report =>
      cases report <;> simp [handling, Indication.effects, DataPathResult.effects] at logged
    | followUpTransmitted id status =>
      simp only [handling, Indication.effects] at logged
      split at logged <;> simp at logged
    | disabled _ | publishTerminated _ _ | subscribeTerminated _ _ | found _ | expired _ _ | followUpReceived _
    | dataPathRequest _ | dataPathTerminated _ => simp [handling, Indication.effects] at logged

/-- What the handling of an event logs of anomalies are its complaints, in their order. -/
theorem filter_handling_logs :
    (e.handling.filterMap Effect.logged?).filter LogEntry.isAnomaly = e.complaints.map Anomaly.entry := by
  rw [← handling_reported, List.filter_filterMap, List.map_filterMap]
  apply List.filterMap_congr
  intro effect member
  cases effect with
  | log entry =>
    obtain ⟨ordinary, -⟩ := e.handling_logs member
    exact Option.filter_eq_none_iff.mpr fun _ same => by
      cases same
      simp [ordinary]
  | report anomaly => rfl
  | count _ | store _ | notify _ => rfl

/-- An event with nothing amiss is handled without a word. -/
theorem handling_silent (fine : ¬ e.Amiss) (sound : e.complaints = []) :
    e.handling.filterMap Effect.logged? = [] := by
  apply List.filterMap_eq_nil_iff.mpr
  intro effect member
  cases effect with
  | log entry => exact absurd (e.handling_logs member).2 fine
  | report anomaly =>
    have complaint : anomaly ∈ e.complaints := by
      rw [← handling_reported]
      exact List.mem_filterMap.mpr ⟨_, member, rfl⟩
    rw [sound] at complaint
    cases complaint
  | count _ | store _ | notify _ => rfl

end Event

namespace Adapter
variable (a : Adapter) (e : Event)

theorem run_logs (effects : List Effect) : (a.run effects).2.logs = effects.filterMap Effect.logged? := by
  induction effects generalizing a with
  | nil => rfl
  | cons effect rest ih =>
    have later := ih (a.enact effect).1
    cases effect with
    | log entry => exact congrArg (entry :: ·) later
    | report anomaly => exact congrArg (anomaly.entry :: ·) later
    | count _ | store _ | notify _ => exact later

/-- What an event logs: its trace, what the gate finds, and what its handling has to say. -/
theorem dispatch_logs :
    (a.dispatch e).2.2.logs =
      (if a.verbose then [e.traced] else []) ++
        ((e.anomaly? a.revision).toList.map Anomaly.entry ++
          if (a.dispatch e).1 = .processed then e.handling.filterMap Effect.logged? else []) := by
  have traced : (e.trace a.verbose).filterMap Effect.logged? = if a.verbose then [e.traced] else [] := by
    unfold Event.trace
    split <;> rfl
  have checked : ((e.anomaly? a.revision).toList.map Effect.report).filterMap Effect.logged? =
      (e.anomaly? a.revision).toList.map Anomaly.entry := by
    cases e.anomaly? a.revision <;> rfl
  have counted : (e.kind.counter?.toList.map Effect.count).filterMap Effect.logged? = [] := by
    cases e.kind.counter? <;> rfl
  change (a.run (e.effects a.revision a.verbose)).2.logs =
    _ ++ (_ ++ if e.outcome a.revision = .processed then _ else _)
  rw [run_logs, e.effects_eq_trace, List.filterMap_append, traced]
  simp only [Event.effects, List.filterMap_append, checked]
  cases e.outcome a.revision with
  | dropped => rfl
  | processed => simp [counted]

/-- The anomalies in the log are those that the event reports, whoever else hears of them. -/
theorem dispatch_filter_logs :
    (a.dispatch e).2.2.logs.filter LogEntry.isAnomaly = (a.reports e).map Anomaly.entry := by
  have untraced : (if a.verbose then [e.traced] else []).filter LogEntry.isAnomaly = [] := by
    split <;> rfl
  have checked : ((e.anomaly? a.revision).toList.map Anomaly.entry).filter LogEntry.isAnomaly =
      (e.anomaly? a.revision).toList.map Anomaly.entry := by
    cases e.anomaly? a.revision <;> rfl
  rw [dispatch_logs, reports_eq, List.filter_append, untraced, List.filter_append, checked, List.map_append]
  refine congrArg ((e.anomaly? a.revision).toList.map Anomaly.entry ++ ·) ?_
  cases outcome : (a.dispatch e).1 with
  | processed => exact e.filter_handling_logs
  | dropped =>
    rw [e.complaints_of_dropped a.revision outcome]
    rfl

theorem dispatch_silent (untraced : a.verbose = false) (sound : a.reports e = []) (fine : ¬ e.Amiss) :
    (a.dispatch e).2.2.logs = [] := by
  rw [reports_eq] at sound
  obtain ⟨fits, nothing⟩ := List.append_eq_nil_iff.mp sound
  rw [dispatch_logs, untraced, fits, e.handling_silent fine nothing, ite_self]
  rfl

/-- An operation that is no event neither reports an anomaly nor logs one. -/
theorem perform_filter_logs (operation : Operation) :
    (a.perform operation).2.2.logs.filter LogEntry.isAnomaly = (operation.reported a).map Anomaly.entry := by
  cases operation with
  | dispatch e => exact a.dispatch_filter_logs e
  | upgrade revision =>
    simp only [perform, upgrade]
    split <;> rfl
  | command arguments outLimit errLimit =>
    simp only [perform, onCommand]
    split <;> rfl
  | setVerbose _ | resetChannels | clearCounters | drainCounters | count _ | execute _ _ | help _ | dump _ | change _
  | lookup _ => rfl

theorem perform_heard (operation : Operation) :
    (a.perform operation).2.2.anomalies = if a.sink = .recording then operation.reported a else [] := by
  rw [perform_anomalies]
  cases operation with
  | dispatch e => exact (every_event_is_gated a e).heard
  | upgrade _ | setVerbose _ | resetChannels | clearCounters | drainCounters | count _ | command _ _ _ | execute _ _
  | help _ | dump _ | change _ | lookup _ => exact (ite_self _).symm

/-- All that the operations of a run report. -/
def reported (operations : List Operation) : List Anomaly :=
  (a.history operations).flatMap fun step => step.2.reported step.1

/-- Over a run the log tells of the same anomalies as a sink that records them. -/
theorem performAll_filter_logs (operations : List Operation) :
    (a.performAll operations).2.logs.filter LogEntry.isAnomaly = (a.reported operations).map Anomaly.entry ∧
      (a.performAll operations).2.anomalies = if a.sink = .recording then a.reported operations else [] := by
  induction operations generalizing a with
  | nil => exact ⟨rfl, (ite_self _).symm⟩
  | cons operation rest ih =>
    obtain ⟨logged, heard⟩ := ih (a.perform operation).2.1
    rw [perform_sink] at heard
    have split : a.reported (operation :: rest) =
        operation.reported a ++ (a.perform operation).2.1.reported rest := rfl
    simp only [performAll, Journal.logs_append, Journal.anomalies_append, List.filter_append, perform_filter_logs,
      perform_heard, logged, heard, split, List.map_append, true_and]
    split
    · rfl
    · rfl

/-- The adapters are in the same state, but for tracing and for the sink. -/
structure Twins (a b : Adapter) : Prop extends Alike a b where
  register : a.register = b.register

/-- What two runs have in common that nobody can tell apart but by their traces. -/
structure Indistinguishable (a b : Adapter) (operations others : List Operation) : Prop where
  outcomes : a.outcomes operations = b.outcomes others
  calls : (a.performAll operations).2.calls = (b.performAll others).2.calls
  reported : a.reported operations = b.reported others
  logs : (a.performAll operations).2.logs.filter (!·.isTrace) = (b.performAll others).2.logs.filter (!·.isTrace)
  state : Twins (a.performAll operations).1 (b.performAll others).1

namespace Twins
variable {a b : Adapter}

theorem refl (a : Adapter) : Twins a a := ⟨⟨rfl, rfl⟩, rfl⟩

theorem revision (twins : Twins a b) : a.revision = b.revision := congrArg Register.revision twins.register

theorem switch (twins : Twins a b) (on : Bool) : Twins (a.perform (.setVerbose on)).2.1 b :=
  ⟨⟨twins.counters, twins.channels⟩, twins.register⟩

/-- Both accept an event or both drop it, so an operation leaves them in the same state again. -/
theorem perform (twins : Twins a b) (operation : Operation) :
    (a.perform operation).2.2.calls = (b.perform operation).2.2.calls ∧
      Twins (a.perform operation).2.1 (b.perform operation).2.1 := by
  have register : (a.perform operation).2.1.register = (b.perform operation).2.1.register := by
    rw [perform_register, perform_register, twins.register]
  by_cases accepted : ∀ e, operation = .dispatch e → (a.dispatch e).1 = .processed
  · have both : ∀ e, operation = .dispatch e → (a.dispatch e).1 = .processed ∧ (b.dispatch e).1 = .processed := by
      intro e here
      have same := (dispatch_congr twins.revision e).1
      exact ⟨accepted e here, same ▸ accepted e here⟩
    exact ⟨twins.calls operation both, twins.toAlike.perform operation both, register⟩
  · obtain ⟨e, rfl, refused⟩ : ∃ e, operation = .dispatch e ∧ (a.dispatch e).1 ≠ .processed := by
      simpa using accepted
    have dropped : (a.dispatch e).1 = .dropped := by
      cases outcome : (a.dispatch e).1 with
      | dropped => rfl
      | processed => exact absurd outcome refused
    obtain ⟨left, silent⟩ := a.dispatch_dropped e dropped
    obtain ⟨left', silent'⟩ := b.dispatch_dropped e ((dispatch_congr twins.revision e).1 ▸ dropped)
    refine ⟨silent.trans silent'.symm, ?_⟩
    change Twins (a.dispatch e).2.1 (b.dispatch e).2.1
    rw [left, left']
    exact twins

theorem outcome (twins : Twins a b) (operation : Operation) :
    (a.perform operation).1.outcome? = (b.perform operation).1.outcome? := by
  rw [outcome?_perform, outcome?_perform]
  cases operation with
  | dispatch e => exact congrArg some (dispatch_congr twins.revision e).1
  | upgrade _ | setVerbose _ | resetChannels | clearCounters | drainCounters | count _ | command _ _ _ | execute _ _
  | help _ | dump _ | change _ | lookup _ => rfl

theorem reports (twins : Twins a b) (operation : Operation) : operation.reported a = operation.reported b := by
  cases operation with
  | dispatch e => exact (dispatch_congr twins.revision e).2.2
  | upgrade _ | setVerbose _ | resetChannels | clearCounters | drainCounters | count _ | command _ _ _ | execute _ _
  | help _ | dump _ | change _ | lookup _ => rfl

/-- A command is answered from what the adapters have in common. -/
theorem onCommand (twins : Twins a b) (arguments : List String) (out err : Output) :
    (a.onCommand arguments out err).1 = (b.onCommand arguments out err).1 ∧
      (a.onCommand arguments out err).2.2 = (b.onCommand arguments out err).2.2 := by
  have shown (command : Command) : (a.answer command).1 = (b.answer command).1 := by
    cases command with
    | counts reset => exact congrArg (fun counters : Counters => counters.toJson.text) twins.counters
    | channels => exact congrArg (fun channels : ChannelCache => channels.toJson.text) twins.channels
  simp only [Adapter.onCommand, execute, shown]
  cases Command.ofArguments arguments with
  | error fault => exact ⟨rfl, rfl⟩
  | ok command =>
    dsimp only
    split
    · exact ⟨rfl, rfl⟩
    · exact ⟨rfl, rfl⟩

/-- What is logged besides traces is decided by what the adapters have in common. -/
theorem logs (twins : Twins a b) (operation : Operation) :
    (a.perform operation).2.2.logs.filter (!·.isTrace) = (b.perform operation).2.2.logs.filter (!·.isTrace) := by
  cases operation with
  | dispatch e =>
    have untraced (met : Adapter) : (if met.verbose then [e.traced] else []).filter (!·.isTrace) = [] := by
      split <;> rfl
    change (a.dispatch e).2.2.logs.filter _ = (b.dispatch e).2.2.logs.filter _
    simp only [dispatch_logs, List.filter_append, untraced, twins.revision, (dispatch_congr twins.revision e).1]
  | upgrade revision =>
    simp only [Adapter.perform, upgrade, twins.register, Adapter.revision]
  | command arguments outLimit errLimit =>
    exact congrArg (fun journal : Journal => journal.logs.filter (!·.isTrace)) (twins.onCommand arguments _ _).2
  | setVerbose _ | resetChannels | clearCounters | drainCounters | count _ | execute _ _ | help _ | dump _ | change _
  | lookup _ => rfl

end Twins

namespace Indistinguishable
variable {a b c : Adapter} {operations others more : List Operation} {operation : Operation}

theorem symm (same : Indistinguishable a b operations others) : Indistinguishable b a others operations where
  outcomes := same.outcomes.symm
  calls := same.calls.symm
  reported := same.reported.symm
  logs := same.logs.symm
  state := ⟨⟨same.state.counters.symm, same.state.channels.symm⟩, same.state.register.symm⟩

theorem trans (same : Indistinguishable a b operations others) (next : Indistinguishable b c others more) :
    Indistinguishable a c operations more where
  outcomes := same.outcomes.trans next.outcomes
  calls := same.calls.trans next.calls
  reported := same.reported.trans next.reported
  logs := same.logs.trans next.logs
  state := ⟨⟨same.state.counters.trans next.state.counters, same.state.channels.trans next.state.channels⟩,
    same.state.register.trans next.state.register⟩

/-- A switch of tracing is no part of what anybody sees. -/
theorem switch {on : Bool} (same : Indistinguishable (a.perform (.setVerbose on)).2.1 b operations others) :
    Indistinguishable a b (.setVerbose on :: operations) others :=
  ⟨same.outcomes, same.calls, same.reported, same.logs, same.state⟩

theorem step (twins : Twins a b)
    (same : Indistinguishable (a.perform operation).2.1 (b.perform operation).2.1 operations others) :
    Indistinguishable a b (operation :: operations) (operation :: others) where
  outcomes := by
    have later := same.outcomes
    simp only [Adapter.outcomes] at later ⊢
    simp only [steps_cons, List.filterMap_cons, twins.outcome operation, later]
  calls := congrArg₂ (· ++ ·) (twins.perform operation).1 same.calls
  reported := congrArg₂ (· ++ ·) (twins.reports operation) same.reported
  logs := by
    simp only [performAll, Journal.logs_append, List.filter_append, twins.logs operation, same.logs]
  state := same.state

/-- A run is the same for everybody as the run without its switches of tracing. -/
theorem untraced (twins : Twins a b) (operations : List Operation) :
    Indistinguishable a b operations (Operation.untraced operations) := by
  induction operations generalizing a b with
  | nil => exact ⟨rfl, rfl, rfl, rfl, twins⟩
  | cons operation rest ih =>
    cases switches : operation.switchesTracing with
    | true =>
      have left : Operation.untraced (operation :: rest) = Operation.untraced rest :=
        List.filter_cons_of_neg (by simp [switches])
      obtain ⟨on, rfl⟩ := Operation.eq_of_switchesTracing switches
      rw [left]
      exact (ih (twins.switch on)).switch
    | false =>
      have kept : Operation.untraced (operation :: rest) = operation :: Operation.untraced rest :=
        List.filter_cons_of_pos (by simp [switches])
      rw [kept]
      exact (ih (twins.perform operation).2).step twins

/-- Wherever tracing is switched, the runs are the same. -/
theorem placed (twins : Twins a b) (same : Operation.untraced operations = Operation.untraced others) :
    Indistinguishable a b operations others := by
  have first := untraced twins operations
  have second := untraced (Twins.refl b) others
  rw [same] at first
  exact first.trans second.symm

end Indistinguishable

/-- Two adapters in the same state perform the same operations, with tracing switched on and off wherever one likes
and with any sinks. Nobody can tell the runs apart but by their traces. A trace comes first, also if the event is
dropped, and after it the same is logged as without it. The anomalies in the log are those that are reported, and
an event with nothing amiss logs nothing but its trace. -/
theorem tracing_and_sinks_only_observe {a b : Adapter} {operations others : List Operation}
    (counters : a.counters = b.counters) (channels : a.channels = b.channels) (register : a.register = b.register)
    (placed : Operation.untraced operations = Operation.untraced others) :
    Indistinguishable a b operations others ∧
      ((a.performAll operations).2.logs.filter LogEntry.isAnomaly =
          (a.reported operations).map (fun anomaly => ⟨.error, anomaly.message, [("anomaly", anomaly.label)]⟩) ∧
        (a.performAll operations).2.anomalies = if a.sink = .recording then a.reported operations else []) ∧
      ∀ e : Event,
        ({ a with verbose := true }.dispatch e).2.2.logs =
            ⟨.debug, "HAL callback", [("callback", e.callback)]⟩ :: ({ b with verbose := false }.dispatch e).2.2.logs ∧
          (a.dispatch e).2.2.logs.filter LogEntry.isAnomaly =
            (a.reports e).map (fun anomaly => ⟨.error, anomaly.message, [("anomaly", anomaly.label)]⟩) ∧
          (a.verbose = false → a.reports e = [] → (∀ code ∈ e.particulars.code, code.raw = 0) →
            (∀ update report, e = .indication (.scheduleUpdate update report) → update.paths ≠ []) →
            (a.dispatch e).2.2.logs = []) := by
  have twins : Twins a b := ⟨⟨counters, channels⟩, register⟩
  refine ⟨.placed twins placed, a.performAll_filter_logs operations, fun e => ⟨?_, a.dispatch_filter_logs e, ?_⟩⟩
  · rw [dispatch_logs, dispatch_logs]
    change _ ++ ((e.anomaly? a.revision).toList.map Anomaly.entry ++
      if e.outcome a.revision = .processed then _ else _) = _
    rw [twins.revision]
    rfl
  · intro untraced sound codes named
    refine a.dispatch_silent e untraced sound fun amiss => ?_
    rcases amiss with failed | unnamed
    · obtain ⟨code, told, bad⟩ := failed
      exact bad (codes code told)
    · obtain ⟨update, report, here, none⟩ := unnamed
      exact named update report here none

/-- An update is dropped before an upgrade and accepted after it. The first run traces the first of the two, the
second run traces the other. -/
theorem tracing_and_sinks_only_observe_around_upgrade :
    let a := new .default .recording
    let b : Adapter := { new .default .nowhere with verbose := true }
    let update : Event := .indication (.scheduleUpdate ⟨.zero, [4]⟩ (.v1_2 none))
    let ended : Event := .indication (.dataPathTerminated 4)
    let operations : List Operation :=
      [.setVerbose true, .dispatch update, .setVerbose false, .upgrade .v1_2, .dispatch update]
    let others : List Operation :=
      [.setVerbose false, .dispatch update, .upgrade .v1_2, .setVerbose true, .dispatch update]
    let refusal : Anomaly := .revisionMismatch "eventDataPathScheduleUpdate" .v1_2 .v1_0
    Operation.untraced operations = Operation.untraced others ∧
      Indistinguishable a b operations others ∧
      (a.performAll operations).2.anomalies = [refusal] ∧
      (a.performAll operations).2.logs.filter LogEntry.isAnomaly =
        [⟨.error, refusal.message, [("anomaly", "revision_mismatch")]⟩] ∧
      ({ a with verbose := true }.dispatch update).2.2.logs.tail =
        ({ b with verbose := false }.dispatch update).2.2.logs ∧
      (a.dispatch ended).2.2.logs = [] := by
  intro a b update ended operations others refusal
  have placed : Operation.untraced operations = Operation.untraced others := rfl
  have reported : a.reported operations = [refusal] := by decide
  obtain ⟨runs, ⟨logged, heard⟩, events⟩ :=
    tracing_and_sinks_only_observe (a := a) (b := b) rfl rfl rfl placed
  rw [reported] at logged heard
  refine ⟨placed, runs, heard, logged, congrArg List.tail (events update).1, ?_⟩
  apply (events ended).2.2 rfl rfl
  · intro code told
    cases told
  · intro schedule report same
    exact absurd same (by simp [ended])

end Adapter

end NanAdapter
