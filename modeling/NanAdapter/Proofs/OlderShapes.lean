import NanAdapter.Proofs.Announcements
import NanAdapter.Proofs.RevisionGate

/-! What an older shape says can be said in the newest one. At the newest revision it makes no difference
which of the two the HAL sends, but that the older one is reported. -/

namespace NanAdapter

/-- The first record says nothing about instant communication. -/
def CapabilityReport.lift : CapabilityReport → CapabilityReport
  | .v1_0 r => .v1_6 ⟨r.limits, r.cipherMask, false⟩
  | .v1_5 r => .v1_6 ⟨r.base.limits, r.base.cipherMask, r.instant⟩
  | .v1_6 r => .v1_6 r

/-- The first record has no cipher suites and no security context, and a distance in centimeters. -/
def MatchReport.lift : MatchReport → MatchReport
  | .v1_0 m =>
    .v1_6 ⟨m.encounter, 0, m.requiresRanging, m.ranging, .ofNat (min (10 * m.centimeters.toNat) (UInt32.size - 1)),
      some []⟩
  | .v1_6 m => .v1_6 m

def ChannelReport.lift : ChannelReport → ChannelReport
  | .v1_2 records => .v1_6 records
  | .v1_6 records => .v1_6 records

/-- The same event in the newest shape. The first confirmation has no channels, which no later shape can
say, so it stays. -/
def Event.lift : Event → Event
  | .response id status (.capabilities report) => .response id status (.capabilities report.lift)
  | .indication (.found report) => .indication (.found report.lift)
  | .indication (.dataPathConfirm result report) => .indication (.dataPathConfirm result (report.map ChannelReport.lift))
  | .indication (.scheduleUpdate update report) => .indication (.scheduleUpdate update report.lift)
  | e => e

theorem Capabilities.ofReport_lift (report : CapabilityReport) : ofReport report.lift = ofReport report := by
  cases report <;> rfl

theorem Match.ofReport_lift (report : MatchReport) : ofReport report.lift = ofReport report := by
  cases report <;> rfl

theorem ChannelReport.channels?_lift (report : ChannelReport) : report.lift.channels? = report.channels? := by
  cases report <;> rfl

namespace Event

/-- The report that an event is spared by being lifted. -/
def spared (e : Event) : Option Anomaly :=
  if e.lift = e then none else some (.supersededShape e.callback e.revision .v1_6)

variable (e : Event)

theorem kind_lift : e.lift.kind = e.kind := by
  unfold lift
  split <;> rfl

theorem handling_lift : e.lift.handling = e.handling := by
  unfold lift
  split
  next id status report => simp only [handling, Answer.effects, Capabilities.ofReport_lift]
  next report => simp only [handling, Indication.effects, Match.ofReport_lift]
  next result report =>
    cases report with
    | none => rfl
    | some report =>
      simp only [handling, Indication.effects, DataPathResult.effects, Option.map_some, Option.bind_some,
        ChannelReport.channels?_lift, Option.isSome_some]
  next update report =>
    simp only [handling, Indication.effects, ScheduleUpdate.effects, ChannelReport.channels?_lift]
  next => rfl

theorem changes_lift : e.lift.changes = e.changes := by
  rw [← handling_stored, handling_lift, handling_stored]

theorem complaints_lift : e.lift.complaints = e.complaints := by
  rw [← handling_reported, handling_lift, handling_reported]

theorem announcements_lift : e.lift.announcements = e.announcements := by
  rw [announcements, handling_lift, announcements]

/-- The newest revision has nothing that is too new for it. -/
theorem outcome_newest : e.outcome .v1_6 = .processed := by
  have fits : ¬ Revision.v1_6 < e.revision := by cases e.revision <;> decide
  exact if_neg fun tooNew => fits tooNew.1

theorem superseded_of_lift {e : Event} (changed : e.lift ≠ e) :
    e.anomaly? .v1_6 = some (.supersededShape e.callback e.revision .v1_6) ∧ e.lift.anomaly? .v1_6 = none := by
  unfold lift at changed ⊢
  split at changed
  next id status report =>
    cases report with
    | v1_0 _ | v1_5 _ => exact ⟨rfl, rfl⟩
    | v1_6 _ => exact absurd rfl changed
  next report =>
    cases report with
    | v1_0 _ => exact ⟨rfl, rfl⟩
    | v1_6 _ => exact absurd rfl changed
  next result report =>
    cases report with
    | none => exact absurd rfl changed
    | some report =>
      cases report with
      | v1_2 _ => exact ⟨rfl, rfl⟩
      | v1_6 _ => exact absurd rfl changed
  next update report =>
    cases report with
    | v1_2 _ => exact ⟨rfl, rfl⟩
    | v1_6 _ => exact absurd rfl changed
  next => exact absurd rfl changed

theorem anomaly?_lift : (e.anomaly? .v1_6).toList = e.spared.toList ++ (e.lift.anomaly? .v1_6).toList := by
  by_cases unchanged : e.lift = e
  · simp only [spared, unchanged, if_true, Option.toList_none, List.nil_append]
  · obtain ⟨superseded, newest⟩ := superseded_of_lift unchanged
    simp only [spared, unchanged, if_false, superseded, newest, Option.toList_none, List.append_nil]

end Event

namespace Operation

/-- The same operation with its event in the newest shape. -/
def lift : Operation → Operation
  | .dispatch e => .dispatch e.lift
  | operation => operation

/-- The reports that a sink is spared by the operation being lifted. -/
def spared (sink : AnomalySink) : Operation → List Anomaly
  | .dispatch e => if sink = .recording then e.spared.toList else []
  | _ => []

end Operation

theorem Register.eq_of_newest {g : Register} (newest : g.revision = .v1_6) : g = .ofRevision .v1_6 := by
  obtain ⟨code⟩ := g
  simp only [revision, Revision.ofCode?] at newest
  split at newest
  next => cases newest
  next => cases newest
  next => cases newest
  next => rfl
  next => cases newest

namespace Adapter
variable {a : Adapter}

/-- There is nothing that the newest revision could be raised to. -/
theorem perform_newest (newest : a.revision = .v1_6) (operation : Operation) :
    (a.perform operation).2.1.revision = .v1_6 := by
  have held : a.register = .ofRevision .v1_6 := Register.eq_of_newest newest
  have highest (r : Revision) : max .v1_6 r = .v1_6 := by cases r <;> rfl
  rw [revision, perform_register]
  cases operation with
  | upgrade r => simp only [held, Register.raise_ofRevision, highest, Register.revision_ofRevision]
  | dispatch _ | setVerbose _ | resetChannels | clearCounters | drainCounters | count _ | command _ _ _ | execute _ _
  | help _ | dump _ | change _ | lookup _ => exact newest

theorem dispatch_lift (newest : a.revision = .v1_6) (e : Event) :
    (a.dispatch e.lift).1 = (a.dispatch e).1 ∧ (a.dispatch e.lift).2.1 = (a.dispatch e).2.1 := by
  have accepted (event : Event) : (a.dispatch event).1 = .processed := by
    change event.outcome a.revision = .processed
    rw [newest]
    exact event.outcome_newest
  have counters : (a.dispatch e.lift).2.1.counters = (a.dispatch e).2.1.counters := by
    simp only [dispatch_counters, accepted, e.kind_lift]
  have channels : (a.dispatch e.lift).2.1.channels = (a.dispatch e).2.1.channels := by
    simp only [dispatch_channels, accepted, e.changes_lift]
  refine ⟨(accepted e.lift).trans (accepted e).symm, ?_⟩
  calc (a.dispatch e.lift).2.1
    _ = { a with counters := (a.dispatch e.lift).2.1.counters, channels := (a.dispatch e.lift).2.1.channels } :=
      a.run_keeps _
    _ = { a with counters := (a.dispatch e).2.1.counters, channels := (a.dispatch e).2.1.channels } := by
      rw [counters, channels]
    _ = (a.dispatch e).2.1 := (a.run_keeps _).symm

/-- What is seen of a step, but for what it reports and logs. -/
def seen (step : Reply × Adapter × Journal) : Reply × Adapter × List Call := (step.1, step.2.1, step.2.2.calls)

theorem seen_lift (newest : a.revision = .v1_6) (operation : Operation) :
    seen (a.perform operation.lift) = seen (a.perform operation) := by
  cases operation with
  | dispatch e =>
    obtain ⟨outcome, after⟩ := dispatch_lift newest e
    simp only [seen, Operation.lift, perform, outcome, after, dispatch_calls, e.announcements_lift]
  | upgrade _ | setVerbose _ | resetChannels | clearCounters | drainCounters | count _ | command _ _ _ | execute _ _
  | help _ | dump _ | change _ | lookup _ => rfl

theorem anomalies_lift (newest : a.revision = .v1_6) (operation : Operation) :
    (a.perform operation).2.2.anomalies =
      operation.spared a.sink ++ (a.perform operation.lift).2.2.anomalies := by
  cases operation with
  | dispatch e =>
    obtain ⟨outcome, -⟩ := dispatch_lift newest e
    simp only [Operation.lift, Operation.spared, perform, dispatch_anomalies, outcome, e.complaints_lift, newest,
      e.anomaly?_lift]
    split
    · rw [List.append_assoc]
    · rfl
  | upgrade _ | setVerbose _ | resetChannels | clearCounters | drainCounters | count _ | command _ _ _ | execute _ _
  | help _ | dump _ | change _ | lookup _ => rfl

end Adapter

/-- An operation of a run, and whether it is to be lifted. -/
abbrev Choice := Operation × Bool

namespace Choice

def taken (choice : Choice) : Operation := if choice.2 then choice.1.lift else choice.1

def spared (sink : AnomalySink) (choice : Choice) : List Anomaly :=
  if choice.2 then choice.1.spared sink else []

variable {a : Adapter} (newest : a.revision = .v1_6) (choice : Choice)
include newest

theorem seen_taken : Adapter.seen (a.perform choice.taken) = Adapter.seen (a.perform choice.1) := by
  obtain ⟨operation, lifted⟩ := choice
  cases lifted with
  | false => rfl
  | true => exact Adapter.seen_lift newest operation

theorem anomalies_taken :
    (a.perform choice.1).2.2.anomalies = choice.spared a.sink ++ (a.perform choice.taken).2.2.anomalies := by
  obtain ⟨operation, lifted⟩ := choice
  cases lifted with
  | false => rfl
  | true => exact Adapter.anomalies_lift newest operation

end Choice

namespace Adapter

/-- At the newest revision it does not matter which events of a run come in the newest shape instead of
an older one. After every step the reply, the calls and the whole adapter are the same, and the step
reports the same but for the older shape. -/
theorem older_shapes_simulate_newest {a : Adapter} (newest : a.revision = .v1_6) (choices : List Choice) :
    let plain := a.steps (choices.map Prod.fst)
    let lifted := a.steps (choices.map Choice.taken)
    lifted.map seen = plain.map seen ∧
      plain.map (·.2.2.anomalies) =
        List.zipWith (fun choice step => choice.spared a.sink ++ step.2.2.anomalies) choices lifted := by
  induction choices generalizing a with
  | nil => exact ⟨rfl, rfl⟩
  | cons choice rest ih =>
    have now := choice.seen_taken newest
    have after : (a.perform choice.taken).2.1 = (a.perform choice.1).2.1 := congrArg (·.2.1) now
    -- both runs go on from one adapter, which has the revision and the sink of this one
    obtain ⟨later, anomalies⟩ := ih (perform_newest newest choice.1)
    rw [perform_sink] at anomalies
    simp only [steps_cons, List.map_cons, List.zipWith_cons_cons, after]
    constructor
    · rw [now, later]
    · rw [choice.anomalies_taken newest, anomalies]

/-- A match at a distance that has no millimeters and an update, both of them lifted, and a confirmation
that is not. -/
theorem older_shapes_simulate_newest_beyond_millimeters :
    let a := new .latest .recording
    let peer : Encounter := ⟨1, 7, .zero, some [3], none, false, false, 40⟩
    let far : Event := .indication (.found (.v1_0 ⟨peer, true, 1, 429496730⟩))
    let update : Event := .indication (.scheduleUpdate ⟨.zero, [4, 9]⟩ (.v1_2 (some [⟨5180, 2, 2⟩])))
    let confirm : Event := .indication (.dataPathConfirm ⟨4, true, .zero, none, ⟨.success, ""⟩⟩ (some (.v1_2 none)))
    let choices := [(.dispatch far, true), (.dispatch update, true), (.dispatch confirm, false), (.lookup 9, false)]
    a.revision = .v1_6 ∧
      far.lift = .indication (.found (.v1_6 ⟨peer, 0, true, 1, 4294967295, some []⟩)) ∧
      (a.steps (choices.map Choice.taken)).map seen = (a.steps (choices.map Prod.fst)).map seen ∧
      (a.steps (choices.map Choice.taken)).map (·.2.2.anomalies) =
        [[], [], [.supersededShape confirm.callback .v1_2 .v1_6], []] ∧
      (a.steps (choices.map Prod.fst)).map (·.2.2.anomalies) =
        [[.supersededShape far.callback .v1_0 .v1_6], [.supersededShape update.callback .v1_2 .v1_6],
          [.supersededShape confirm.callback .v1_2 .v1_6], []] := by
  intro a peer far update confirm choices
  obtain ⟨seen, anomalies⟩ := older_shapes_simulate_newest (a := a) rfl choices
  refine ⟨rfl, rfl, seen, ?_, ?_⟩
  · decide +kernel
  · rw [anomalies]
    decide +kernel

end Adapter

end NanAdapter
