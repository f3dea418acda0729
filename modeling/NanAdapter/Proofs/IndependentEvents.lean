import Mathlib
import NanAdapter.Proofs.ChannelHistory
import NanAdapter.Proofs.CounterHistory
import NanAdapter.Proofs.Forwarding
import NanAdapter.Replay.Basic

/-! Events about different data paths commute. What is kept for a path, and what is told about it, follows
from the events that name the path, in their order, so it does not matter what comes between them. -/

namespace NanAdapter

/-- The paths that an event confirms, ends or schedules anew. -/
def Event.paths : Event → List UInt32
  | .indication (.dataPathConfirm result _) => [result.path]
  | .indication (.dataPathTerminated path) => [path]
  | .indication (.scheduleUpdate update _) => update.paths
  | _ => []

/-- Whether a notification is about the confirmation, the end or the schedule of a path. -/
def Notification.concerns (path : UInt32) : Notification → Bool
  | .dataPathConfirm outcome => outcome.path = path
  | .dataPathEnd ended => ended = path
  | .scheduleUpdate _ updated _ => updated = path
  | _ => false

/-- The events name no path in common, and none of them clears all channels. -/
structure Event.Independent (first second : Event) : Prop where
  apart : ∀ path ∈ first.paths, path ∉ second.paths
  first_local : first.kind ≠ .indication .disabled
  second_local : second.kind ≠ .indication .disabled

/-- Two neighbours that are independent have changed places. -/
inductive Swapped : List Event → List Event → Prop where
  | swap (before after : List Event) {first second : Event} (independent : first.Independent second) :
    Swapped (before ++ first :: second :: after) (before ++ second :: first :: after)

/-- The events are the same, in an order that differs by any number of swaps. -/
abbrev Reordered : List Event → List Event → Prop := Relation.ReflTransGen Swapped

theorem Tally.ofOutcomes_perm {outcomes others : List Outcome} (perm : outcomes.Perm others) :
    ofOutcomes outcomes = ofOutcomes others := by
  unfold ofOutcomes
  rw [perm.count_eq, perm.count_eq]

namespace Reordered
variable {events others : List Event}

theorem perm (reordered : Reordered events others) : events.Perm others := by
  induction reordered with
  | refl => exact .refl events
  | tail _ swapped ih =>
    cases swapped with
    | swap before after independent => exact ih.trans ((List.Perm.swap ..).append_left before)

/-- Whatever at most one of two independent events contributes to is contributed in the same order. -/
theorem flatMap_eq {contribution : Event → List α}
    (single : ∀ {first second}, first.Independent second → contribution first = [] ∨ contribution second = [])
    (reordered : Reordered events others) : events.flatMap contribution = others.flatMap contribution := by
  induction reordered with
  | refl => rfl
  | tail _ swapped ih =>
    rw [ih]
    cases swapped with
    | swap before after independent =>
      simp only [List.flatMap_append, List.flatMap_cons]
      rcases single independent with silent | silent
      · rw [silent, List.nil_append, List.nil_append]
      · rw [silent, List.nil_append, List.nil_append]

end Reordered

theorem Counters.increment_comm (c : Counters) (first second : IndicationKind) :
    (c.increment first).increment second = (c.increment second).increment first := by
  apply Table.ext_get?
  intro kind
  have counted (c : Counters) (earlier later : IndicationKind) :
      (c.increment earlier).count later = if later = earlier then c.count later + 1 else c.count later := by
    unfold count
    rw [get?_increment]
    split
    next same => rw [same]; rfl
    next => rfl
  simp only [get?_increment, counted]
  by_cases here : kind = first <;> by_cases there : kind = second <;> simp_all

instance : RightCommutative Counters.increment := ⟨Counters.increment_comm⟩

namespace Event
variable (negotiated : Revision) (path : UInt32) (e : Event)

/-- What an event adds to the counters. -/
def counts : List IndicationKind :=
  if e.outcome negotiated = .processed then e.kind.counter?.toList else []

/-- What an event leaves of the entry of a path. -/
def writes : List (Option (List Channel)) :=
  if e.outcome negotiated = .processed then (e.leaves path).toList else []

/-- What the session manager is told of an event. -/
def tells : List Notification := if e.outcome negotiated = .processed then e.announcements else []

/-- Only an event that names the path, or the end of all of them, touches its entry. -/
theorem leaves_eq_none {path : UInt32} {e : Event} (unnamed : path ∉ e.paths)
    (stays : e.kind ≠ .indication .disabled) : e.leaves path = none := by
  cases e with
  | response _ _ _ => rfl
  | indication notice =>
    cases notice with
    | disabled _ => exact absurd rfl stays
    | dataPathConfirm result report =>
      cases report with
      | none => rfl
      | some report => exact if_neg fun same => unnamed (List.mem_singleton.mpr same.symm)
    | dataPathTerminated ended => exact if_neg fun same => unnamed (List.mem_singleton.mpr same.symm)
    | scheduleUpdate update report => exact if_neg unnamed
    | cluster _ | publishTerminated _ _ | subscribeTerminated _ _ | found _ | expired _ _ | followUpReceived _
    | followUpTransmitted _ _ | dataPathRequest _ => rfl

end Event

private theorem Answer.filter_announced (path : UInt32) (id : TransactionId) (status : Status) (answer : Answer) :
    ((answer.effects id status).filterMap Effect.announced?).filter (·.concerns path) = [] := by
  rw [List.filter_filterMap]
  cases answer with
  | disable | createInterface | deleteInterface | respondToDataPath | terminateDataPath =>
    rw [effects, List.filterMap_append, filterMap_warnFailed _ (fun _ => rfl)]
    rfl
  | startPublish session | startSubscribe session =>
    refine (filterMap_sessionStarted _ (fun _ => rfl) id status _ session).trans ?_
    split <;> rfl
  | enable =>
    simp only [effects]
    split
    · rfl
    · split <;> rfl
  | capabilities _ | config | stopPublish | stopSubscribe | transmitFollowUp | initiateDataPath _ =>
    simp only [effects]
    split <;> rfl

/-- Nothing is told about a path that the event does not name. -/
theorem Event.filter_announcements {path : UInt32} {e : Event} (unnamed : path ∉ e.paths) :
    e.announcements.filter (·.concerns path) = [] := by
  cases e with
  | response id status answer => exact answer.filter_announced path id status
  | indication notice =>
    cases notice with
    | cluster report =>
      simp only [announcements, handling, Indication.effects, ClusterReport.effects]
      split <;> rfl
    | followUpTransmitted id status =>
      simp only [announcements, handling, Indication.effects]
      split <;> rfl
    | dataPathConfirm result report =>
      have elsewhere : result.path ≠ path := fun same => unnamed (List.mem_singleton.mpr same.symm)
      cases report with
      | none => exact List.filter_cons_of_neg (by simpa [Notification.concerns] using elsewhere)
      | some report => exact List.filter_cons_of_neg (by simpa [Notification.concerns] using elsewhere)
    | dataPathTerminated ended =>
      have elsewhere : ended ≠ path := fun same => unnamed (List.mem_singleton.mpr same.symm)
      exact List.filter_cons_of_neg (by simpa [Notification.concerns] using elsewhere)
    | scheduleUpdate update report =>
      rw [announcements_update, List.filter_eq_nil_iff]
      intro notification told concerned
      obtain ⟨updated, named, rfl⟩ := List.mem_map.mp told
      have same : updated = path := of_decide_eq_true concerned
      exact unnamed (same ▸ named)
    | disabled _ | publishTerminated _ _ | subscribeTerminated _ _ | found _ | expired _ _ | followUpReceived _
    | dataPathRequest _ => rfl

namespace Event.Independent
variable {first second : Event}

theorem unnamed (independent : first.Independent second) (path : UInt32) :
    path ∉ first.paths ∨ path ∉ second.paths := by
  by_cases named : path ∈ first.paths
  · exact Or.inr (independent.apart path named)
  · exact Or.inl named

/-- At most one of the events has something to say about a path. -/
theorem tells (independent : first.Independent second) (negotiated : Revision) (path : UInt32) :
    (first.tells negotiated).filter (·.concerns path) = [] ∨ (second.tells negotiated).filter (·.concerns path) = [] := by
  have silent {e : Event} (unnamed : path ∉ e.paths) : (e.tells negotiated).filter (·.concerns path) = [] := by
    unfold Event.tells
    split
    next => exact filter_announcements unnamed
    next => rfl
  exact (independent.unnamed path).imp silent silent

theorem writes (independent : first.Independent second) (negotiated : Revision) (path : UInt32) :
    first.writes negotiated path = [] ∨ second.writes negotiated path = [] := by
  have untouched {e : Event} (unnamed : path ∉ e.paths) (stays : e.kind ≠ .indication .disabled) :
      e.writes negotiated path = [] := by
    rw [Event.writes, leaves_eq_none unnamed stays, Option.toList_none, ite_self]
  rcases independent.unnamed path with unnamed | unnamed
  · exact Or.inl (untouched unnamed independent.first_local)
  · exact Or.inr (untouched unnamed independent.second_local)

end Event.Independent

/-! What a replay comes to, event by event. The revision stays what it is, so what an event contributes does
not depend on when its turn comes. -/

namespace Progress
variable (p : Progress) (e : Event) (events : List Event)

theorem revision_dispatch : (p.dispatch e).adapter.revision = p.adapter.revision :=
  congrArg Register.revision (p.adapter.run_register _)

theorem keeps_foldl :
    (events.foldl dispatch p).adapter =
      { p.adapter with
        counters := (events.foldl dispatch p).adapter.counters
        channels := (events.foldl dispatch p).adapter.channels } := by
  induction events generalizing p with
  | nil => rfl
  | cons e rest ih =>
    rw [List.foldl_cons, ih (p.dispatch e)]
    have kept := p.adapter.run_keeps (e.effects p.adapter.revision p.adapter.verbose)
    simp only [dispatch, Adapter.dispatch] at kept ⊢
    rw [kept]

theorem counters_foldl :
    (events.foldl dispatch p).adapter.counters =
      (events.flatMap (Event.counts p.adapter.revision)).foldl Counters.increment p.adapter.counters := by
  induction events generalizing p with
  | nil => rfl
  | cons e rest ih =>
    have now : (p.dispatch e).adapter.counters =
        (e.counts p.adapter.revision).foldl Counters.increment p.adapter.counters := by
      refine (p.adapter.dispatch_counters e).trans ?_
      change (if e.outcome p.adapter.revision = .processed then _ else _) = _
      unfold Event.counts
      split <;> rfl
    rw [List.foldl_cons, ih, revision_dispatch, now, List.flatMap_cons, List.foldl_append]

theorem channels_foldl (path : UInt32) :
    (events.foldl dispatch p).adapter.channels.get? path =
      (events.flatMap (Event.writes p.adapter.revision path)).getLast?.getD (p.adapter.channels.get? path) := by
  induction events generalizing p with
  | nil => rfl
  | cons e rest ih =>
    have left : Operation.leaves p.adapter path (.dispatch e) = (e.writes p.adapter.revision path).getLast? := by
      change (if e.outcome p.adapter.revision = .processed then e.leaves path else none) = _
      unfold Event.writes
      split
      next => cases e.leaves path <;> rfl
      next => rfl
    have now : (p.dispatch e).adapter.channels.get? path =
        (e.writes p.adapter.revision path).getLast?.getD (p.adapter.channels.get? path) :=
      left ▸ p.adapter.get?_perform path (.dispatch e)
    rw [List.foldl_cons, ih, revision_dispatch, now, List.flatMap_cons, List.getLast?_append, Option.getD_or]

theorem outcomes_foldl :
    (events.foldl dispatch p).steps.map (·.1) =
      (events.map (Event.outcome · p.adapter.revision)).reverse ++ p.steps.map (·.1) := by
  induction events generalizing p with
  | nil => rfl
  | cons e rest ih =>
    rw [List.foldl_cons, ih, revision_dispatch, List.map_cons, List.reverse_cons, List.append_assoc]
    rfl

/-- The notifications of the steps taken so far, the first step first. -/
def told : List Notification := p.steps.reverse.flatMap fun step => step.2.notifications

theorem told_foldl :
    (events.foldl dispatch p).told = p.told ++ events.flatMap (Event.tells p.adapter.revision) := by
  induction events generalizing p with
  | nil => exact (List.append_nil _).symm
  | cons e rest ih =>
    have now : (p.dispatch e).told = p.told ++ e.tells p.adapter.revision := by
      have announced := p.adapter.dispatch_notifications e
      simp only [told, dispatch, List.reverse_cons, List.flatMap_append, List.flatMap_singleton, announced]
      rfl
    rw [List.foldl_cons, ih, revision_dispatch, now, List.flatMap_cons, List.append_assoc]

theorem notifications_result : p.result.journal.notifications = p.told := by
  have behind (steps : List (Outcome × Journal)) (later : Journal) :
      (steps.foldl (fun later step => step.2 ++ later) later).notifications =
        (steps.reverse.flatMap fun step => step.2.notifications) ++ later.notifications := by
    induction steps generalizing later with
    | nil => rfl
    | cons step rest ih =>
      rw [List.foldl_cons, ih, Journal.notifications_append, List.reverse_cons, List.flatMap_append,
        List.flatMap_singleton, List.append_assoc]
  exact (behind p.steps .empty).trans (List.append_nil _)

end Progress

namespace Adapter

/-- Replays of the same events, in orders that differ only where the events have nothing to do with each
other, leave the same adapter behind, with the same counters and the same channels. As many events are
processed and as many are dropped. About each path the same is told in the same order. -/
theorem independent_events_commute (a : Adapter) {events others : List Event} (reordered : Reordered events others) :
    (a.replay events).adapter = (a.replay others).adapter ∧ (a.replay events).tally = (a.replay others).tally ∧
      ∀ path : UInt32,
        (a.replay events).journal.notifications.filter (·.concerns path) =
          (a.replay others).journal.notifications.filter (·.concerns path) := by
  let p := Progress.start a
  have counters : (events.foldl Progress.dispatch p).adapter.counters =
      (others.foldl Progress.dispatch p).adapter.counters := by
    rw [Progress.counters_foldl, Progress.counters_foldl]
    exact (reordered.perm.flatMap_right _).foldl_eq _
  have channels : (events.foldl Progress.dispatch p).adapter.channels =
      (others.foldl Progress.dispatch p).adapter.channels := by
    apply Table.ext_get?
    intro path
    rw [Progress.channels_foldl, Progress.channels_foldl,
      reordered.flatMap_eq fun independent => independent.writes p.adapter.revision path]
  refine ⟨?_, ?_, fun path => ?_⟩
  · change (events.foldl Progress.dispatch p).adapter = (others.foldl Progress.dispatch p).adapter
    rw [Progress.keeps_foldl, counters, channels, ← Progress.keeps_foldl]
  · have outcomes : ((events.foldl Progress.dispatch p).steps.map (·.1)).Perm
        ((others.foldl Progress.dispatch p).steps.map (·.1)) := by
      rw [Progress.outcomes_foldl, Progress.outcomes_foldl]
      have taken := reordered.perm.map (Event.outcome · p.adapter.revision)
      exact (((List.reverse_perm _).trans taken).trans (List.reverse_perm _).symm).append_right _
    exact Tally.ofOutcomes_perm outcomes
  · have concerning (sequence : List Event) : (a.replay sequence).journal.notifications.filter (·.concerns path) =
        sequence.flatMap fun e => (e.tells p.adapter.revision).filter (·.concerns path) := by
      rw [replay, Progress.notifications_result, Progress.told_foldl, List.filter_append, List.filter_flatMap]
      rfl
    rw [concerning, concerning, reordered.flatMap_eq fun independent => independent.tells p.adapter.revision path]

/-- The end of a path and a schedule that names two others, one of them twice. -/
theorem independent_events_commute_around_end :
    let a := new .latest .recording
    let ended : Event := .indication (.dataPathTerminated 4)
    let update : Event := .indication (.scheduleUpdate ⟨.zero, [9, 7, 9]⟩ (.v1_6 (some [⟨5180, 2, 2⟩])))
    ended.Independent update ∧
      (a.replay [update, ended, update]).adapter = (a.replay [update, update, ended]).adapter ∧
      ((a.replay [update, ended, update]).journal.notifications.filter (·.concerns 9)).length = 4 := by
  intro a ended update
  have independent : ended.Independent update := ⟨by simp [ended, update, Event.paths], nofun, nofun⟩
  have reordered : Reordered [update, ended, update] [update, update, ended] :=
    .single (.swap [update] [] independent)
  obtain ⟨adapter, -, told⟩ := independent_events_commute a reordered
  refine ⟨independent, adapter, ?_⟩
  rw [told]
  decide +kernel

end Adapter

end NanAdapter
