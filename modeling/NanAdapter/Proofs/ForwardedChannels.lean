import NanAdapter.Proofs.ChannelHistory
import NanAdapter.Proofs.Forwarding

/-! What the session manager hears about the channels of a path, and what is remembered of them when it has
heard it. The two agree for every event that reports channels, also if it reports that there are none. A
confirmation in the first shape reports nothing, so what was known before it stays known. -/

namespace NanAdapter

/-- The paths whose channels an event is about, and what it reports of them. -/
def Event.allocation? : Event → Option (List UInt32 × Option ChannelReport)
  | .indication (.dataPathConfirm result report) => some ([result.path], report)
  | .indication (.scheduleUpdate update report) => some (update.paths, some report)
  | _ => none

/-- What a notification says of the channels of a path, if it is about them. -/
def Notification.allocation? (path : UInt32) : Notification → Option (Option (List Channel))
  | .dataPathConfirm outcome => if outcome.path = path then some outcome.channels else none
  | .scheduleUpdate _ updated channels => if updated = path then some channels else none
  | _ => none

namespace Event
variable {e : Event} {paths : List UInt32} {report : Option ChannelReport} (path : UInt32)

/-- A path is heard of as often as it is named, each time with the same channels. -/
theorem filterMap_announcements (about : e.allocation? = some (paths, report)) :
    e.announcements.filterMap (Notification.allocation? path) =
      List.replicate (paths.count path) (report.bind ChannelReport.channels?) := by
  unfold allocation? at about
  split at about
  next result report =>
    cases about
    have told : (Event.indication (.dataPathConfirm result report)).announcements =
        [.dataPathConfirm ⟨result.path, result.address, result.accepted, result.status.code, result.appInfo,
          report.bind ChannelReport.channels?⟩] := by
      cases report with
      | none => rfl
      | some report => rfl
    rw [told]
    by_cases here : result.path = path
    · simp [Notification.allocation?, here]
    · simp [Notification.allocation?, here]
  next update report =>
    cases about
    rw [announcements_update]
    induction update.paths with
    | nil => rfl
    | cons first rest ih =>
      by_cases here : first = path
      · simp [Notification.allocation?, here, ih, List.replicate_succ]
      · simp [Notification.allocation?, here, ih]
  next => cases about

theorem leaves_of_named {path : UInt32} (about : e.allocation? = some (paths, report)) (named : path ∈ paths) :
    e.leaves path = report.map ChannelReport.channels? := by
  unfold allocation? at about
  split at about
  next result report =>
    cases about
    have here : result.path = path := (List.mem_singleton.mp named).symm
    cases report with
    | none => rfl
    | some report => exact if_pos here
  next update report =>
    cases about
    exact if_pos named
  next => cases about

end Event

namespace Adapter

/-- What the session manager hears of the channels of a path while an event is dispatched. -/
def heard (a : Adapter) (e : Event) (path : UInt32) : List (Option (List Channel)) :=
  (a.dispatch e).2.2.notifications.filterMap (Notification.allocation? path)

theorem heard_eq {a : Adapter} {e : Event} {paths : List UInt32} {report : Option ChannelReport}
    (about : e.allocation? = some (paths, report)) (accepted : (a.dispatch e).1 = .processed) (path : UInt32) :
    a.heard e path = List.replicate (paths.count path) (report.bind ChannelReport.channels?) := by
  rw [heard, dispatch_notifications, if_pos accepted]
  exact Event.filterMap_announcements path about

/-- Whatever came before, once an accepted event has reported the channels of a path, what is remembered of
them is what was just forwarded, and nothing is remembered if no channels were. A confirmation that reports
nothing is forwarded without channels, and leaves what is remembered as it was. -/
theorem remembered_channels_are_forwarded (config : Config) (sink : AnomalySink) (operations : List Operation)
    (e : Event) (paths : List UInt32) (report : Option ChannelReport) (about : e.allocation? = some (paths, report)) :
    let a := ((new config sink).performAll operations).1
    (a.dispatch e).1 = .processed → ∀ path ∈ paths,
      (a.heard e path).length = paths.count path ∧ a.heard e path ≠ [] ∧
        ∀ told ∈ a.heard e path,
          if report.isSome then (a.dispatch e).2.1.channels.get? path = told
          else told = none ∧ (a.dispatch e).2.1.channels.get? path = a.channels.get? path := by
  intro a accepted path named
  have often : 0 < paths.count path := List.count_pos_iff.mpr named
  have cached : (a.dispatch e).2.1.channels.get? path =
      (report.map ChannelReport.channels?).getD (a.channels.get? path) := by
    have left := get?_perform path a (.dispatch e)
    rw [Operation.leaves, if_pos accepted, Event.leaves_of_named about named] at left
    exact left
  rw [heard_eq about accepted]
  refine ⟨List.length_replicate, ?_, ?_⟩
  · intro silent
    rw [List.replicate_eq_nil_iff] at silent
    omega
  · intro told member
    obtain ⟨-, rfl⟩ := List.mem_replicate.mp member
    cases report with
    | none => exact ⟨rfl, cached⟩
    | some report => exact cached

/-- The peer of two paths, one of them named twice, has no channels for them any more. -/
theorem remembered_channels_are_given_up :
    let update : Event := .indication (.scheduleUpdate ⟨.zero, [4, 9, 4]⟩ (.v1_6 none))
    let a := ((new .latest .recording).performAll [.change (.put 4 [⟨5180, .mhz80, 2⟩])]).1
    a.channels.get? 4 = some [⟨5180, .mhz80, 2⟩] ∧ a.heard update 4 = [none, none] ∧
      (a.dispatch update).2.1.channels.get? 4 = none := by
  intro update a
  have told : a.heard update 4 = [none, none] := rfl
  obtain ⟨-, -, agree⟩ := remembered_channels_are_forwarded .latest .recording [.change (.put 4 [⟨5180, .mhz80, 2⟩])]
    update [4, 9, 4] (some (.v1_6 none)) rfl rfl 4 (by decide)
  exact ⟨rfl, told, agree none (told ▸ List.mem_cons_self)⟩

/-- A path that was confirmed with a channel is confirmed again in the first shape. The session manager hears
of no channels, and the old one is still remembered; so it is if the channel was put there by hand, before the
shape became an old one. -/
theorem first_shape_leaves_older_channels :
    let result : DataPathResult := ⟨4, true, .zero, none, ⟨.success, ""⟩⟩
    let reported : Event := .indication (.dataPathConfirm result (some (.v1_2 (some [⟨5180, 2, 2⟩]))))
    let legacy : Event := .indication (.dataPathConfirm result none)
    let a := ((new { Config.default with revision := .v1_2 } .recording).performAll [.dispatch reported]).1
    let b := ((new .default .recording).performAll [.change (.put 4 [⟨5180, .mhz80, 2⟩])]).1
    ((a.dispatch legacy).1 = .processed ∧ a.heard legacy 4 = [none] ∧
        (a.dispatch legacy).2.1.channels.get? 4 = some [⟨5180, .mhz80, 2⟩]) ∧
      (b.dispatch legacy).1 = .processed ∧ b.heard legacy 4 = [none] ∧
        (b.dispatch legacy).2.1.channels.get? 4 = some [⟨5180, .mhz80, 2⟩] := by
  decide +kernel

end Adapter

end NanAdapter
