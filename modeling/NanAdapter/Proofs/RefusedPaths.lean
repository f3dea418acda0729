import NanAdapter.Proofs.ForwardedChannels

/-! What is remembered of a path that was refused. A confirmation is remembered whether it accepts the path or
refuses it, and a path that was refused never ends. So its channels stay until everything is given up at once. -/

namespace NanAdapter

/-- The event confirms the path, or it updates the schedule of the path. -/
def Event.Names (e : Event) (path : UInt32) : Prop :=
  ∃ paths report, e.allocation? = some (paths, report) ∧ path ∈ paths

/-- The operation says what the channels of the path are, if it is accepted. -/
def Operation.Reports (met : Adapter) (path : UInt32) : Operation → Prop
  | .dispatch e => (met.dispatch e).1 = .processed ∧ e.Names path
  | .change (.put changed _) | .change (.update changed _) => changed = path
  | _ => False

/-- After the event nothing is left of the path: it has ended, or everything has. -/
def Event.releases (path : UInt32) : Event → Bool
  | .indication (.disabled _) => true
  | .indication (.dataPathTerminated ended) => ended = path
  | _ => false

def Operation.releases (path : UInt32) : Operation → Bool
  | .dispatch e => e.releases path
  | .resetChannels | .change .clear => true
  | .change (.remove removed) => removed = path
  | _ => false

namespace Event
variable {e : Event} {path : UInt32}

/-- What ends a path is in the first shape, which is accepted at every revision. -/
theorem outcome_of_releases (released : e.releases path = true) (negotiated : Revision) :
    e.outcome negotiated = .processed := by
  unfold releases at released
  split at released
  · cases negotiated <;> rfl
  · cases negotiated <;> rfl
  · cases released

theorem leaves_of_releases (released : e.releases path = true) : e.leaves path = some none := by
  unfold releases at released
  split at released
  · rfl
  · exact if_pos (of_decide_eq_true released)
  · cases released

theorem leaves_of_silent (unnamed : ¬ e.Names path) (kept : e.releases path = false) : e.leaves path = none := by
  cases e with
  | response _ _ _ => rfl
  | indication notice =>
    cases notice with
    | disabled _ => cases kept
    | dataPathTerminated ended => exact if_neg (of_decide_eq_false kept)
    | dataPathConfirm result report =>
      cases report with
      | none => rfl
      | some report =>
        refine if_neg fun here => unnamed ⟨[result.path], some report, rfl, ?_⟩
        rw [here]
        exact List.mem_singleton_self path
    | scheduleUpdate update report => exact if_neg fun named => unnamed ⟨update.paths, some report, rfl, named⟩
    | cluster _ | publishTerminated _ _ | subscribeTerminated _ _ | found _ | expired _ _ | followUpReceived _
    | followUpTransmitted _ _ | dataPathRequest _ => rfl

end Event

namespace Adapter
variable {path : UInt32}

/-- An operation that does not say anything about a path releases it or leaves it alone. -/
theorem leaves_of_unreported {met : Adapter} {operation : Operation} (silent : ¬ operation.Reports met path) :
    operation.leaves met path = if operation.releases path then some none else none := by
  cases operation with
  | dispatch e =>
    change (if (met.dispatch e).1 = .processed then e.leaves path else none) =
      if e.releases path then some none else none
    cases released : e.releases path with
    | true =>
      have accepted : (met.dispatch e).1 = .processed := Event.outcome_of_releases released met.revision
      rw [if_pos accepted, Event.leaves_of_releases released]
      rfl
    | false =>
      by_cases accepted : (met.dispatch e).1 = .processed
      · rw [if_pos accepted]
        exact Event.leaves_of_silent (fun named => silent ⟨accepted, named⟩) released
      · exact if_neg accepted
  | change asked =>
    cases asked with
    | put changed _ | update changed _ => exact if_neg silent
    | remove removed =>
      change (if removed = path then some none else none) = if decide (removed = path) then some none else none
      simp only [decide_eq_true_eq]
    | clear => rfl
  | resetChannels | upgrade _ | setVerbose _ | clearCounters | drainCounters | count _ | command _ _ _ | execute _ _
  | help _ | dump _ | lookup _ => rfl

/-- While nothing is said about a path its entry stays as it is, until the path is released. -/
theorem get?_performAll_of_unreported {a : Adapter} {operations : List Operation}
    (silent : ∀ step ∈ a.history operations, ¬ step.2.Reports step.1 path) :
    (a.performAll operations).1.channels.get? path =
      if operations.any (Operation.releases path) then none else a.channels.get? path := by
  induction operations generalizing a with
  | nil => rfl
  | cons operation rest ih =>
    obtain ⟨first, later⟩ := List.forall_mem_cons.mp silent
    have entry := get?_perform path a operation
    rw [leaves_of_unreported first] at entry
    refine (ih later).trans ?_
    rw [entry, List.any_cons]
    cases operation.releases path with
    | true => cases rest.any (Operation.releases path) <;> rfl
    | false => rfl

/-- The adapter that an event leaves is decided by what the event is, what it counts and what it stores. -/
theorem dispatch_adapter_congr (a : Adapter) {e other : Event} (revision : e.revision = other.revision)
    (kind : e.kind = other.kind) (changes : e.changes = other.changes) :
    (a.dispatch e).2.1 = (a.dispatch other).2.1 := by
  have outcome : (a.dispatch e).1 = (a.dispatch other).1 := by
    simp only [dispatch, Event.outcome, revision, kind]
  have counters : (a.dispatch e).2.1.counters = (a.dispatch other).2.1.counters := by
    rw [dispatch_counters, dispatch_counters, outcome, kind]
  have channels : (a.dispatch e).2.1.channels = (a.dispatch other).2.1.channels := by
    rw [dispatch_channels, dispatch_channels, outcome, changes]
  calc (a.dispatch e).2.1
      = { a with counters := (a.dispatch e).2.1.counters, channels := (a.dispatch e).2.1.channels } := a.run_keeps _
    _ = { a with counters := (a.dispatch other).2.1.counters, channels := (a.dispatch other).2.1.channels } := by
      rw [counters, channels]
    _ = (a.dispatch other).2.1 := (a.run_keeps _).symm

/-- Nobody looks whether a confirmation accepts the path. After the last one, refused or not, the entry of the path
is gone if the path was released since then, or if the confirmation said that there are no channels, or if it said
nothing and nothing was known before. Otherwise what was said, or known before, is still there. -/
theorem refused_paths_are_remembered (a : Adapter) (result : DataPathResult) (report : Option ChannelReport)
    (later : List Operation) :
    let confirmed := Event.indication (.dataPathConfirm result report)
    let left := (a.performAll (.dispatch confirmed :: later)).1.channels.get? result.path
    let told := (report.map ChannelReport.channels?).getD (a.channels.get? result.path)
    (a.dispatch confirmed).1 = .processed →
    (∀ step ∈ (a.dispatch confirmed).2.1.history later, ¬ step.2.Reports step.1 result.path) →
      left = (if later.any (Operation.releases result.path) then none else told) ∧
        (left = none ↔ later.any (Operation.releases result.path) = true ∨ told = none) ∧
        ∀ flag, (a.performAll
            (.dispatch (.indication (.dataPathConfirm { result with accepted := flag } report)) :: later)).1 =
          (a.performAll (.dispatch confirmed :: later)).1 := by
  intro confirmed left told accepted last
  have about : confirmed.allocation? = some ([result.path], report) := rfl
  have said : (a.dispatch confirmed).2.1.channels.get? result.path = told := by
    have entry := get?_perform result.path a (.dispatch confirmed)
    rw [Operation.leaves, if_pos accepted, Event.leaves_of_named about (List.mem_singleton_self _)] at entry
    exact entry
  have kept : left = if later.any (Operation.releases result.path) then none else told :=
    said ▸ get?_performAll_of_unreported last
  refine ⟨kept, ?_, fun flag => ?_⟩
  · rw [kept]
    cases later.any (Operation.releases result.path) with
    | true => exact iff_of_true rfl (.inl rfl)
    | false => simp
  · let flagged := Event.indication (.dataPathConfirm { result with accepted := flag } report)
    have same : (a.dispatch flagged).2.1 = (a.dispatch confirmed).2.1 :=
      a.dispatch_adapter_congr (by cases report <;> rfl) rfl (by cases report <;> rfl)
    exact congrArg (fun next => (performAll next later).1) same

/-- The refusal says that there are no channels any more, and another path ends before the HAL becomes a newer one. -/
theorem refused_paths_are_remembered_until_denied :
    let result : DataPathResult := ⟨4, true, .zero, none, .success⟩
    let refusal : DataPathResult := { result with accepted := false, status := .ofCode ⟨1⟩ }
    let a := ((new { Config.default with revision := .v1_2 } .recording).performAll
      [.dispatch (.indication (.dataPathConfirm result (some (.v1_2 (some [⟨5180, 2, 2⟩])))))]).1
    let denied := Event.indication (.dataPathConfirm refusal (some (.v1_2 none)))
    let later : List Operation := [.dispatch (.indication (.dataPathTerminated 9)), .upgrade .v1_6]
    a.channels.get? 4 = some [⟨5180, .mhz80, 2⟩] ∧ (a.dispatch denied).1 = .processed ∧
      (∀ step ∈ (a.dispatch denied).2.1.history later, ¬ step.2.Reports step.1 4) ∧
      (a.performAll (.dispatch denied :: later)).1.channels.get? 4 = none := by
  intro result refusal a denied later
  have accepted : (a.dispatch denied).1 = .processed := by decide +kernel
  have last : ∀ step ∈ (a.dispatch denied).2.1.history later, ¬ step.2.Reports step.1 4 := by
    simp [later, history, Operation.Reports, Event.Names, Event.allocation?]
  have before : a.channels.get? 4 = some [⟨5180, .mhz80, 2⟩] := by decide +kernel
  have path : refusal.path = 4 := rfl
  have event : denied = .indication (.dataPathConfirm refusal (some (.v1_2 none))) := rfl
  obtain ⟨-, gone, -⟩ := refused_paths_are_remembered a refusal (some (.v1_2 none)) later accepted last
  rw [path, ← event] at gone
  exact ⟨before, accepted, last, gone.mpr (.inr rfl)⟩

/-- A path is refused with a channel, and the channel is shown; so it is if the path was confirmed with the channel
before it was refused in the first shape. -/
theorem refused_path_is_shown :
    let refusal : DataPathResult := ⟨4, false, .zero, none, .ofCode ⟨1⟩⟩
    let given : Option ChannelReport := some (.v1_2 (some [⟨5180, 2, 2⟩]))
    let confirm (result : DataPathResult) (report : Option ChannelReport) : Operation :=
      .dispatch (.indication (.dataPathConfirm result report))
    let a := new { Config.default with revision := .v1_2 } .recording
    (a.performAll [confirm refusal given]).1.channels.get? 4 = some [⟨5180, .mhz80, 2⟩] ∧
      (a.performAll [confirm { refusal with accepted := true, status := .success } given,
        confirm refusal none]).1.channels.get? 4 = some [⟨5180, .mhz80, 2⟩] := by
  decide +kernel

end Adapter

end NanAdapter
