import NanAdapter.Config
import NanAdapter.Proofs.Effects
import NanAdapter.Proofs.History

/-! The channels of a path are what the last operation said that said anything about them. Which
operations do depends on the shapes that were accepted when their turn came. -/

namespace NanAdapter

/-- What a change leaves of the entry of a path, if it touches it: channels, or no entry. -/
def ChannelCache.Change.leaves (path : UInt32) : Change → Option (Option (List Channel))
  | .put changed channels => if changed = path then some (some channels) else none
  | .update changed channels => if changed = path then some channels else none
  | .remove changed => if changed = path then some none else none
  | .clear => some none

/-- What an accepted event leaves of the entry of a path, if it touches it. A confirmation in the
first shape never does. -/
def Event.leaves (path : UInt32) : Event → Option (Option (List Channel))
  | .indication (.disabled _) => some none
  | .indication (.dataPathConfirm result (some report)) =>
    if result.path = path then some report.channels? else none
  | .indication (.dataPathTerminated ended) => if ended = path then some none else none
  | .indication (.scheduleUpdate update report) => if path ∈ update.paths then some report.channels? else none
  | _ => none

/-- What an operation leaves of the entry of a path, if it touches it. -/
def Operation.leaves (met : Adapter) (path : UInt32) : Operation → Option (Option (List Channel))
  | .dispatch event => if (met.dispatch event).1 = .processed then event.leaves path else none
  | .resetChannels => some none
  | .change asked => asked.leaves path
  | _ => none

private theorem getLast?_filterMap_cons (write : α → Option β) (first : α) (rest : List α) (before : β) :
    ((first :: rest).filterMap write).getLast?.getD before =
      (rest.filterMap write).getLast?.getD ((write first).getD before) := by
  rw [List.filterMap_cons]
  cases write first with
  | none => rfl
  | some entry => rw [List.getLast?_cons]; rfl

namespace ChannelCache
variable (c : ChannelCache) (path : UInt32)

private theorem number_eq_iff (first second : UInt32) : number first = number second ↔ first = second :=
  ⟨Numbered.number_injective, congrArg number⟩

theorem get?_change (change : Change) :
    (c.change change).get? path = (change.leaves path).getD (c.get? path) := by
  have replaced (changed : UInt32) (channels : List Channel) :
      (c.insert changed channels).get? path =
        (if changed = path then some (some channels) else none).getD (c.get? path) := by
    rw [Table.get?_insert]
    simp only [number_eq_iff, eq_comm (a := path)]
    split <;> rfl
  have erased (changed : UInt32) :
      (c.erase changed).get? path = (if changed = path then some none else none).getD (c.get? path) := by
    rw [Table.get?_erase]
    simp only [number_eq_iff, eq_comm (a := path)]
    split <;> rfl
  cases change with
  | put changed channels => exact replaced changed channels
  | update changed channels =>
    cases channels with
    | none => exact erased changed
    | some channels => exact replaced changed channels
  | remove changed => exact erased changed
  | clear => rfl

theorem get?_foldl_change (changes : List Change) :
    (changes.foldl change c).get? path =
      (changes.filterMap (Change.leaves path)).getLast?.getD (c.get? path) := by
  induction changes generalizing c with
  | nil => rfl
  | cons first rest ih => rw [List.foldl_cons, ih, get?_change, getLast?_filterMap_cons]

end ChannelCache

theorem Event.getLast?_changes (path : UInt32) (e : Event) :
    (e.changes.filterMap (ChannelCache.Change.leaves path)).getLast? = e.leaves path := by
  have updates (paths : List UInt32) (channels : Option (List Channel)) :
      ((paths.map (ChannelCache.Change.update · channels)).filterMap (ChannelCache.Change.leaves path)).getLast? =
        if path ∈ paths then some channels else none := by
    -- however often the path is named, the same is left there
    induction paths with
    | nil => rfl
    | cons first rest ih =>
      rw [List.map_cons, List.filterMap_cons]
      by_cases here : first = path
      · simp only [ChannelCache.Change.leaves, here, if_true, List.getLast?_cons] at ih ⊢
        rw [ih]
        by_cases again : path ∈ rest <;> simp [again]
      · have elsewhere : path ≠ first := Ne.symm here
        simp only [ChannelCache.Change.leaves, here, if_false, ih, List.mem_cons, elsewhere, false_or]
  cases e with
  | response _ _ _ => rfl
  | indication notice =>
    cases notice with
    | scheduleUpdate update report => exact updates update.paths report.channels?
    | dataPathConfirm result report =>
      cases report with
      | none => rfl
      | some report =>
        by_cases here : result.path = path <;> simp [Event.leaves, Event.changes, ChannelCache.Change.leaves, here]
    | dataPathTerminated ended =>
      by_cases here : ended = path <;> simp [Event.leaves, Event.changes, ChannelCache.Change.leaves, here]
    | cluster _ | disabled _ | publishTerminated _ _ | subscribeTerminated _ _ | found _ | expired _ _
    | followUpReceived _ | followUpTransmitted _ _ | dataPathRequest _ => rfl

namespace Adapter
variable (path : UInt32)

theorem get?_perform (met : Adapter) (operation : Operation) :
    (met.perform operation).2.1.channels.get? path = (operation.leaves met path).getD (met.channels.get? path) := by
  cases operation with
  | dispatch event =>
    change (met.dispatch event).2.1.channels.get? path = _
    rw [dispatch_channels]
    by_cases accepted : (met.dispatch event).1 = .processed
    · simp only [accepted, if_true, Operation.leaves, ChannelCache.get?_foldl_change, Event.getLast?_changes]
    · simp only [accepted, if_false, Operation.leaves, Option.getD_none]
  | command arguments outLimit errLimit =>
    change (met.onCommand arguments _ _).2.1.channels.get? path = _
    rw [onCommand_adapter]
    cases Command.ofArguments arguments with
    | error _ => rfl
    | ok command => exact congrArg (·.get? path) (met.answer_channels command)
  | execute command outLimit => exact congrArg (·.get? path) (met.answer_channels command)
  | change change => exact ChannelCache.get?_change met.channels path change
  | upgrade _ | setVerbose _ | resetChannels | clearCounters | drainCounters | count _ | help _ | dump _
  | lookup _ => rfl

/-- What the operations of a run leave of the entry of a path, one after the other. -/
def writes (a : Adapter) (operations : List Operation) : List (Option (List Channel)) :=
  (a.history operations).filterMap fun step => step.2.leaves step.1 path

end Adapter

end NanAdapter
