import NanAdapter.Replay.Basic

/-! The pump in every order in which its two ends may move. Whoever moves first, the adapter gets the
events in the order of the trace, each of them once, and no order comes to a halt before the end. -/

namespace NanAdapter

theorem Tally.total_ofOutcomes (outcomes : List Outcome) : (ofOutcomes outcomes).total = outcomes.length := by
  induction outcomes with
  | nil => rfl
  | cons outcome rest ih =>
    simp only [total, ofOutcomes, List.length_cons] at ih ⊢
    cases outcome with
    | processed =>
      rw [List.count_cons_self, List.count_cons_of_ne (by decide)]
      omega
    | dropped =>
      rw [List.count_cons_self, List.count_cons_of_ne (by decide)]
      omega

namespace Progress

theorem length_steps (p : Progress) (events : List Event) :
    (events.foldl dispatch p).steps.length = p.steps.length + events.length := by
  induction events generalizing p with
  | nil => rfl
  | cons e rest ih =>
    have later := ih (p.dispatch e)
    have now : (p.dispatch e).steps.length = p.steps.length + 1 := rfl
    rw [List.foldl_cons, later, now, List.length_cons]
    omega

end Progress

/-- Every event of a replay is either processed or dropped. -/
theorem Adapter.total_replay (a : Adapter) (events : List Event) :
    (a.replay events).tally.total = events.length := by
  have steps := Progress.length_steps (.start a) events
  have none_before : (Progress.start a).steps.length = 0 := rfl
  rw [replay, Progress.result, Tally.total_ofOutcomes, List.length_map, steps, none_before, Nat.zero_add]

namespace Pump

inductive Move where
  | send
  | close
  | receive
  deriving DecidableEq, Repr

def move? (p : Pump) : Move → Option Pump
  | .send => p.send?
  | .close => p.close?
  | .receive => p.receive?

/-- What a move hands to the adapter. -/
def handed (p : Pump) : Move → List Event
  | .send | .close => []
  | .receive => p.queue.take 1

/-- The pump after the moves of a schedule, if each of them can be made when its turn comes. -/
def run? : Pump → List Move → Option Pump
  | p, [] => some p
  | p, move :: rest => (p.move? move).bind fun q => q.run? rest

/-- What the moves of a schedule hand to the adapter, one after the other. -/
def dispatched : Pump → List Move → List Event
  | _, [] => []
  | p, move :: rest => p.handed move ++ (p.move? move).elim [] fun q => q.dispatched rest

/-- What holds of a pump whenever it is at work. -/
structure Sound (p : Pump) : Prop where
  room : 0 < p.capacity
  fits : p.queue.length ≤ p.capacity
  sent : p.closed = true → p.pending = []

/-- What a move does: an event goes on from one place to the next, or the sender leaves. -/
structure Moved (p : Pump) (move : Move) (q : Pump) : Prop where
  capacity : q.capacity = p.capacity
  order : p.handed move ++ (q.queue ++ q.pending) = p.queue ++ p.pending
  progress : q.progress = (p.handed move).foldl Progress.dispatch p.progress
  remaining : q.remaining + 1 = p.remaining
  sound : p.Sound → q.Sound

theorem moved_of_move? {p q : Pump} {move : Move} (made : p.move? move = some q) : Moved p move q := by
  cases move with
  | send =>
    have remaining := remaining_of_send? made
    change p.send? = some q at made
    unfold send? at made
    split at made
    next e rest pending =>
      split at made
      next free =>
        cases made
        refine ⟨rfl, ?_, rfl, remaining, fun sound => ⟨sound.room, ?_, fun closed => ?_⟩⟩
        · simp [handed, pending]
        · rw [List.length_append]
          exact free
        · have nothing := sound.sent closed
          rw [pending] at nothing
          cases nothing
      next => cases made
    next => cases made
  | close =>
    have remaining := remaining_of_close? made
    change p.close? = some q at made
    unfold close? at made
    split at made
    next => cases made
    next pending =>
      split at made
      next => cases made
      next =>
        cases made
        exact ⟨rfl, rfl, rfl, remaining, fun sound => ⟨sound.room, sound.fits, fun _ => pending⟩⟩
  | receive =>
    have remaining := remaining_of_receive? made
    change p.receive? = some q at made
    unfold receive? at made
    split at made
    next e rest queue =>
      cases made
      refine ⟨rfl, ?_, ?_, remaining, fun sound => ⟨sound.room, ?_, sound.sent⟩⟩
      · simp [handed, queue]
      · simp [handed, queue]
      · have fits := sound.fits
        rw [queue, List.length_cons] at fits
        exact Nat.le_of_succ_le fits
    next => cases made

/-- Unless it is finished, one of the two ends of a pump can move. -/
theorem alive {p : Pump} (sound : p.Sound) (going : p.isOver = false) : ∃ move q, p.move? move = some q := by
  cases queue : p.queue with
  | cons e rest => exact ⟨.receive, _, by rw [move?, receive?, queue]⟩
  | nil =>
    cases pending : p.pending with
    | cons e rest =>
      have free : p.queue.length < p.capacity := by simpa [queue] using sound.room
      exact ⟨.send, _, by rw [move?, send?, pending]; exact if_pos free⟩
    | nil =>
      have present : ¬ p.closed = true := by simpa [isOver, queue] using going
      exact ⟨.close, _, by rw [move?, close?, pending]; exact if_neg present⟩

theorem remaining_of_isOver {p : Pump} (sound : p.Sound) (finished : p.isOver = true) : p.remaining = 0 := by
  obtain ⟨closed, waiting⟩ : p.closed = true ∧ p.queue = [] := by simpa [isOver] using finished
  simp [remaining, waiting, sound.sent closed, closed]

theorem isOver_eq_false {p : Pump} (sound : p.Sound) : p.isOver = false ↔ ∃ move q, p.move? move = some q := by
  refine ⟨alive sound, ?_⟩
  intro moving
  obtain ⟨move, q, made⟩ := moving
  cases finished : p.isOver with
  | false => rfl
  | true =>
    have left := (moved_of_move? made).remaining
    rw [remaining_of_isOver sound finished] at left
    cases left

/-- What the moves of a schedule have done. -/
structure Ran (p : Pump) (schedule : List Move) (q : Pump) : Prop where
  order : p.dispatched schedule ++ (q.queue ++ q.pending) = p.queue ++ p.pending
  progress : q.progress = (p.dispatched schedule).foldl Progress.dispatch p.progress
  remaining : schedule.length + q.remaining = p.remaining
  capacity : q.capacity = p.capacity
  sound : p.Sound → q.Sound

theorem ran_of_run? {p q : Pump} {schedule : List Move} (made : p.run? schedule = some q) : Ran p schedule q := by
  induction schedule generalizing p with
  | nil =>
    cases made
    exact ⟨rfl, rfl, Nat.zero_add _, rfl, id⟩
  | cons move rest ih =>
    obtain ⟨next, first, made⟩ := Option.bind_eq_some_iff.mp made
    have now := moved_of_move? first
    have later := ih made
    have whole : p.dispatched (move :: rest) = p.handed move ++ next.dispatched rest := by
      rw [dispatched, first, Option.elim_some]
    constructor
    · rw [whole, List.append_assoc, later.order, now.order]
    · rw [whole, List.foldl_append, later.progress, now.progress]
    · have counted := later.remaining
      have taken := now.remaining
      rw [List.length_cons]
      omega
    · exact later.capacity.trans now.capacity
    · exact later.sound ∘ now.sound

theorem sound_start (config : Config) (a : Adapter) (events : List Event) : (start config a events).Sound where
  room := Nat.lt_of_lt_of_le Nat.zero_lt_one (Nat.le_max_right _ _)
  fits := Nat.zero_le _
  sent := fun closed => nomatch closed

/-- A pump that is left to itself follows one of the schedules, to its end. -/
theorem exists_schedule_finish (p : Pump) (sound : p.Sound) :
    ∃ schedule q, p.run? schedule = some q ∧ q.isOver = true ∧ q.progress = p.finish := by
  have behind {p q : Pump} {move : Move} (made : p.move? move = some q)
      (later : ∃ schedule r, q.run? schedule = some r ∧ r.isOver = true ∧ r.progress = q.finish) :
      ∃ schedule r, p.run? schedule = some r ∧ r.isOver = true ∧ r.progress = q.finish := by
    obtain ⟨schedule, r, ran, finished, reached⟩ := later
    refine ⟨move :: schedule, r, ?_, finished, reached⟩
    rw [run?, made]
    exact ran
  fun_induction finish p with
  | case1 p q received smaller ih =>
    have made : p.move? .receive = some q := received
    exact behind made (ih ((moved_of_move? made).sound sound))
  | case2 p idle q sent smaller ih =>
    have made : p.move? .send = some q := sent
    exact behind made (ih ((moved_of_move? made).sound sound))
  | case3 p idle blocked q left smaller ih =>
    have made : p.move? .close = some q := left
    exact behind made (ih ((moved_of_move? made).sound sound))
  | case4 p idle blocked left =>
    refine ⟨[], p, rfl, ?_, rfl⟩
    cases going : p.isOver with
    | true => rfl
    | false =>
      obtain ⟨move, q, made⟩ := alive sound going
      cases move with
      | send => exact absurd (made.symm.trans blocked) (Option.some_ne_none q)
      | close => exact absurd (made.symm.trans left) (Option.some_ne_none q)
      | receive => exact absurd (made.symm.trans idle) (Option.some_ne_none q)

/-- All that is promised of a pump after the moves of a schedule. -/
structure Orderly (config : Config) (a : Adapter) (events : List Event) (schedule : List Move) (p : Pump) :
    Prop where
  /-- What was dispatched, what waits, and what is still to be sent are the events in their order. -/
  order : (start config a events).dispatched schedule ++ (p.queue ++ p.pending) = events
  fits : p.queue.length ≤ size config
  alive : p.isOver = false ↔ ∃ move q, p.move? move = some q
  bounded : schedule.length ≤ 2 * events.length + 1
  finished : p.isOver = true →
    (start config a events).dispatched schedule = events ∧ p.progress.result = a.replay events ∧
      schedule.length = 2 * events.length + 1

theorem orderly_of_run? {config : Config} {a : Adapter} {events : List Event} {schedule : List Move} {p : Pump}
    (made : (start config a events).run? schedule = some p) : Orderly config a events schedule p := by
  have ran := ran_of_run? made
  have sound := ran.sound (sound_start config a events)
  have order : (start config a events).dispatched schedule ++ (p.queue ++ p.pending) = events := ran.order
  have moves : schedule.length + p.remaining = 2 * events.length + 1 := ran.remaining
  have capacity : p.capacity = size config := ran.capacity
  refine ⟨order, capacity ▸ sound.fits, isOver_eq_false sound, by omega, fun finished => ?_⟩
  obtain ⟨closed, waiting⟩ : p.closed = true ∧ p.queue = [] := by simpa [isOver] using finished
  have sent := sound.sent closed
  have whole : (start config a events).dispatched schedule = events := by
    simpa only [waiting, sent, List.append_nil] using order
  have progress : p.progress = events.foldl Progress.dispatch (.start a) := by
    rw [ran.progress, whole]
    rfl
  refine ⟨whole, by rw [progress]; rfl, ?_⟩
  have still := remaining_of_isOver sound finished
  omega

end Pump

/-- However the two ends of a pump take turns, the events are dispatched in their order, one of the ends
can move until it is over, and then all is as if they had been dispatched where they were. The pump
that is left to itself comes to such an end. -/
theorem pumped_replay_agrees (config : Config) (a : Adapter) (events : List Event) :
    (∀ schedule p, (Pump.start config a events).run? schedule = some p →
        Pump.Orderly config a events schedule p) ∧
      (a.replay events).tally.total = events.length ∧
      (a.replayPumped config events).adapter = (a.replay events).adapter ∧
      (a.replayPumped config events).tally = (a.replay events).tally ∧
      (a.replayPumped config events).journal.calls = (a.replay events).journal.calls ∧
      (a.replayPumped config events).journal.anomalies = (a.replay events).journal.anomalies := by
  refine ⟨fun schedule p => Pump.orderly_of_run?, a.total_replay events, ?_⟩
  obtain ⟨schedule, p, ran, finished, reached⟩ :=
    (Pump.start config a events).exists_schedule_finish (Pump.sound_start config a events)
  obtain ⟨-, result, -⟩ := (Pump.orderly_of_run? ran).finished finished
  have done : (Pump.start config a events).finish.result = a.replay events := by rw [← reached, result]
  rw [Adapter.replayPumped, done]
  refine ⟨rfl, rfl, ?_, ?_⟩
  · simp [Journal.ofLog]
  · simp [Journal.ofLog]

/-- A queue for one event, and a sender that leaves before the last event is taken out. -/
theorem pumped_replay_agrees_at_capacity_zero :
    let config : Config := { Config.default with capacity := 0 }
    let a := Adapter.new config .recording
    let events : List Event := [.indication (.expired 1 7), .indication (.scheduleUpdate ⟨.zero, [4]⟩ (.v1_2 none))]
    let start := Pump.start config a events
    start.run? [.send, .send] = none ∧
      ∃ p, start.run? [.send, .receive, .send, .close, .receive] = some p ∧ p.isOver = true ∧
        p.progress.result = a.replay events ∧ (a.replay events).tally = ⟨1, 1⟩ := by
  intro config a events start
  obtain ⟨p, ran, finished⟩ :
      ∃ p, start.run? [.send, .receive, .send, .close, .receive] = some p ∧ p.isOver = true := ⟨_, rfl, rfl⟩
  have orderly := (pumped_replay_agrees config a events).1 [.send, .receive, .send, .close, .receive] p ran
  refine ⟨rfl, p, ran, finished, (orderly.finished finished).2.1, by decide +kernel⟩

end NanAdapter
