import NanAdapter.Config
import NanAdapter.Proofs.History

/-! An adapter that several threads call at once. An upgrade first stores and then looks at what is stored, an
event is dispatched one effect at a time, and anything may come in between. In whatever order that happens, the
stored revision is the greatest that was asked for, and no upgrade answers with less than it has asked for. -/

namespace NanAdapter

namespace Revision

theorem le_refl (r : Revision) : r ≤ r := UInt8.le_refl _

theorem le_trans {a b c : Revision} (first : a ≤ b) (later : b ≤ c) : a ≤ c := UInt8.le_trans first later

theorem le_max_left (a b : Revision) : a ≤ max a b := by
  cases a <;> cases b <;> decide

theorem le_max_right (a b : Revision) : b ≤ max a b := by
  cases a <;> cases b <;> decide

/-- Codes are in the order of the revisions. -/
theorem code_max (a b : Revision) : (max a b).code = max a.code b.code := by
  cases a <;> cases b <;> rfl

def greatest (first : Revision) (others : List Revision) : Revision := others.foldl max first

theorem code_greatest (first : Revision) (others : List Revision) :
    (greatest first others).code = (others.map code).foldl max first.code := by
  induction others generalizing first with
  | nil => rfl
  | cons other rest ih =>
    rw [List.map_cons, List.foldl_cons, ← code_max]
    exact ih (max first other)

theorem greatest_append (first : Revision) (others more : List Revision) :
    greatest first (others ++ more) = greatest (greatest first others) more :=
  List.foldl_append

theorem le_greatest (first : Revision) (others : List Revision) : first ≤ greatest first others := by
  induction others generalizing first with
  | nil => exact le_refl first
  | cons other rest ih => exact le_trans (le_max_left first other) (ih (max first other))

theorem greatest_take_le (first : Revision) (others : List Revision) (count : Nat) :
    greatest first (others.take count) ≤ greatest first others := by
  have whole := greatest_append first (others.take count) (others.drop count)
  rw [List.take_append_drop] at whole
  rw [whole]
  exact le_greatest _ _

theorem le_greatest_of_mem {first r : Revision} {others : List Revision} (member : r ∈ others) :
    r ≤ greatest first others := by
  obtain ⟨before, after, rfl⟩ := List.append_of_mem member
  have split := greatest_append first before (r :: after)
  rw [split]
  exact le_trans (le_max_right _ r) (le_greatest _ after)

end Revision

theorem Register.le_raise (g : Register) (r : Revision) : g.code ≤ (g.raise r).code := by
  change g.code ≤ if g.code ≤ r.code then r.code else g.code
  split
  next below => exact below
  next => exact UInt8.le_refl _

/-- An upgrade that has stored: what it asks for, the code that it found, and its answer once it is there. -/
structure Upgrade where
  requested : Revision
  found : UInt8
  answer? : Option (Revision × Journal)

namespace Upgrade

def complaint : String := "Ignoring HAL revision downgrade"

/-- Looks at what is stored by now. -/
def finish (u : Upgrade) (current : Revision) : Revision × Journal :=
  (current,
    if u.requested.code < u.found then
      .ofLog ⟨.debug, complaint, [("requested", u.requested.text), ("current", current.text)]⟩
    else .empty)

/-- An upgrade complains of a downgrade and of nothing else. -/
theorem complaint_mem_finish (u : Upgrade) (current : Revision) :
    (∃ entry : LogEntry, entry ∈ (u.finish current).2.logs ∧ entry.message = complaint) ↔
      u.requested.code < u.found := by
  unfold finish
  split
  next lower =>
    refine iff_of_true ?_ lower
    exact ⟨_, List.mem_singleton.mpr rfl, rfl⟩
  next level =>
    refine iff_of_false ?_ level
    rintro ⟨entry, listed, -⟩
    cases listed

end Upgrade

/-- An event that is being dispatched: it has not come to the gate yet, or that much is left to be done. -/
inductive Dispatching where
  | entered (e : Event)
  | passed (outcome : Outcome) (rest : List Effect)

/-- An adapter with the calls that were made, in the order in which they have stored or entered. -/
structure Shared where
  adapter : Adapter
  upgrades : List Upgrade
  dispatches : List Dispatching
  journal : Journal

namespace Shared

inductive Move where
  | store (requested : Revision)
  | load (call : Nat)
  | enter (e : Event)
  | advance (call : Nat)
  /-- Any other operation, which is done at once. -/
  | operate (operation : Operation)

def start (config : Config) (sink : AnomalySink) : Shared := ⟨.new config sink, [], [], .empty⟩

def load? (s : Shared) (call : Nat) : Option Shared :=
  match s.upgrades[call]? with
  | some ⟨requested, found, none⟩ =>
    let answer := Upgrade.finish ⟨requested, found, none⟩ s.adapter.revision
    some { s with
      upgrades := s.upgrades.set call ⟨requested, found, some answer⟩
      journal := s.journal ++ answer.2 }
  | _ => none

def advance? (s : Shared) (call : Nat) : Option Shared :=
  match s.dispatches[call]? with
  | some (.entered e) =>
    let passed := .passed (e.outcome s.adapter.revision) (e.effects s.adapter.revision false)
    some { s with dispatches := s.dispatches.set call passed }
  | some (.passed outcome (effect :: rest)) =>
    let (adapter, journal) := s.adapter.enact effect
    some { s with
      adapter := adapter
      dispatches := s.dispatches.set call (.passed outcome rest)
      journal := s.journal ++ journal }
  | _ => none

def operate? (s : Shared) (operation : Operation) : Option Shared :=
  match operation with
  | .upgrade _ => none
  | operation =>
    let (_, adapter, journal) := s.adapter.perform operation
    some { s with adapter := adapter, journal := s.journal ++ journal }

def move? (s : Shared) : Move → Option Shared
  | .store requested =>
    some { s with
      adapter := { s.adapter with register := s.adapter.register.raise requested }
      upgrades := s.upgrades ++ [⟨requested, s.adapter.register.code, none⟩] }
  | .load call => s.load? call
  | .enter e =>
    some { s with
      dispatches := s.dispatches ++ [.entered e]
      journal := s.journal ++ (s.adapter.run (e.trace s.adapter.verbose)).2 }
  | .advance call => s.advance? call
  | .operate operation => s.operate? operation

/-- What the moves of a schedule lead to, if each of them can be made when its turn comes. -/
def run? : Shared → List Move → Option Shared
  | s, [] => some s
  | s, move :: rest => (s.move? move).bind fun t => t.run? rest

theorem run?_append (s : Shared) (first later : List Move) :
    s.run? (first ++ later) = (s.run? first).bind fun t => t.run? later := by
  induction first generalizing s with
  | nil => rfl
  | cons move rest ih =>
    rw [List.cons_append, run?, run?, Option.bind_assoc]
    exact congrArg _ (funext ih)

/-! What a move can do -/

/-- What a move stores. -/
def Move.stored? : Move → Option Revision
  | .store requested => some requested
  | _ => none

/-- The revisions that upgrades have stored, in their order. -/
def requests (s : Shared) : List Revision := s.upgrades.map Upgrade.requested

/-- What a move does to the upgrades and to the revision that is stored. -/
inductive Moved (s t : Shared) : Move → Prop where
  | store (requested : Revision) (register : t.adapter.register = s.adapter.register.raise requested)
    (upgrades : t.upgrades = s.upgrades ++ [⟨requested, s.adapter.register.code, none⟩]) : Moved s t (.store requested)
  | load (call : Nat) (u : Upgrade) (waiting : s.upgrades[call]? = some u) (unanswered : u.answer? = none)
    (register : t.adapter.register = s.adapter.register)
    (upgrades : t.upgrades = s.upgrades.set call { u with answer? := some (u.finish s.adapter.revision) }) :
    Moved s t (.load call)
  | other {move : Move} (silent : ∀ requested, move ≠ .store requested)
    (register : t.adapter.register = s.adapter.register) (upgrades : t.upgrades = s.upgrades) : Moved s t move

private theorem moved_of_load? {s t : Shared} {call : Nat} (loaded : s.load? call = some t) : Moved s t (.load call) := by
  unfold load? at loaded
  split at loaded
  next requested found waiting =>
    cases loaded
    exact .load call _ waiting rfl rfl rfl
  next => cases loaded

private theorem moved_of_advance? {s t : Shared} {call : Nat} (advanced : s.advance? call = some t) :
    Moved s t (.advance call) := by
  unfold advance? at advanced
  split at advanced
  next =>
    cases advanced
    exact .other nofun rfl rfl
  next outcome effect rest _ =>
    cases advanced
    exact .other nofun (s.adapter.run_register [effect]) rfl
  next => cases advanced

private theorem moved_of_operate? {s t : Shared} {operation : Operation} (operated : s.operate? operation = some t) :
    Moved s t (.operate operation) := by
  unfold operate? at operated
  split at operated
  next => cases operated
  next other =>
    cases operated
    refine .other nofun ?_ rfl
    refine (s.adapter.perform_register operation).trans ?_
    split
    next revision => exact absurd rfl (other revision)
    next => rfl

theorem moved_of_move? {s t : Shared} {move : Move} (made : s.move? move = some t) : Moved s t move := by
  cases move with
  | store requested =>
    cases made
    exact .store requested rfl rfl
  | enter e =>
    cases made
    exact .other nofun rfl rfl
  | load call => exact moved_of_load? made
  | advance call => exact moved_of_advance? made
  | operate operation => exact moved_of_operate? made

theorem requests_getElem? {s : Shared} {call : Nat} {u : Upgrade} (known : s.upgrades[call]? = some u) :
    s.requests[call]? = some u.requested := by
  rw [requests, List.getElem?_map, known]
  rfl

/-- An answer leaves the requests as they are. -/
theorem requests_set {s : Shared} {call : Nat} {u : Upgrade} (known : s.upgrades[call]? = some u)
    (answer? : Option (Revision × Journal)) :
    (s.upgrades.set call { u with answer? := answer? }).map Upgrade.requested = s.requests := by
  obtain ⟨inside, same⟩ := List.getElem?_eq_some_iff.mp (requests_getElem? known)
  rw [List.map_set, ← same]
  exact List.set_getElem_self inside

theorem Move.stored?_eq_none {move : Move} (silent : ∀ requested, move ≠ .store requested) : move.stored? = none := by
  cases move with
  | store requested => exact absurd rfl (silent requested)
  | load _ | enter _ | advance _ | operate _ => rfl

theorem requests_of_move? {s t : Shared} {move : Move} (made : s.move? move = some t) :
    t.requests = s.requests ++ move.stored?.toList := by
  cases moved_of_move? made with
  | store requested register upgrades =>
    rw [requests, upgrades]
    exact List.map_append
  | load call u waiting unanswered register upgrades =>
    rw [requests, upgrades]
    exact (requests_set waiting _).trans (List.append_nil _).symm
  | other silent register upgrades =>
    rw [requests, upgrades, Move.stored?_eq_none silent]
    exact (List.append_nil _).symm

theorem requests_of_run? {s t : Shared} {schedule : List Move} (made : s.run? schedule = some t) :
    t.requests = s.requests ++ schedule.filterMap Move.stored? := by
  induction schedule generalizing s with
  | nil =>
    cases made
    exact (List.append_nil _).symm
  | cons move rest ih =>
    obtain ⟨next, first, made⟩ := Option.bind_eq_some_iff.mp made
    rw [ih made, requests_of_move? first, List.append_assoc, List.filterMap_cons]
    cases move.stored? with
    | none => rfl
    | some requested => rfl

theorem register_of_move? {s t : Shared} {move : Move} (made : s.move? move = some t) :
    t.adapter.register = move.stored?.elim s.adapter.register s.adapter.register.raise := by
  cases moved_of_move? made with
  | store requested register => exact register
  | load call u waiting unanswered register => exact register
  | other silent register =>
    rw [Move.stored?_eq_none silent]
    exact register

theorem code_le_of_move? {s t : Shared} {move : Move} (made : s.move? move = some t) :
    s.adapter.register.code ≤ t.adapter.register.code := by
  rw [register_of_move? made]
  cases move.stored? with
  | none => exact UInt8.le_refl _
  | some requested => exact s.adapter.register.le_raise requested

theorem code_le_of_run? {s t : Shared} {schedule : List Move} (made : s.run? schedule = some t) :
    s.adapter.register.code ≤ t.adapter.register.code := by
  induction schedule generalizing s with
  | nil =>
    cases made
    exact UInt8.le_refl _
  | cons move rest ih =>
    obtain ⟨next, first, made⟩ := Option.bind_eq_some_iff.mp made
    exact UInt8.le_trans (code_le_of_move? first) (ih made)

/-! What holds in every order -/

/-- What is stored by now, and what it was when each upgrade stored and when it was answered. -/
structure Sound (config : Config) (s : Shared) : Prop where
  register : s.adapter.register = .ofRevision (.greatest config.revision s.requests)
  found {call : Nat} {u : Upgrade} (known : s.upgrades[call]? = some u) :
    u.found = (Revision.greatest config.revision (s.requests.take call)).code
  answer {call : Nat} {u : Upgrade} {answer : Revision × Journal} (known : s.upgrades[call]? = some u)
    (answered : u.answer? = some answer) :
    ∃ current, answer = u.finish current ∧ current ≤ s.adapter.revision ∧
      Revision.greatest config.revision (s.requests.take (call + 1)) ≤ current

theorem Sound.revision {config : Config} {s : Shared} (sound : s.Sound config) :
    s.adapter.revision = .greatest config.revision s.requests := by
  rw [Adapter.revision, sound.register, Register.revision_ofRevision]

theorem sound_start (config : Config) (sink : AnomalySink) : (start config sink).Sound config where
  register := rfl
  found known := nomatch known
  answer known := nomatch known

private theorem Sound.store {config : Config} {s t : Shared} (sound : s.Sound config) {requested : Revision}
    (register : t.adapter.register = s.adapter.register.raise requested)
    (upgrades : t.upgrades = s.upgrades ++ [⟨requested, s.adapter.register.code, none⟩]) : t.Sound config := by
  have requests : t.requests = s.requests ++ [requested] := by
    rw [Shared.requests, upgrades]
    exact List.map_append
  have above : s.adapter.revision ≤ t.adapter.revision := by
    rw [sound.revision, Adapter.revision, register, sound.register, Register.raise_ofRevision,
      Register.revision_ofRevision]
    exact Revision.le_max_left _ _
  -- the calls before the new one are numbered as they were
  have before {count : Nat} (small : count ≤ s.upgrades.length) : t.requests.take count = s.requests.take count := by
    rw [requests]
    apply List.take_append_of_le_length
    rwa [Shared.requests, List.length_map]
  refine ⟨?_, ?_, ?_⟩
  · rw [requests, Revision.greatest_append, register, sound.register, Register.raise_ofRevision]
    rfl
  · intro call u known
    rw [upgrades] at known
    by_cases old : call < s.upgrades.length
    · rw [List.getElem?_append_left old] at known
      rw [before (Nat.le_of_lt old)]
      exact sound.found known
    · rw [List.getElem?_append_right (Nat.le_of_not_lt old)] at known
      obtain ⟨newest, rfl⟩ : call = s.upgrades.length ∧ u = ⟨requested, s.adapter.register.code, none⟩ := by
        obtain ⟨inside, same⟩ := List.getElem?_eq_some_iff.mp known
        rw [List.length_singleton] at inside
        refine ⟨by omega, ?_⟩
        rw [← same]
        exact List.mem_singleton.mp (List.getElem_mem _)
      have all : s.requests.take s.upgrades.length = s.requests := by
        apply List.take_of_length_le
        exact Nat.le_of_eq (List.length_map _)
      rw [newest, before (Nat.le_refl _), all]
      exact congrArg Register.code sound.register
  · intro call u answer known answered
    rw [upgrades] at known
    by_cases old : call < s.upgrades.length
    · rw [List.getElem?_append_left old] at known
      obtain ⟨current, same, below, reached⟩ := sound.answer known answered
      rw [before old]
      exact ⟨current, same, Revision.le_trans below above, reached⟩
    · rw [List.getElem?_append_right (Nat.le_of_not_lt old)] at known
      cases List.mem_singleton.mp (List.mem_of_getElem? known)
      cases answered

private theorem Sound.load {config : Config} {s t : Shared} (sound : s.Sound config) {call : Nat} {u : Upgrade}
    (waiting : s.upgrades[call]? = some u) (register : t.adapter.register = s.adapter.register)
    (upgrades : t.upgrades = s.upgrades.set call { u with answer? := some (u.finish s.adapter.revision) }) :
    t.Sound config := by
  have same : t.adapter.revision = s.adapter.revision := congrArg Register.revision register
  have requests : t.requests = s.requests := by
    rw [Shared.requests, upgrades]
    exact requests_set waiting _
  have known_before {other : Nat} {v : Upgrade} (known : t.upgrades[other]? = some v) :
      s.upgrades[other]? = some v ∨ other = call ∧ v = { u with answer? := some (u.finish s.adapter.revision) } := by
    rw [upgrades, List.getElem?_set] at known
    split at known
    next here =>
      split at known
      next =>
        cases known
        exact .inr ⟨here.symm, rfl⟩
      next => cases known
    next => exact .inl known
  refine ⟨?_, ?_, ?_⟩
  · rw [register, requests]
    exact sound.register
  · intro other v known
    rw [requests]
    rcases known_before known with old | ⟨rfl, rfl⟩
    · exact sound.found old
    · change u.found = _
      exact sound.found waiting
  · intro other v answer known answered
    rw [requests, same]
    rcases known_before known with old | ⟨rfl, rfl⟩
    · exact sound.answer old answered
    · cases answered
      refine ⟨s.adapter.revision, rfl, Revision.le_refl _, ?_⟩
      rw [sound.revision]
      exact Revision.greatest_take_le _ _ _

theorem Sound.move {config : Config} {s t : Shared} (sound : s.Sound config) {move : Move} (moved : Moved s t move) :
    t.Sound config := by
  cases moved with
  | store requested register upgrades => exact sound.store register upgrades
  | load call u waiting unanswered register upgrades => exact sound.load waiting register upgrades
  | other silent register upgrades =>
    have same : t.adapter.revision = s.adapter.revision := congrArg Register.revision register
    refine ⟨?_, ?_, ?_⟩
    · rw [register, requests, upgrades]
      exact sound.register
    · intro call u known
      rw [upgrades] at known
      rw [requests, upgrades]
      exact sound.found known
    · intro call u answer known answered
      rw [upgrades] at known
      rw [same, requests, upgrades]
      exact sound.answer known answered

theorem Sound.run {config : Config} {s t : Shared} (sound : s.Sound config) {schedule : List Move}
    (made : s.run? schedule = some t) : t.Sound config := by
  induction schedule generalizing s with
  | nil =>
    cases made
    exact sound
  | cons move rest ih =>
    obtain ⟨next, first, made⟩ := Option.bind_eq_some_iff.mp made
    exact ih (sound.move (moved_of_move? first)) made

/-! Calls that nothing interrupts -/

/-- An upgrade that is answered at once is the upgrade of an adapter that nobody shares. -/
theorem upgrade_alone (s : Shared) (requested : Revision) :
    ∃ t u, s.run? [.store requested, .load s.upgrades.length] = some t ∧
      t.adapter = (s.adapter.upgrade requested).1 ∧ t.journal = s.journal ++ (s.adapter.upgrade requested).2 ∧
      t.upgrades = s.upgrades ++ [u] ∧
      u.answer? = some ((s.adapter.upgrade requested).1.revision, (s.adapter.upgrade requested).2) := by
  let stored : Shared :=
    { s with
      adapter := { s.adapter with register := s.adapter.register.raise requested }
      upgrades := s.upgrades ++ [⟨requested, s.adapter.register.code, none⟩] }
  have waiting : stored.upgrades[s.upgrades.length]? = some ⟨requested, s.adapter.register.code, none⟩ :=
    List.getElem?_concat_length
  have ran : s.run? [.store requested, .load s.upgrades.length] = (stored.load? s.upgrades.length).bind some := rfl
  let answer := Upgrade.finish ⟨requested, s.adapter.register.code, none⟩ stored.adapter.revision
  rw [ran, load?, waiting]
  refine ⟨_, ⟨requested, s.adapter.register.code, some answer⟩, rfl, rfl, rfl, ?_, rfl⟩
  change (s.upgrades ++ [_]).set s.upgrades.length _ = _
  rw [List.set_append_right _ _ (Nat.le_refl _), Nat.sub_self]
  rfl

private theorem advance_all {s : Shared} {call : Nat} {outcome : Outcome} {effects : List Effect}
    (left : s.dispatches[call]? = some (.passed outcome effects)) :
    s.run? (List.replicate effects.length (.advance call)) =
      some { s with
        adapter := (s.adapter.run effects).1
        dispatches := s.dispatches.set call (.passed outcome [])
        journal := s.journal ++ (s.adapter.run effects).2 } := by
  induction effects generalizing s with
  | nil =>
    obtain ⟨inside, same⟩ := List.getElem?_eq_some_iff.mp left
    have unchanged := List.set_getElem_self inside
    rw [same] at unchanged
    change some s = some { s with dispatches := s.dispatches.set call _, journal := s.journal ++ Journal.empty }
    rw [unchanged, Journal.append_empty]
  | cons effect rest ih =>
    let next : Shared :=
      { s with
        adapter := (s.adapter.enact effect).1
        dispatches := s.dispatches.set call (.passed outcome rest)
        journal := s.journal ++ (s.adapter.enact effect).2 }
    have made : s.move? (.advance call) = some next := by
      rw [move?, advance?, left]
    have behind : next.dispatches[call]? = some (.passed outcome rest) := by
      obtain ⟨inside, -⟩ := List.getElem?_eq_some_iff.mp left
      exact List.getElem?_set_self inside
    rw [List.length_cons, List.replicate_succ, run?, made, Option.bind_some, ih behind]
    simp only [next, List.set_set, Journal.append_assoc]
    rfl

/-- An event that is dispatched without a break is dispatched as by an adapter that nobody shares. -/
theorem dispatch_alone (s : Shared) (e : Event) :
    ∃ count t, s.run? (.enter e :: List.replicate count (.advance s.dispatches.length)) = some t ∧
      t.adapter = (s.adapter.dispatch e).2.1 ∧ t.journal = s.journal ++ (s.adapter.dispatch e).2.2 ∧
      t.dispatches = s.dispatches ++ [.passed (s.adapter.dispatch e).1 []] := by
  let call := s.dispatches.length
  let outcome := e.outcome s.adapter.revision
  let effects := e.effects s.adapter.revision false
  let entered : Shared :=
    { s with
      dispatches := s.dispatches ++ [.entered e]
      journal := s.journal ++ (s.adapter.run (e.trace s.adapter.verbose)).2 }
  let passed : Shared := { entered with dispatches := entered.dispatches.set call (.passed outcome effects) }
  have waiting : entered.dispatches[call]? = some (.entered e) := List.getElem?_concat_length
  have gate : entered.move? (.advance call) = some passed := by
    rw [move?, advance?, waiting]
  have left : passed.dispatches[call]? = some (.passed outcome effects) :=
    List.getElem?_set_self (List.getElem?_eq_some_iff.mp waiting).1
  have whole : s.adapter.run (e.effects s.adapter.revision s.adapter.verbose) =
      ((s.adapter.run effects).1, (s.adapter.run (e.trace s.adapter.verbose)).2 ++ (s.adapter.run effects).2) := by
    have untouched : (s.adapter.run (e.trace s.adapter.verbose)).1 = s.adapter := by
      unfold Event.trace
      split <;> rfl
    rw [e.effects_eq_trace, Adapter.run_append, untouched]
  have ran : s.run? (.enter e :: List.replicate (effects.length + 1) (.advance call)) =
      passed.run? (List.replicate effects.length (.advance call)) := by
    change (entered.move? (.advance call)).bind _ = _
    rw [gate]
    rfl
  refine ⟨effects.length + 1, _, ran.trans (advance_all left), ?_, ?_, ?_⟩
  · rw [Adapter.dispatch, whole]
  · rw [Adapter.dispatch, whole, ← Journal.append_assoc]
  · change ((s.dispatches ++ [Dispatching.entered e]).set call _).set call _ = _
    rw [List.set_set, List.set_append_right _ _ (Nat.le_refl _), Nat.sub_self]
    rfl

/-- All that is promised of what is stored, and of the upgrades, after the moves of a schedule. -/
structure Negotiated (config : Config) (sink : AnomalySink) (schedule : List Move) (s : Shared) : Prop where
  /-- The code is that of a revision, so that none has to be assumed for want of one. -/
  valid : Revision.ofCode? s.adapter.register.code = some s.adapter.revision
  requests : s.requests = schedule.filterMap Move.stored?
  greatest : s.adapter.register.code = (s.requests.map Revision.code).foldl max config.revision.code
  rises : ∀ earlier later t, schedule = earlier ++ later → (start config sink).run? earlier = some t →
    t.adapter.register.code ≤ s.adapter.register.code
  /-- Nothing but a store changes what is stored. -/
  keeps : ∀ move t, s.move? move = some t →
    t.adapter.register = move.stored?.elim s.adapter.register s.adapter.register.raise
  found : ∀ (call : Nat) (u : Upgrade), s.upgrades[call]? = some u →
    u.found = ((s.requests.take call).map Revision.code).foldl max config.revision.code
  returns : ∀ (call : Nat) (u : Upgrade), s.upgrades[call]? = some u → u.answer? = none →
    (s.move? (.load call)).isSome
  answers : ∀ (call : Nat) (u : Upgrade) current journal, s.upgrades[call]? = some u →
    u.answer? = some (current, journal) →
    u.requested ≤ current ∧ u.found ≤ current.code ∧ config.revision ≤ current ∧
      (∀ earlier ∈ s.requests.take call, earlier ≤ current) ∧ current ≤ s.adapter.revision
  complains : ∀ (call : Nat) (u : Upgrade) current (journal : Journal), s.upgrades[call]? = some u →
    u.answer? = some (current, journal) →
    ((∃ entry : LogEntry, entry ∈ journal.logs ∧ entry.message = Upgrade.complaint) ↔ u.requested.code < u.found)

theorem Sound.code {config : Config} {s : Shared} (sound : s.Sound config) :
    s.adapter.register.code = (s.requests.map Revision.code).foldl max config.revision.code := by
  rw [sound.register]
  exact Revision.code_greatest config.revision s.requests

theorem load?_isSome {s : Shared} {call : Nat} {u : Upgrade} (known : s.upgrades[call]? = some u)
    (unanswered : u.answer? = none) : (s.load? call).isSome := by
  obtain ⟨requested, found, _⟩ := u
  cases unanswered
  rw [load?, known]
  rfl

/-- The revisions asked for up to a call, the call's own included. -/
private theorem requests_take_succ {s : Shared} {call : Nat} {u : Upgrade} (known : s.upgrades[call]? = some u) :
    s.requests.take (call + 1) = s.requests.take call ++ [u.requested] := by
  rw [List.take_add_one, requests_getElem? known]
  rfl

private theorem Sound.answer_ge {config : Config} {s : Shared} (sound : s.Sound config) {call : Nat} {u : Upgrade}
    {current : Revision} {journal : Journal} (known : s.upgrades[call]? = some u)
    (answered : u.answer? = some (current, journal)) :
    u.requested ≤ current ∧ u.found ≤ current.code ∧ config.revision ≤ current ∧
      (∀ earlier ∈ s.requests.take call, earlier ≤ current) ∧ current ≤ s.adapter.revision := by
  obtain ⟨loaded, same, below, reached⟩ := sound.answer known answered
  obtain rfl : current = loaded := congrArg Prod.fst same
  rw [requests_take_succ known] at reached
  have before : Revision.greatest config.revision (s.requests.take call) ≤ current := by
    rw [Revision.greatest_append] at reached
    exact Revision.le_trans (Revision.le_max_left _ _) reached
  refine ⟨?_, ?_, ?_, ?_, below⟩
  · apply Revision.le_trans _ reached
    exact Revision.le_greatest_of_mem (List.mem_append_right _ (List.mem_singleton.mpr rfl))
  · rw [sound.found known]
    exact before
  · exact Revision.le_trans (Revision.le_greatest _ _) before
  · intro earlier asked
    exact Revision.le_trans (Revision.le_greatest_of_mem asked) before

/-- Whatever comes between the two steps of an upgrade. -/
theorem negotiated_revision_is_greatest (config : Config) (sink : AnomalySink) (schedule : List Move) (s : Shared)
    (ran : (start config sink).run? schedule = some s) : s.Negotiated config sink schedule := by
  have sound := (sound_start config sink).run ran
  refine ⟨?_, ?_, sound.code, ?_, fun _ _ made => register_of_move? made, ?_, ?_, ?_, ?_⟩
  · rw [sound.revision, sound.register]
    exact Revision.ofCode?_code _
  · exact requests_of_run? ran
  · intro earlier later t split reached
    rw [split, run?_append, reached] at ran
    exact code_le_of_run? ran
  · intro call u known
    rw [sound.found known, Revision.code_greatest]
  · intro call u known unanswered
    exact load?_isSome known unanswered
  · intro call u current journal known answered
    exact sound.answer_ge known answered
  · intro call u current journal known answered
    obtain ⟨loaded, same, -⟩ := sound.answer known answered
    obtain rfl : journal = (u.finish loaded).2 := congrArg Prod.snd same
    exact u.complaint_mem_finish loaded

/-- An event comes to the gate between two upgrades that cross, and finds what the greater one has stored. The
lesser one complains, with the greater revision as its answer, though it has stored first. -/
theorem negotiated_revision_of_crossing_upgrades :
    let config : Config := { Config.default with revision := .v1_2 }
    let update : Event := .indication (.scheduleUpdate ⟨.zero, [4]⟩ (.v1_6 none))
    let schedule : List Move :=
      [.store .v1_0, .enter update, .store .v1_6, .advance 0, .load 1, .operate .clearCounters, .load 0]
    ∃ s, (start config .recording).run? schedule = some s ∧ s.adapter.revision = .v1_6 ∧
      s.Negotiated config .recording schedule ∧
      s.journal.logs.map LogEntry.message = [Upgrade.complaint] ∧
      s.upgrades.map (fun u => u.answer?.map Prod.fst) = [some .v1_6, some .v1_6] := by
  intro config update schedule
  exact ⟨_, rfl, rfl, negotiated_revision_is_greatest config .recording schedule _ rfl, rfl, rfl⟩

end Shared
end NanAdapter
