import NanAdapter.Notification.Schema
import NanAdapter.Proofs.Announcements
import NanAdapter.Proofs.RevisionGate

/-! Every accepted event is forwarded once, in the form that belongs to it, and what it says of codes,
numbers and addresses arrives unchanged. -/

namespace NanAdapter

def Notification.kind (n : Notification) : NotificationKind := n.body.1

/-- The kinds of notification that events of a kind are forwarded as. -/
def EventKind.forms : EventKind → List NotificationKind
  | .response .capabilities => [.capabilitiesUpdate]
  | .response .enable | .response .config => [.configSuccess, .configFailed]
  | .response .disable => [.disableResponse]
  | .response .startPublish | .response .startSubscribe => [.sessionConfigSuccess, .sessionConfigFail]
  | .response .stopPublish | .response .stopSubscribe => []
  | .response .transmitFollowUp => [.messageQueued, .messageNotQueued]
  | .response .createInterface => [.createInterface]
  | .response .deleteInterface => [.deleteInterface]
  | .response .initiateDataPath => [.initiateDataPathSuccess, .initiateDataPathFail]
  | .response .respondToDataPath => [.respondToDataPath]
  | .response .terminateDataPath => [.endDataPath]
  | .indication .cluster => [.addressChange, .clusterChange]
  | .indication .disabled => [.awareDown]
  | .indication .publishTerminated | .indication .subscribeTerminated => [.sessionTerminated]
  | .indication .found => [.found]
  | .indication .expired => [.expired]
  | .indication .followUpReceived => [.messageReceived]
  | .indication .followUpTransmitted => [.messageSent, .messageNotSent]
  | .indication .dataPathRequest => [.dataPathRequest]
  | .indication .dataPathConfirm => [.dataPathConfirm]
  | .indication .dataPathTerminated => [.dataPathEnd]
  | .indication .scheduleUpdate => [.scheduleUpdate]

/-- How often an accepted event is forwarded. -/
def Event.fanOut : Event → Nat
  | .response _ _ .stopPublish | .response _ _ .stopSubscribe => 0
  | .response _ status (.capabilities _) => if status.code.raw = 0 then 1 else 0
  | .indication (.cluster report) => if report.code ≤ 2 then 1 else 0
  | .indication (.scheduleUpdate update _) => update.paths.length
  | _ => 1

/-- Whether a notification is one of success, if its kind tells success from failure. -/
def Notification.success? : Notification → Option Bool
  | .configSuccess _ | .sessionConfigSuccess _ _ _ | .messageQueued _ | .initiateDataPathSuccess _ _
  | .messageSent _ => some true
  | .configFailed _ _ | .sessionConfigFail _ _ _ | .messageNotQueued _ _ | .initiateDataPathFail _ _
  | .messageNotSent _ _ => some false
  | .createInterface _ success _ | .deleteInterface _ success _ | .respondToDataPath _ success _
  | .endDataPath _ success _ => some success
  | _ => none

/-- Whether an event is one of success, if success and failure are forwarded each in a form of its own. To
be enabled already is a success. -/
def Event.success? : Event → Option Bool
  | .response _ _ (.capabilities _) | .response _ _ .disable | .response _ _ .stopPublish
  | .response _ _ .stopSubscribe => none
  | .response _ status .enable => some (status.code.raw = 0 ∨ status.code.raw = 10)
  | .response _ status _ | .indication (.followUpTransmitted _ status) => some (status.code.raw = 0)
  | _ => none

def Notification.change? : Notification → Option ClusterChange
  | .clusterChange change _ => some change
  | _ => none

def Event.change? : Event → Option ClusterChange
  | .indication (.cluster report) =>
    if report.code = 1 then some .started else if report.code = 2 then some .joined else none
  | _ => none

/-- What can be passed through unchanged. -/
structure Particulars where
  transaction : Option TransactionId := none
  session : Option UInt8 := none
  type : Option SessionType := none
  peer : Option UInt32 := none
  paths : List UInt32 := []
  address : Option MacAddress := none
  code : Option StatusCode := none
  accepted : Option Bool := none

/-- Nothing is told that was not known. -/
structure Particulars.Within (told known : Particulars) : Prop where
  transaction : ∀ id ∈ told.transaction, id ∈ known.transaction
  session : ∀ id ∈ told.session, id ∈ known.session
  type : ∀ type ∈ told.type, type ∈ known.type
  peer : ∀ id ∈ told.peer, id ∈ known.peer
  paths : ∀ path ∈ told.paths, path ∈ known.paths
  address : ∀ address ∈ told.address, address ∈ known.address
  code : ∀ code ∈ told.code, code ∈ known.code
  accepted : ∀ flag ∈ told.accepted, flag ∈ known.accepted

namespace Particulars.Within

variable {told known : Particulars}

theorem refl (known : Particulars) : known.Within known := by
  constructor <;> exact fun _ => id

theorem withoutCode (same : told = { known with code := none }) : told.Within known := by
  rw [same]
  exact { refl known with code := by simp }

theorem withoutSession (same : told = { known with session := none }) : told.Within known := by
  rw [same]
  exact { refl known with session := by simp }

theorem withoutPaths (same : told = { known with paths := [] }) : told.Within known := by
  rw [same]
  exact { refl known with paths := by simp }

end Particulars.Within

def Notification.particulars : Notification → Particulars
  | .capabilitiesUpdate id _ | .configSuccess id | .messageQueued id | .messageSent id => { transaction := id }
  | .configFailed id code | .disableResponse id code | .messageNotQueued id code | .createInterface id _ code
  | .deleteInterface id _ code | .initiateDataPathFail id code | .respondToDataPath id _ code | .endDataPath id _ code
  | .messageNotSent id code => { transaction := id, code }
  | .sessionConfigSuccess id type session => { transaction := id, type, session }
  | .sessionConfigFail id type code => { transaction := id, type, code }
  | .initiateDataPathSuccess id path => { transaction := id, paths := [path] }
  | .addressChange address | .clusterChange _ address => { address }
  | .awareDown code => { code }
  | .sessionTerminated session code type => { session, code, type }
  | .found details => { session := details.session, peer := details.peer, address := details.address }
  | .expired session peer => { session, peer }
  | .messageReceived session peer address _ => { session, peer, address }
  | .dataPathRequest session address path _ => { session, address, paths := [path] }
  | .dataPathConfirm outcome =>
    { paths := [outcome.path], address := outcome.address, accepted := outcome.accepted, code := outcome.reason }
  | .dataPathEnd path => { paths := [path] }
  | .scheduleUpdate peer path _ => { address := peer, paths := [path] }

def Answer.particulars (id : TransactionId) (status : Status) : Answer → Particulars
  | .startPublish session => { transaction := id, code := status.code, type := some .publish, session }
  | .startSubscribe session => { transaction := id, code := status.code, type := some .subscribe, session }
  | .initiateDataPath path => { transaction := id, code := status.code, paths := [path] }
  | _ => { transaction := id, code := status.code }

def Indication.particulars : Indication → Particulars
  | .cluster report => { address := report.address }
  | .disabled status => { code := status.code }
  | .publishTerminated session status => { session, code := status.code, type := some .publish }
  | .subscribeTerminated session status => { session, code := status.code, type := some .subscribe }
  | .found (.v1_0 ⟨e, _, _, _⟩) | .found (.v1_6 ⟨e, _, _, _, _, _⟩) =>
    { session := e.session, peer := e.peer, address := e.address }
  | .expired session peer => { session, peer }
  | .followUpReceived m => { session := m.session, peer := m.peer, address := m.address }
  | .followUpTransmitted id status => { transaction := id, code := status.code }
  | .dataPathRequest r => { session := r.session, address := r.address, paths := [r.path] }
  | .dataPathConfirm result _ =>
    { paths := [result.path], address := result.address, accepted := result.accepted, code := result.status.code }
  | .dataPathTerminated path => { paths := [path] }
  | .scheduleUpdate update _ => { address := update.peer, paths := update.paths }

def Event.particulars : Event → Particulars
  | .response id status answer => answer.particulars id status
  | .indication notice => notice.particulars

/-- All that is promised of the calls that an accepted event leads to. -/
structure Forwarded (e : Event) (calls : List Notification) : Prop where
  count : calls.length = e.fanOut
  form : ∀ n ∈ calls, n.kind ∈ e.kind.forms
  success : ∀ n ∈ calls, n.success? = e.success?
  change : ∀ n ∈ calls, n.change? = e.change?
  particulars : ∀ n ∈ calls, n.particulars.Within e.particulars
  /-- One call for each path, in their order, and for a path that is named again once more. -/
  update : ∀ update report, e = .indication (.scheduleUpdate update report) →
    calls = update.paths.map (.scheduleUpdate update.peer · report.channels?)

theorem StatusCode.eq_iff (first second : StatusCode) : first = second ↔ first.raw = second.raw :=
  ⟨congrArg raw, fun same => by cases first; cases second; exact congrArg mk same⟩

theorem Status.isSuccess_eq (status : Status) : status.isSuccess = decide (status.code.raw = 0) :=
  decide_eq_decide.mpr (StatusCode.eq_iff _ _)

namespace Forwarded
variable {e : Event}

theorem silently (none : e.fanOut = 0) (other : (e.kind == .indication .scheduleUpdate) = false) : Forwarded e [] where
  count := none.symm
  form := by simp
  success := by simp
  change := by simp
  particulars := by simp
  update := by
    rintro update report rfl
    exact absurd rfl (ne_of_beq_false other)

theorem once {n : Notification} (one : e.fanOut = 1) (other : (e.kind == .indication .scheduleUpdate) = false)
    (form : n.kind ∈ e.kind.forms) (success : n.success? = e.success?) (change : n.change? = e.change?)
    (particulars : n.particulars.Within e.particulars) : Forwarded e [n] where
  count := one.symm
  form := by simpa using form
  success := by simpa using success
  change := by simpa using change
  particulars := by simpa using particulars
  update := by
    rintro update report rfl
    exact absurd rfl (ne_of_beq_false other)

end Forwarded

theorem ClusterEvent.eq_code_of_ofCode? {code : UInt32} {event : ClusterEvent} (known : ofCode? code = some event) :
    code = event.code := by
  unfold ofCode? at known
  split at known
  all_goals cases known
  all_goals rfl

theorem Event.announcements_update (update : ScheduleUpdate) (report : ChannelReport) :
    (Event.indication (.scheduleUpdate update report)).announcements =
      update.paths.map (.scheduleUpdate update.peer · report.channels?) :=
  (update.announces report).filterMap_announced

private theorem Answer.forwarded (id : TransactionId) (status : Status) (answer : Answer) :
    Forwarded (.response id status answer) (Event.response id status answer).announcements := by
  have quiet := filterMap_warnFailed Effect.announced? (fun _ => rfl)
  have started := filterMap_sessionStarted Effect.announced? (fun _ => rfl) id status
  have succeeds := status.isSuccess_eq
  cases answer with
  | disable =>
    simp only [Event.announcements, Event.handling, effects, List.filterMap_append, quiet]
    exact .once rfl rfl (.head _) rfl rfl (.refl _)
  | createInterface | deleteInterface | respondToDataPath | terminateDataPath =>
    simp only [Event.announcements, Event.handling, effects, List.filterMap_append, quiet]
    exact .once rfl rfl (.head _) (congrArg some succeeds) rfl (.refl _)
  | stopPublish | stopSubscribe =>
    simp only [Event.announcements, Event.handling, effects]
    cases status.isSuccess with
    | true => exact .silently rfl rfl
    | false => exact .silently rfl rfl
  | capabilities report =>
    simp only [Event.announcements, Event.handling, effects]
    cases ok : status.isSuccess with
    | true =>
      have zero : status.code.raw = 0 := of_decide_eq_true (succeeds.symm.trans ok)
      exact .once (if_pos zero) rfl (.head _) rfl rfl (.withoutCode rfl)
    | false =>
      have other : ¬ status.code.raw = 0 := of_decide_eq_false (succeeds.symm.trans ok)
      exact .silently (if_neg other) rfl
  | enable =>
    -- a code of its own says that there was nothing to enable, which is no failure
    have known : status.code = .alreadyEnabled ↔ status.code.raw = 10 := StatusCode.eq_iff _ _
    simp only [Event.announcements, Event.handling, effects]
    split
    next already =>
      refine .once rfl rfl (.head _) ?_ rfl (.withoutCode rfl)
      simp [Notification.success?, Event.success?, known.mp already]
    next other =>
      cases ok : status.isSuccess with
      | true =>
        refine .once rfl rfl (.head _) ?_ rfl (.withoutCode rfl)
        simp [Notification.success?, Event.success?, of_decide_eq_true (succeeds.symm.trans ok)]
      | false =>
        refine .once rfl rfl (.tail _ (.head _)) ?_ rfl (.refl _)
        simp [Notification.success?, Event.success?, of_decide_eq_false (succeeds.symm.trans ok), ← known, other]
  | config | transmitFollowUp | initiateDataPath path =>
    simp only [Event.announcements, Event.handling, effects]
    cases ok : status.isSuccess with
    | true => exact .once rfl rfl (.head _) (congrArg some (ok.symm.trans succeeds)) rfl (.withoutCode rfl)
    | false => exact .once rfl rfl (.tail _ (.head _)) (congrArg some (ok.symm.trans succeeds)) rfl (.withoutPaths rfl)
  | startPublish session | startSubscribe session =>
    simp only [Event.announcements, Event.handling, effects, started]
    cases ok : status.isSuccess with
    | true => exact .once rfl rfl (.head _) (congrArg some (ok.symm.trans succeeds)) rfl (.withoutCode rfl)
    | false => exact .once rfl rfl (.tail _ (.head _)) (congrArg some (ok.symm.trans succeeds)) rfl (.withoutSession rfl)

private theorem Indication.forwarded (notice : Indication) :
    Forwarded (.indication notice) (Event.indication notice).announcements := by
  cases notice with
  | cluster report =>
    obtain ⟨code, address⟩ := report
    simp only [Event.announcements, Event.handling, effects, ClusterReport.effects]
    cases known : ClusterEvent.ofCode? code with
    | none =>
      have above : ¬ code ≤ 2 := UInt32.not_le.mpr ((ClusterEvent.ofCode?_eq_none code).mp known)
      exact .silently (if_neg above) rfl
    | some event =>
      obtain rfl := ClusterEvent.eq_code_of_ofCode? known
      cases event with
      | addressChanged => exact .once rfl rfl (.head _) rfl rfl (.refl _)
      | started | joined => exact .once rfl rfl (.tail _ (.head _)) rfl rfl (.refl _)
  | disabled _ | publishTerminated _ _ | subscribeTerminated _ _ | expired _ _ | followUpReceived _
  | dataPathRequest _ | dataPathTerminated _ => exact .once rfl rfl (.head _) rfl rfl (.refl _)
  | found report =>
    cases report with
    | v1_0 record => exact .once rfl rfl (.head _) rfl rfl (.refl _)
    | v1_6 record => exact .once rfl rfl (.head _) rfl rfl (.refl _)
  | dataPathConfirm result report =>
    cases report with
    | none => exact .once rfl rfl (.head _) rfl rfl (.refl _)
    | some report => exact .once rfl rfl (.head _) rfl rfl (.refl _)
  | followUpTransmitted id status =>
    simp only [Event.announcements, Event.handling, effects]
    cases ok : status.isSuccess with
    | true => exact .once rfl rfl (.head _) (congrArg some (ok.symm.trans status.isSuccess_eq)) rfl (.withoutCode rfl)
    | false =>
      exact .once rfl rfl (.tail _ (.head _)) (congrArg some (ok.symm.trans status.isSuccess_eq)) rfl (.refl _)
  | scheduleUpdate update report =>
    rw [Event.announcements_update]
    refine ⟨List.length_map _, ?_, ?_, ?_, ?_, ?_⟩
    · simp [Event.kind, Indication.kind, EventKind.forms, Notification.kind, Notification.body]
    · simp [Event.success?, Notification.success?]
    · simp [Event.change?, Notification.change?]
    · intro notification told
      obtain ⟨path, named, rfl⟩ := List.mem_map.mp told
      constructor <;> simp [Notification.particulars, Event.particulars, particulars, named]
    · rintro _ _ ⟨⟩
      rfl

namespace Adapter

/-- Whatever the state, an accepted event is forwarded as is promised. Over a run the session manager gets
what the accepted events of the run are forwarded as, one after the other, and nothing else. -/
theorem events_are_forwarded_once (a : Adapter) :
    (∀ e : Event, (a.dispatch e).1 = .processed → Forwarded e (a.dispatch e).2.2.notifications) ∧
      ∀ operations : List Operation,
        (a.performAll operations).2.notifications =
          (a.history operations).flatMap fun step => step.2.forwards step.1 := by
  refine ⟨fun e accepted => ?_, fun operations => ?_⟩
  · rw [dispatch_notifications, if_pos accepted]
    cases e with
    | response id status answer => exact answer.forwarded id status
    | indication notice => exact notice.forwarded
  · rw [Journal.notifications, calls_performAll, List.map_flatMap, steps, List.flatMap_map]
    exact congrArg (List.flatMap · _) (funext fun step => step.1.notifications_perform step.2)

/-- What is enabled already counts as enabled. -/
theorem already_enabled_is_forwarded_once :
    let a := new .default .recording
    let e : Event := .response 7 ⟨.alreadyEnabled, "already on"⟩ .enable
    (a.dispatch e).1 = .processed ∧ Forwarded e (a.dispatch e).2.2.notifications ∧
      (a.dispatch e).2.2.notifications = [.configSuccess 7] :=
  ⟨rfl, (events_are_forwarded_once _).1 _ rfl, rfl⟩

end Adapter

end NanAdapter
