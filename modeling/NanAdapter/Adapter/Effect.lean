import NanAdapter.Anomaly
import NanAdapter.ChannelCache
import NanAdapter.Notification.Basic

/-! What has to be done for an event. It is decided by the event and the negotiated revision alone,
and written down in the order in which it is done. -/

namespace NanAdapter

inductive Effect where
  | count (kind : IndicationKind)
  | store (change : ChannelCache.Change)
  | report (anomaly : Anomaly)
  | notify (notification : Notification)
  | log (entry : LogEntry)
  deriving DecidableEq, Repr

/-- What becomes of an event. -/
inductive Outcome where
  | processed
  | dropped
  deriving DecidableEq, Repr

def Outcome.name : Outcome → String
  | .processed => "Processed"
  | .dropped => "Dropped"

/-- A request that failed, with what else there is to say about it. -/
private def failure (level : LogLevel) (message : String) (id : TransactionId) (status : Status)
    (others : List (String × String)) : Effect :=
  .log ⟨level, message, ("id", Text.decimal id.toNat) :: ("status", status.text) :: others⟩

private def warnFailed (what : String) (id : TransactionId) (status : Status) : List Effect :=
  if status.isSuccess then [] else [failure .warn (what ++ " failed") id status []]

private def sessionStarted (id : TransactionId) (status : Status) (type : SessionType)
    (session : UInt8) : List Effect :=
  if status.isSuccess then [.notify (.sessionConfigSuccess id type session)]
  else [failure .warn "Start session failed" id status [("session_type", type.name)],
    .notify (.sessionConfigFail id type status.code)]

section Silence
variable {β : Type} (f : Effect → Option β) (unlogged : ∀ entry, f (.log entry) = none)
include unlogged

/-- Whoever looks past the log sees nothing of a failed request. -/
theorem unseen_failure (level : LogLevel) (message : String) (id : TransactionId) (status : Status)
    (others : List (String × String)) : f (failure level message id status others) = none :=
  unlogged _

theorem filterMap_warnFailed (what : String) (id : TransactionId) (status : Status) :
    (warnFailed what id status).filterMap f = [] := by
  unfold warnFailed
  split
  · rfl
  · simp [unseen_failure f unlogged]

theorem filterMap_sessionStarted (id : TransactionId) (status : Status) (type : SessionType) (session : UInt8) :
    (sessionStarted id status type session).filterMap f =
      (f (.notify (if status.isSuccess then .sessionConfigSuccess id type session
        else .sessionConfigFail id type status.code))).toList := by
  unfold sessionStarted
  split
  · cases seen : f (.notify (.sessionConfigSuccess id type session)) <;> simp [seen]
  · cases seen : f (.notify (.sessionConfigFail id type status.code)) <;> simp [seen, unseen_failure f unlogged]

end Silence

def Answer.effects (id : TransactionId) (status : Status) : Answer → List Effect
  | .capabilities report =>
    if status.isSuccess then [.notify (.capabilitiesUpdate id (.ofReport report))]
    else [failure .error "Capabilities request failed" id status []]
  | .enable =>
    if status.code = .alreadyEnabled then [.report (.alreadyEnabled id), .notify (.configSuccess id)]
    else if status.isSuccess then [.notify (.configSuccess id)]
    else [failure .warn "Enable request failed" id status [], .notify (.configFailed id status.code)]
  | .config =>
    if status.isSuccess then [.notify (.configSuccess id)]
    else [failure .warn "Config request failed" id status [], .notify (.configFailed id status.code)]
  | .disable => warnFailed "Disable request" id status ++ [.notify (.disableResponse id status.code)]
  | .startPublish session => sessionStarted id status .publish session
  | .startSubscribe session => sessionStarted id status .subscribe session
  | .stopPublish => if status.isSuccess then [] else [failure .error "Stop publish failed" id status []]
  | .stopSubscribe => if status.isSuccess then [] else [failure .error "Stop subscribe failed" id status []]
  | .transmitFollowUp =>
    if status.isSuccess then [.notify (.messageQueued id)]
    else [failure .warn "Follow-up could not be queued" id status [], .notify (.messageNotQueued id status.code)]
  | .createInterface =>
    warnFailed "Create data interface" id status ++ [.notify (.createInterface id status.isSuccess status.code)]
  | .deleteInterface =>
    warnFailed "Delete data interface" id status ++ [.notify (.deleteInterface id status.isSuccess status.code)]
  | .initiateDataPath path =>
    if status.isSuccess then [.notify (.initiateDataPathSuccess id path)]
    else [failure .warn "Initiate data path failed" id status [], .notify (.initiateDataPathFail id status.code)]
  | .respondToDataPath =>
    warnFailed "Respond to data path indication" id status ++
      [.notify (.respondToDataPath id status.isSuccess status.code)]
  | .terminateDataPath =>
    warnFailed "Terminate data path" id status ++ [.notify (.endDataPath id status.isSuccess status.code)]

def ClusterReport.effects (report : ClusterReport) : List Effect :=
  match ClusterEvent.ofCode? report.code with
  | some .addressChanged => [.notify (.addressChange report.address)]
  | some .started => [.notify (.clusterChange .started report.address)]
  | some .joined => [.notify (.clusterChange .joined report.address)]
  | none => [.report (.unknownClusterEvent report.code)]

/-- Without a report about channels what is known about the path stays as it is. -/
def DataPathResult.effects (result : DataPathResult) (report : Option ChannelReport) : List Effect :=
  let channels := report.bind ChannelReport.channels?
  (if report.isSome then [.store (.update result.path channels)] else []) ++
    [.notify (.dataPathConfirm
      ⟨result.path, result.address, result.accepted, result.status.code, result.appInfo, channels⟩)]

/-- All paths are stored before the first of them is announced. -/
def ScheduleUpdate.effects (update : ScheduleUpdate) (report : ChannelReport) : List Effect :=
  if update.paths = [] then [.log ⟨.warn, "Schedule update names no data paths", [("peer", update.peer.text)]⟩]
  else
    update.paths.map (fun path => .store (.update path report.channels?)) ++
      update.paths.map fun path => .notify (.scheduleUpdate update.peer path report.channels?)

def Indication.effects : Indication → List Effect
  | .cluster report => report.effects
  | .disabled status => [.store .clear, .notify (.awareDown status.code)]
  | .publishTerminated session status => [.notify (.sessionTerminated session status.code .publish)]
  | .subscribeTerminated session status => [.notify (.sessionTerminated session status.code .subscribe)]
  | .found report => [.notify (.found (.ofReport report))]
  | .expired session peer => [.notify (.expired session peer)]
  | .followUpReceived m => [.notify (.messageReceived m.session m.peer m.address m.serviceInfo)]
  | .followUpTransmitted id status =>
    if status.isSuccess then [.notify (.messageSent id)] else [.notify (.messageNotSent id status.code)]
  | .dataPathRequest r => [.notify (.dataPathRequest r.session r.address r.path r.appInfo)]
  | .dataPathConfirm result report => result.effects report
  | .dataPathTerminated path => [.store (.remove path), .notify (.dataPathEnd path)]
  | .scheduleUpdate update report => update.effects report

namespace Event

/-- What an accepted event leads to, whatever the revision is. -/
def handling : Event → List Effect
  | .response id status answer => answer.effects id status
  | .indication notice => notice.effects

/-- Whether the shape of the event fits the negotiated revision. -/
def anomaly? (e : Event) (negotiated : Revision) : Option Anomaly :=
  if negotiated < e.revision then some (.revisionMismatch e.callback e.revision negotiated)
  else if e.kind.revisions.any fun newer => e.revision < newer && newer ≤ negotiated then
    some (.supersededShape e.callback e.revision negotiated)
  else none

/-- A shape that is too new is dropped, unless its kind accepts it. -/
def outcome (e : Event) (negotiated : Revision) : Outcome :=
  if negotiated < e.revision ∧ ¬ e.kind.acceptsNewer then .dropped else .processed

/-- An event is traced first, then checked, then counted, and only then handled. The trace says which
callback it was; the event itself, which a log may show beside it, is left out of the entry. -/
def effects (e : Event) (negotiated : Revision) (verbose : Bool) : List Effect :=
  (if verbose then [.log ⟨.debug, "HAL callback", [("callback", e.callback)]⟩] else []) ++
    (e.anomaly? negotiated).toList.map .report ++
    match e.outcome negotiated with
    | .dropped => []
    | .processed => e.kind.counter?.toList.map .count ++ e.handling

end Event

end NanAdapter
