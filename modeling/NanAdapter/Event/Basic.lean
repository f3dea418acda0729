import NanAdapter.Capabilities
import NanAdapter.Channel
import NanAdapter.Cluster
import NanAdapter.DataPath
import NanAdapter.Event.Kind

/-! Events: every callback that the HAL can make. -/

namespace NanAdapter

/-- The number that a response shares with its request. -/
abbrev TransactionId := UInt16

/-- What a response brings besides its number and its status. -/
inductive Answer where
  | capabilities (report : CapabilityReport)
  | enable
  | config
  | disable
  | startPublish (session : UInt8)
  | stopPublish
  | startSubscribe (session : UInt8)
  | stopSubscribe
  | transmitFollowUp
  | createInterface
  | deleteInterface
  | initiateDataPath (path : UInt32)
  | respondToDataPath
  | terminateDataPath
  deriving DecidableEq, Repr

inductive Indication where
  | cluster (report : ClusterReport)
  | disabled (status : Status)
  | publishTerminated (session : UInt8) (status : Status)
  | subscribeTerminated (session : UInt8) (status : Status)
  | found (report : MatchReport)
  | expired (session : UInt8) (peer : UInt32)
  | followUpReceived (message : FollowUp)
  | followUpTransmitted (id : TransactionId) (status : Status)
  | dataPathRequest (request : DataPathRequest)
  /-- The first shape has no channels. -/
  | dataPathConfirm (result : DataPathResult) (channels : Option ChannelReport)
  | dataPathTerminated (path : UInt32)
  | scheduleUpdate (update : ScheduleUpdate) (channels : ChannelReport)
  deriving DecidableEq, Repr

inductive Event where
  | response (id : TransactionId) (status : Status) (answer : Answer)
  | indication (notice : Indication)
  deriving DecidableEq, Repr

def Answer.kind : Answer → RequestKind
  | .capabilities _ => .capabilities
  | .enable => .enable
  | .config => .config
  | .disable => .disable
  | .startPublish _ => .startPublish
  | .stopPublish => .stopPublish
  | .startSubscribe _ => .startSubscribe
  | .stopSubscribe => .stopSubscribe
  | .transmitFollowUp => .transmitFollowUp
  | .createInterface => .createInterface
  | .deleteInterface => .deleteInterface
  | .initiateDataPath _ => .initiateDataPath
  | .respondToDataPath => .respondToDataPath
  | .terminateDataPath => .terminateDataPath

def Indication.kind : Indication → IndicationKind
  | .cluster _ => .cluster
  | .disabled _ => .disabled
  | .publishTerminated _ _ => .publishTerminated
  | .subscribeTerminated _ _ => .subscribeTerminated
  | .found _ => .found
  | .expired _ _ => .expired
  | .followUpReceived _ => .followUpReceived
  | .followUpTransmitted _ _ => .followUpTransmitted
  | .dataPathRequest _ => .dataPathRequest
  | .dataPathConfirm _ _ => .dataPathConfirm
  | .dataPathTerminated _ => .dataPathTerminated
  | .scheduleUpdate _ _ => .scheduleUpdate

namespace Event

def kind : Event → EventKind
  | .response _ _ answer => .response answer.kind
  | .indication notice => .indication notice.kind

/-- The revision in whose shape the event came. -/
def revision : Event → Revision
  | .response _ _ (.capabilities report) => report.revision
  | .indication (.found report) => report.revision
  | .indication (.dataPathConfirm _ (some report)) => report.revision
  | .indication (.scheduleUpdate _ report) => report.revision
  | _ => .v1_0

/-- The name of the callback. Every shape but the first has its revision in the name. -/
def callback (e : Event) : String :=
  if e.revision = e.kind.shapes.1 then e.kind.callback
  else e.kind.callback ++ "_" ++ String.ofList (e.revision.text.toList.map fun c => if c = '.' then '_' else c)

end Event

end NanAdapter
