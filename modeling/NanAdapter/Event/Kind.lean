import NanAdapter.Revision

/-! Kinds of callbacks. A kind is the same in every revision, though its callback may have a shape
of its own there. -/

namespace NanAdapter

/-- What may be asked of the HAL. -/
inductive RequestKind where
  | capabilities
  | enable
  | config
  | disable
  | startPublish
  | stopPublish
  | startSubscribe
  | stopSubscribe
  | transmitFollowUp
  | createInterface
  | deleteInterface
  | initiateDataPath
  | respondToDataPath
  | terminateDataPath
  deriving DecidableEq, Repr

/-- What the HAL reports on its own. -/
inductive IndicationKind where
  | cluster
  | disabled
  | publishTerminated
  | subscribeTerminated
  | found
  | expired
  | followUpReceived
  | followUpTransmitted
  | dataPathRequest
  | dataPathConfirm
  | dataPathTerminated
  | scheduleUpdate
  deriving DecidableEq, Repr

inductive EventKind where
  | response (request : RequestKind)
  | indication (kind : IndicationKind)
  deriving DecidableEq, Repr

namespace RequestKind

def all : List RequestKind :=
  [.capabilities, .enable, .config, .disable, .startPublish, .stopPublish, .startSubscribe, .stopSubscribe,
    .transmitFollowUp, .createInterface, .deleteInterface, .initiateDataPath, .respondToDataPath, .terminateDataPath]

/-- The name of the response. -/
def name : RequestKind → String
  | .capabilities => "CapabilitiesResponse"
  | .enable => "EnableResponse"
  | .config => "ConfigResponse"
  | .disable => "DisableResponse"
  | .startPublish => "StartPublishResponse"
  | .stopPublish => "StopPublishResponse"
  | .startSubscribe => "StartSubscribeResponse"
  | .stopSubscribe => "StopSubscribeResponse"
  | .transmitFollowUp => "TransmitFollowupResponse"
  | .createInterface => "CreateDataInterfaceResponse"
  | .deleteInterface => "DeleteDataInterfaceResponse"
  | .initiateDataPath => "InitiateDataPathResponse"
  | .respondToDataPath => "RespondToDataPathIndicationResponse"
  | .terminateDataPath => "TerminateDataPathResponse"

def tag : RequestKind → String
  | .capabilities => "capabilities_response"
  | .enable => "enable_response"
  | .config => "config_response"
  | .disable => "disable_response"
  | .startPublish => "start_publish_response"
  | .stopPublish => "stop_publish_response"
  | .startSubscribe => "start_subscribe_response"
  | .stopSubscribe => "stop_subscribe_response"
  | .transmitFollowUp => "transmit_followup_response"
  | .createInterface => "create_data_interface_response"
  | .deleteInterface => "delete_data_interface_response"
  | .initiateDataPath => "initiate_data_path_response"
  | .respondToDataPath => "respond_to_data_path_indication_response"
  | .terminateDataPath => "terminate_data_path_response"

end RequestKind

namespace IndicationKind

def all : List IndicationKind :=
  [.cluster, .disabled, .publishTerminated, .subscribeTerminated, .found, .expired, .followUpReceived,
    .followUpTransmitted, .dataPathRequest, .dataPathConfirm, .dataPathTerminated, .scheduleUpdate]

def name : IndicationKind → String
  | .cluster => "ClusterEvent"
  | .disabled => "Disabled"
  | .publishTerminated => "PublishTerminated"
  | .subscribeTerminated => "SubscribeTerminated"
  | .found => "Match"
  | .expired => "MatchExpired"
  | .followUpReceived => "FollowupReceived"
  | .followUpTransmitted => "TransmitFollowup"
  | .dataPathRequest => "DataPathRequest"
  | .dataPathConfirm => "DataPathConfirm"
  | .dataPathTerminated => "DataPathTerminated"
  | .scheduleUpdate => "DataPathScheduleUpdate"

def tag : IndicationKind → String
  | .cluster => "cluster_event"
  | .disabled => "disabled"
  | .publishTerminated => "publish_terminated"
  | .subscribeTerminated => "subscribe_terminated"
  | .found => "match"
  | .expired => "match_expired"
  | .followUpReceived => "followup_received"
  | .followUpTransmitted => "transmit_followup"
  | .dataPathRequest => "data_path_request"
  | .dataPathConfirm => "data_path_confirm"
  | .dataPathTerminated => "data_path_terminated"
  | .scheduleUpdate => "data_path_schedule_update"

/-- The number under which diagnostics show the kind. -/
def id : IndicationKind → UInt8
  | .cluster => 0
  | .disabled => 1
  | .publishTerminated => 2
  | .subscribeTerminated => 3
  | .found => 4
  | .expired => 5
  | .followUpReceived => 6
  | .followUpTransmitted => 7
  | .dataPathRequest => 8
  | .dataPathConfirm => 9
  | .dataPathTerminated => 10
  | .scheduleUpdate => 11

def ofId? (id : UInt8) : Option IndicationKind := all[id.toNat]?

theorem ofId?_id (k : IndicationKind) : ofId? k.id = some k := by cases k <;> rfl

end IndicationKind

namespace EventKind

/-- Responses first. -/
def all : List EventKind := RequestKind.all.map .response ++ IndicationKind.all.map .indication

def name : EventKind → String
  | .response request => request.name
  | .indication kind => kind.name

def tag : EventKind → String
  | .response request => request.tag
  | .indication kind => kind.tag

def isResponse : EventKind → Bool
  | .response _ => true
  | .indication _ => false

/-- The name of the callback in its first shape. -/
def callback (kind : EventKind) : String :=
  (if kind.isResponse then "notify" else "event") ++ kind.name

/-- The first revision with this callback, and the later ones in which it has another shape, lowest
first. -/
def shapes : EventKind → Revision × List Revision
  | .response .capabilities => (.v1_0, [.v1_5, .v1_6])
  | .indication .found => (.v1_0, [.v1_6])
  | .indication .dataPathConfirm => (.v1_0, [.v1_2, .v1_6])
  | .indication .scheduleUpdate => (.v1_2, [.v1_6])
  | _ => (.v1_0, [])

def revisions (kind : EventKind) : List Revision := kind.shapes.1 :: kind.shapes.2

/-- Whether a shape is welcome that is newer than the negotiated revision. The newest match has all
that is asked for. -/
def acceptsNewer (kind : EventKind) : Bool := kind = .indication .found

/-- Only indications are counted. -/
def counter? : EventKind → Option IndicationKind
  | .response _ => none
  | .indication kind => some kind

def names : Names EventKind := ⟨all, tag⟩

end EventKind

end NanAdapter
