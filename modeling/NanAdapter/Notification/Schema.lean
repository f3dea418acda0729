import NanAdapter.Notification.Basic
import NanAdapter.Schema.Write

/-! What a notification looks like as a document: its kind is a tag before the members that belong
to the kind. -/

namespace NanAdapter

inductive NotificationKind where
  | capabilitiesUpdate
  | configSuccess
  | configFailed
  | disableResponse
  | sessionConfigSuccess
  | sessionConfigFail
  | messageQueued
  | messageNotQueued
  | createInterface
  | deleteInterface
  | initiateDataPathSuccess
  | initiateDataPathFail
  | respondToDataPath
  | endDataPath
  | addressChange
  | clusterChange
  | awareDown
  | sessionTerminated
  | found
  | expired
  | messageReceived
  | messageSent
  | messageNotSent
  | dataPathRequest
  | dataPathConfirm
  | dataPathEnd
  | scheduleUpdate
  deriving DecidableEq, Repr

namespace NotificationKind

def all : List NotificationKind :=
  [.capabilitiesUpdate, .configSuccess, .configFailed, .disableResponse, .sessionConfigSuccess, .sessionConfigFail,
    .messageQueued, .messageNotQueued, .createInterface, .deleteInterface, .initiateDataPathSuccess,
    .initiateDataPathFail, .respondToDataPath, .endDataPath, .addressChange, .clusterChange, .awareDown,
    .sessionTerminated, .found, .expired, .messageReceived, .messageSent, .messageNotSent, .dataPathRequest,
    .dataPathConfirm, .dataPathEnd, .scheduleUpdate]

def tag : NotificationKind → String
  | .capabilitiesUpdate => "capabilities_update"
  | .configSuccess => "config_success"
  | .configFailed => "config_failed"
  | .disableResponse => "disable_response"
  | .sessionConfigSuccess => "session_config_success"
  | .sessionConfigFail => "session_config_fail"
  | .messageQueued => "message_send_queued_success"
  | .messageNotQueued => "message_send_queued_fail"
  | .createInterface => "create_data_path_interface"
  | .deleteInterface => "delete_data_path_interface"
  | .initiateDataPathSuccess => "initiate_data_path_success"
  | .initiateDataPathFail => "initiate_data_path_fail"
  | .respondToDataPath => "respond_to_data_path_setup_request"
  | .endDataPath => "end_data_path"
  | .addressChange => "interface_address_change"
  | .clusterChange => "cluster_change"
  | .awareDown => "aware_down"
  | .sessionTerminated => "session_terminated"
  | .found => "match"
  | .expired => "match_expired"
  | .messageReceived => "message_received"
  | .messageSent => "message_send_success"
  | .messageNotSent => "message_send_fail"
  | .dataPathRequest => "data_path_request"
  | .dataPathConfirm => "data_path_confirm"
  | .dataPathEnd => "data_path_end"
  | .scheduleUpdate => "data_path_schedule_update"

def names : Names NotificationKind := ⟨all, tag⟩

/-- What the members of that kind are called together. -/
def title (kind : NotificationKind) : String := "struct variant SessionNotification::" ++ kind.tag

/-- What a notification of that kind tells. -/
def Body : NotificationKind → Type
  | .capabilitiesUpdate => TransactionId × Capabilities × Unit
  | .configSuccess | .messageQueued | .messageSent => TransactionId × Unit
  | .configFailed | .disableResponse | .messageNotQueued | .initiateDataPathFail | .messageNotSent =>
    TransactionId × StatusCode × Unit
  | .sessionConfigSuccess => TransactionId × SessionType × UInt8 × Unit
  | .sessionConfigFail => TransactionId × SessionType × StatusCode × Unit
  | .createInterface | .deleteInterface | .respondToDataPath | .endDataPath =>
    TransactionId × Bool × StatusCode × Unit
  | .initiateDataPathSuccess => TransactionId × UInt32 × Unit
  | .addressChange => MacAddress × Unit
  | .clusterChange => ClusterChange × MacAddress × Unit
  | .awareDown => StatusCode × Unit
  | .sessionTerminated => UInt8 × StatusCode × SessionType × Unit
  | .found => Match.Values
  | .expired => UInt8 × UInt32 × Unit
  | .messageReceived => UInt8 × UInt32 × MacAddress × Payload × Unit
  | .dataPathRequest => UInt8 × MacAddress × UInt32 × Payload × Unit
  | .dataPathConfirm => UInt32 × MacAddress × Bool × StatusCode × Payload × Option (List Channel) × Unit
  | .dataPathEnd => UInt32 × Unit
  | .scheduleUpdate => MacAddress × UInt32 × Option (List Channel) × Unit

def Slots : NotificationKind → Type
  | .capabilitiesUpdate => Option TransactionId × Option Capabilities × Unit
  | .configSuccess | .messageQueued | .messageSent => Option TransactionId × Unit
  | .configFailed | .disableResponse | .messageNotQueued | .initiateDataPathFail | .messageNotSent =>
    Option TransactionId × Option StatusCode × Unit
  | .sessionConfigSuccess => Option TransactionId × Option SessionType × Option UInt8 × Unit
  | .sessionConfigFail => Option TransactionId × Option SessionType × Option StatusCode × Unit
  | .createInterface | .deleteInterface | .respondToDataPath | .endDataPath =>
    Option TransactionId × Option Bool × Option StatusCode × Unit
  | .initiateDataPathSuccess => Option TransactionId × Option UInt32 × Unit
  | .addressChange => Option MacAddress × Unit
  | .clusterChange => Option ClusterChange × Option MacAddress × Unit
  | .awareDown => Option StatusCode × Unit
  | .sessionTerminated => Option UInt8 × Option StatusCode × Option SessionType × Unit
  | .found => Match.Slots
  | .expired => Option UInt8 × Option UInt32 × Unit
  | .messageReceived => Option UInt8 × Option UInt32 × Option MacAddress × Option Payload × Unit
  | .dataPathRequest => Option UInt8 × Option MacAddress × Option UInt32 × Option Payload × Unit
  | .dataPathConfirm =>
    Option UInt32 × Option MacAddress × Option Bool × Option StatusCode × Option Payload ×
      Option (Option (List Channel)) × Unit
  | .dataPathEnd => Option UInt32 × Unit
  | .scheduleUpdate => Option MacAddress × Option UInt32 × Option (Option (List Channel)) × Unit

private def channels : Schema (Option (List Channel)) := .optional (.list Channel.schema)

def fields : (kind : NotificationKind) → Fields kind.Body kind.Slots
  | .capabilitiesUpdate => .need "id" .u16 <| .need "capabilities" Capabilities.schema .done
  | .configSuccess => .need "id" .u16 .done
  | .configFailed => .need "id" .u16 <| .need "reason" StatusCode.schema .done
  | .disableResponse => .need "id" .u16 <| .need "status" StatusCode.schema .done
  | .sessionConfigSuccess =>
    .need "id" .u16 <| .need "session_type" SessionType.schema <| .need "session_id" .u8 .done
  | .sessionConfigFail =>
    .need "id" .u16 <| .need "session_type" SessionType.schema <| .need "reason" StatusCode.schema .done
  | .messageQueued => .need "id" .u16 .done
  | .messageNotQueued => .need "id" .u16 <| .need "reason" StatusCode.schema .done
  | .createInterface => .need "id" .u16 <| .need "success" .boolean <| .need "reason" StatusCode.schema .done
  | .deleteInterface => .need "id" .u16 <| .need "success" .boolean <| .need "reason" StatusCode.schema .done
  | .initiateDataPathSuccess => .need "id" .u16 <| .need "ndp_instance_id" .u32 .done
  | .initiateDataPathFail => .need "id" .u16 <| .need "reason" StatusCode.schema .done
  | .respondToDataPath => .need "id" .u16 <| .need "success" .boolean <| .need "reason" StatusCode.schema .done
  | .endDataPath => .need "id" .u16 <| .need "success" .boolean <| .need "reason" StatusCode.schema .done
  | .addressChange => .need "addr" MacAddress.schema .done
  | .clusterChange => .need "change" ClusterChange.schema <| .need "cluster_id" MacAddress.schema .done
  | .awareDown => .need "reason" StatusCode.schema .done
  | .sessionTerminated =>
    .need "session_id" .u8 <| .need "reason" StatusCode.schema <| .need "session_type" SessionType.schema .done
  | .found => Match.fields
  | .expired => .need "discovery_session_id" .u8 <| .need "peer_id" .u32 .done
  | .messageReceived =>
    .need "discovery_session_id" .u8 <| .need "peer_id" .u32 <| .need "peer_addr" MacAddress.schema <|
      .need "message" .payload .done
  | .messageSent => .need "id" .u16 .done
  | .messageNotSent => .need "id" .u16 <| .need "reason" StatusCode.schema .done
  | .dataPathRequest =>
    .need "discovery_session_id" .u8 <| .need "peer_disc_mac_addr" MacAddress.schema <|
      .need "ndp_instance_id" .u32 <| .need "app_info" .payload .done
  | .dataPathConfirm =>
    .need "ndp_instance_id" .u32 <| .need "peer_ndi_mac_addr" MacAddress.schema <| .need "accepted" .boolean <|
      .need "reason" StatusCode.schema <| .need "app_info" .payload <| .need "channel_info" channels .done
  | .dataPathEnd => .need "ndp_instance_id" .u32 .done
  | .scheduleUpdate =>
    .need "peer_addr" MacAddress.schema <| .need "ndp_instance_id" .u32 <| .need "channel_info" channels .done

end NotificationKind

namespace Notification

def ofBody : ((kind : NotificationKind) × kind.Body) → Notification
  | ⟨.capabilitiesUpdate, (id, capabilities, ())⟩ => .capabilitiesUpdate id capabilities
  | ⟨.configSuccess, (id, ())⟩ => .configSuccess id
  | ⟨.configFailed, (id, reason, ())⟩ => .configFailed id reason
  | ⟨.disableResponse, (id, status, ())⟩ => .disableResponse id status
  | ⟨.sessionConfigSuccess, (id, type, session, ())⟩ => .sessionConfigSuccess id type session
  | ⟨.sessionConfigFail, (id, type, reason, ())⟩ => .sessionConfigFail id type reason
  | ⟨.messageQueued, (id, ())⟩ => .messageQueued id
  | ⟨.messageNotQueued, (id, reason, ())⟩ => .messageNotQueued id reason
  | ⟨.createInterface, (id, success, reason, ())⟩ => .createInterface id success reason
  | ⟨.deleteInterface, (id, success, reason, ())⟩ => .deleteInterface id success reason
  | ⟨.initiateDataPathSuccess, (id, path, ())⟩ => .initiateDataPathSuccess id path
  | ⟨.initiateDataPathFail, (id, reason, ())⟩ => .initiateDataPathFail id reason
  | ⟨.respondToDataPath, (id, success, reason, ())⟩ => .respondToDataPath id success reason
  | ⟨.endDataPath, (id, success, reason, ())⟩ => .endDataPath id success reason
  | ⟨.addressChange, (address, ())⟩ => .addressChange address
  | ⟨.clusterChange, (change, cluster, ())⟩ => .clusterChange change cluster
  | ⟨.awareDown, (reason, ())⟩ => .awareDown reason
  | ⟨.sessionTerminated, (session, reason, type, ())⟩ => .sessionTerminated session reason type
  | ⟨.found, values⟩ => .found (.ofValues values)
  | ⟨.expired, (session, peer, ())⟩ => .expired session peer
  | ⟨.messageReceived, (session, peer, address, message, ())⟩ => .messageReceived session peer address message
  | ⟨.messageSent, (id, ())⟩ => .messageSent id
  | ⟨.messageNotSent, (id, reason, ())⟩ => .messageNotSent id reason
  | ⟨.dataPathRequest, (session, address, path, appInfo, ())⟩ => .dataPathRequest session address path appInfo
  | ⟨.dataPathConfirm, (path, address, accepted, reason, appInfo, channels, ())⟩ =>
    .dataPathConfirm ⟨path, address, accepted, reason, appInfo, channels⟩
  | ⟨.dataPathEnd, (path, ())⟩ => .dataPathEnd path
  | ⟨.scheduleUpdate, (peer, path, channels, ())⟩ => .scheduleUpdate peer path channels

def body : Notification → (kind : NotificationKind) × kind.Body
  | .capabilitiesUpdate id capabilities => ⟨.capabilitiesUpdate, (id, capabilities, ())⟩
  | .configSuccess id => ⟨.configSuccess, (id, ())⟩
  | .configFailed id reason => ⟨.configFailed, (id, reason, ())⟩
  | .disableResponse id status => ⟨.disableResponse, (id, status, ())⟩
  | .sessionConfigSuccess id type session => ⟨.sessionConfigSuccess, (id, type, session, ())⟩
  | .sessionConfigFail id type reason => ⟨.sessionConfigFail, (id, type, reason, ())⟩
  | .messageQueued id => ⟨.messageQueued, (id, ())⟩
  | .messageNotQueued id reason => ⟨.messageNotQueued, (id, reason, ())⟩
  | .createInterface id success reason => ⟨.createInterface, (id, success, reason, ())⟩
  | .deleteInterface id success reason => ⟨.deleteInterface, (id, success, reason, ())⟩
  | .initiateDataPathSuccess id path => ⟨.initiateDataPathSuccess, (id, path, ())⟩
  | .initiateDataPathFail id reason => ⟨.initiateDataPathFail, (id, reason, ())⟩
  | .respondToDataPath id success reason => ⟨.respondToDataPath, (id, success, reason, ())⟩
  | .endDataPath id success reason => ⟨.endDataPath, (id, success, reason, ())⟩
  | .addressChange address => ⟨.addressChange, (address, ())⟩
  | .clusterChange change cluster => ⟨.clusterChange, (change, cluster, ())⟩
  | .awareDown reason => ⟨.awareDown, (reason, ())⟩
  | .sessionTerminated session reason type => ⟨.sessionTerminated, (session, reason, type, ())⟩
  | .found details => ⟨.found, details.toValues⟩
  | .expired session peer => ⟨.expired, (session, peer, ())⟩
  | .messageReceived session peer address message => ⟨.messageReceived, (session, peer, address, message, ())⟩
  | .messageSent id => ⟨.messageSent, (id, ())⟩
  | .messageNotSent id reason => ⟨.messageNotSent, (id, reason, ())⟩
  | .dataPathRequest session address path appInfo => ⟨.dataPathRequest, (session, address, path, appInfo, ())⟩
  | .dataPathConfirm o => ⟨.dataPathConfirm, (o.path, o.address, o.accepted, o.reason, o.appInfo, o.channels, ())⟩
  | .dataPathEnd path => ⟨.dataPathEnd, (path, ())⟩
  | .scheduleUpdate peer path channels => ⟨.scheduleUpdate, (peer, path, channels, ())⟩

def schema : Schema Notification :=
  .tagged "SessionNotification" "notification" NotificationKind.names NotificationKind.title NotificationKind.fields
    ⟨ofBody, body⟩

theorem ofBody_body (n : Notification) : ofBody n.body = n := by cases n <;> rfl

/-- One line, without its end. -/
def line (n : Notification) : String := schema.print n

end Notification

end NanAdapter
