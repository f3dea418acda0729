import NanAdapter.Event.Basic

/-! What an event looks like as a document: its kind is a tag beside the members that belong to the
kind. -/

namespace NanAdapter

namespace RequestKind

/-- What a response of that kind brings. -/
def Extra : RequestKind → Type
  | .capabilities => CapabilityReport × Unit
  | .startPublish | .startSubscribe => UInt8 × Unit
  | .initiateDataPath => UInt32 × Unit
  | _ => Unit

def Slots : RequestKind → Type
  | .capabilities => Option CapabilityReport × Unit
  | .startPublish | .startSubscribe => Option UInt8 × Unit
  | .initiateDataPath => Option UInt32 × Unit
  | _ => Unit

def fields : (kind : RequestKind) → Fields kind.Extra kind.Slots
  | .capabilities => .need "capabilities" CapabilityReport.schema .done
  | .startPublish => .need "publish_id" .u8 .done
  | .startSubscribe => .need "subscribe_id" .u8 .done
  | .initiateDataPath => .need "ndp_instance_id" .u32 .done
  | .enable | .config | .disable | .stopPublish | .stopSubscribe | .transmitFollowUp | .createInterface
  | .deleteInterface | .respondToDataPath | .terminateDataPath => .done

end RequestKind

namespace Answer

def ofExtra : (kind : RequestKind) → kind.Extra → Answer
  | .capabilities, (report, ()) => .capabilities report
  | .enable, () => .enable
  | .config, () => .config
  | .disable, () => .disable
  | .startPublish, (session, ()) => .startPublish session
  | .stopPublish, () => .stopPublish
  | .startSubscribe, (session, ()) => .startSubscribe session
  | .stopSubscribe, () => .stopSubscribe
  | .transmitFollowUp, () => .transmitFollowUp
  | .createInterface, () => .createInterface
  | .deleteInterface, () => .deleteInterface
  | .initiateDataPath, (path, ()) => .initiateDataPath path
  | .respondToDataPath, () => .respondToDataPath
  | .terminateDataPath, () => .terminateDataPath

def extra : (answer : Answer) → answer.kind.Extra
  | .capabilities report => (report, ())
  | .startPublish session | .startSubscribe session => (session, ())
  | .initiateDataPath path => (path, ())
  | .enable | .config | .disable | .stopPublish | .stopSubscribe | .transmitFollowUp | .createInterface
  | .deleteInterface | .respondToDataPath | .terminateDataPath => ()

end Answer

namespace IndicationKind

/-- What an indication of that kind brings. -/
def Body : IndicationKind → Type
  | .cluster => ClusterReport × Unit
  | .disabled => Status × Unit
  | .publishTerminated | .subscribeTerminated => UInt8 × Status × Unit
  | .found => MatchReport × Unit
  | .expired => UInt8 × UInt32 × Unit
  | .followUpReceived => FollowUp × Unit
  | .followUpTransmitted => TransactionId × Status × Unit
  | .dataPathRequest => DataPathRequest × Unit
  | .dataPathConfirm => DataPathResult × Option ChannelReport × Unit
  | .dataPathTerminated => UInt32 × Unit
  | .scheduleUpdate => ScheduleUpdate × ChannelReport × Unit

def Slots : IndicationKind → Type
  | .cluster => Option ClusterReport × Unit
  | .disabled => Option Status × Unit
  | .publishTerminated | .subscribeTerminated => Option UInt8 × Option Status × Unit
  | .found => Option MatchReport × Unit
  | .expired => Option UInt8 × Option UInt32 × Unit
  | .followUpReceived => Option FollowUp × Unit
  | .followUpTransmitted => Option TransactionId × Option Status × Unit
  | .dataPathRequest => Option DataPathRequest × Unit
  | .dataPathConfirm => Option DataPathResult × Option (Option ChannelReport) × Unit
  | .dataPathTerminated => Option UInt32 × Unit
  | .scheduleUpdate => Option ScheduleUpdate × Option ChannelReport × Unit

def fields : (kind : IndicationKind) → Fields kind.Body kind.Slots
  | .cluster => .need "indication" ClusterReport.schema .done
  | .disabled => .need "status" Status.schema .done
  | .publishTerminated => .need "session_id" .u8 <| .need "status" Status.schema .done
  | .subscribeTerminated => .need "session_id" .u8 <| .need "status" Status.schema .done
  | .found => .need "indication" MatchReport.schema .done
  | .expired => .need "discovery_session_id" .u8 <| .need "peer_id" .u32 .done
  | .followUpReceived => .need "indication" FollowUp.schema .done
  | .followUpTransmitted => .need "id" .u16 <| .need "status" Status.schema .done
  | .dataPathRequest => .need "indication" DataPathRequest.schema .done
  | .dataPathConfirm =>
    .need "indication" DataPathResult.schema <| .may "channel_info" (.optional ChannelReport.schema) none .done
  | .dataPathTerminated => .need "ndp_instance_id" .u32 .done
  | .scheduleUpdate => .need "indication" ScheduleUpdate.schema <| .need "channel_info" ChannelReport.schema .done

end IndicationKind

namespace Indication

def ofBody : (kind : IndicationKind) → kind.Body → Indication
  | .cluster, (report, ()) => .cluster report
  | .disabled, (status, ()) => .disabled status
  | .publishTerminated, (session, status, ()) => .publishTerminated session status
  | .subscribeTerminated, (session, status, ()) => .subscribeTerminated session status
  | .found, (report, ()) => .found report
  | .expired, (session, peer, ()) => .expired session peer
  | .followUpReceived, (message, ()) => .followUpReceived message
  | .followUpTransmitted, (id, status, ()) => .followUpTransmitted id status
  | .dataPathRequest, (request, ()) => .dataPathRequest request
  | .dataPathConfirm, (result, channels, ()) => .dataPathConfirm result channels
  | .dataPathTerminated, (path, ()) => .dataPathTerminated path
  | .scheduleUpdate, (update, channels, ()) => .scheduleUpdate update channels

def body : (notice : Indication) → notice.kind.Body
  | .cluster report => (report, ())
  | .disabled status => (status, ())
  | .publishTerminated session status => (session, status, ())
  | .subscribeTerminated session status => (session, status, ())
  | .found report => (report, ())
  | .expired session peer => (session, peer, ())
  | .followUpReceived message => (message, ())
  | .followUpTransmitted id status => (id, status, ())
  | .dataPathRequest request => (request, ())
  | .dataPathConfirm result channels => (result, channels, ())
  | .dataPathTerminated path => (path, ())
  | .scheduleUpdate update channels => (update, channels, ())

end Indication

namespace EventKind

def Body : EventKind → Type
  | .response request => TransactionId × Status × request.Extra
  | .indication kind => kind.Body

def Slots : EventKind → Type
  | .response request => Option TransactionId × Option Status × request.Slots
  | .indication kind => kind.Slots

def fields : (kind : EventKind) → Fields kind.Body kind.Slots
  | .response request => .need "id" .u16 <| .need "status" Status.schema request.fields
  | .indication kind => kind.fields

/-- What the members of that kind are called together. -/
def title (kind : EventKind) : String := "struct variant HalEvent::" ++ kind.name

end EventKind

namespace Event

def ofBody : ((kind : EventKind) × kind.Body) → Event
  | ⟨.response request, (id, status, extra)⟩ => .response id status (.ofExtra request extra)
  | ⟨.indication kind, body⟩ => .indication (.ofBody kind body)

def body : Event → (kind : EventKind) × kind.Body
  | .response id status answer => ⟨.response answer.kind, (id, status, answer.extra)⟩
  | .indication notice => ⟨.indication notice.kind, notice.body⟩

/-- The member that says of what kind an event is. -/
def tag : String := "event"

def schema : Schema Event :=
  .tagged "HalEvent" tag EventKind.names EventKind.title EventKind.fields ⟨ofBody, body⟩

theorem ofBody_body (e : Event) : ofBody e.body = e := by
  rcases e with ⟨id, status, answer⟩ | notice
  · cases answer <;> rfl
  · cases notice <;> rfl

end Event

end NanAdapter
