import NanAdapter.Match
import NanAdapter.Status

/-! Messages from peers, and the data paths to them, as the HAL indicates them. -/

namespace NanAdapter

/-- A message of a peer that was found before. -/
structure FollowUp where
  session : UInt8
  peer : UInt32
  address : MacAddress
  inWindow : Bool
  serviceInfo : Payload
  deriving DecidableEq, Repr

def FollowUp.schema : Schema FollowUp :=
  .record "NanFollowupReceivedInd"
    (.may "discovery_session_id" .u8 0 <|
      .may "peer_id" .u32 0 <|
      .may "addr" MacAddress.schema .zero <|
      .may "received_in_faw" .boolean false <|
      .may "service_specific_info" .payload none .done)
    ⟨fun (session, peer, address, inWindow, serviceInfo, ()) => ⟨session, peer, address, inWindow, serviceInfo⟩,
     fun m => (m.session, m.peer, m.address, m.inWindow, m.serviceInfo, ())⟩

/-- A peer asks for a data path. -/
structure DataPathRequest where
  session : UInt8
  address : MacAddress
  path : UInt32
  securityRequired : Bool
  appInfo : Payload
  deriving DecidableEq, Repr

def DataPathRequest.schema : Schema DataPathRequest :=
  .record "NanDataPathRequestInd"
    (.may "discovery_session_id" .u8 0 <|
      .may "peer_disc_mac_addr" MacAddress.schema .zero <|
      .may "ndp_instance_id" .u32 0 <|
      .may "security_required" .boolean false <|
      .may "app_info" .payload none .done)
    ⟨fun (session, address, path, securityRequired, appInfo, ()) => ⟨session, address, path, securityRequired, appInfo⟩,
     fun r => (r.session, r.address, r.path, r.securityRequired, r.appInfo, ())⟩

/-- How the setup of a data path ended. -/
structure DataPathResult where
  path : UInt32
  accepted : Bool
  address : MacAddress
  appInfo : Payload
  status : Status
  deriving DecidableEq, Repr

def DataPathResult.schema : Schema DataPathResult :=
  .record "NanDataPathConfirmInd"
    (.need "ndp_instance_id" .u32 <|
      .need "data_path_setup_success" .boolean <|
      .need "peer_ndi_mac_addr" MacAddress.schema <|
      .may "app_info" .payload none <|
      .need "status" Status.schema .done)
    ⟨fun (path, accepted, address, appInfo, status, ()) => ⟨path, accepted, address, appInfo, status⟩,
     fun r => (r.path, r.accepted, r.address, r.appInfo, r.status, ())⟩

/-- The data paths to a peer have a new schedule. -/
structure ScheduleUpdate where
  peer : MacAddress
  paths : List UInt32
  deriving DecidableEq, Repr

def ScheduleUpdate.schema : Schema ScheduleUpdate :=
  .record "NanDataPathScheduleUpdateInd"
    (.need "peer_discovery_address" MacAddress.schema <| .need "ndp_instance_ids" (.list .u32) .done)
    ⟨fun (peer, paths, ()) => ⟨peer, paths⟩, fun u => (u.peer, u.paths, ())⟩

end NanAdapter
