import NanAdapter.MacAddress

/-! The cluster that the device belongs to. -/

namespace NanAdapter

inductive ClusterEvent where
  | addressChanged
  | started
  | joined
  deriving DecidableEq, Repr

namespace ClusterEvent

def name : ClusterEvent → String
  | .addressChanged => "DiscoveryMacAddressChanged"
  | .started => "StartedCluster"
  | .joined => "JoinedCluster"

def code : ClusterEvent → UInt32
  | .addressChanged => 0
  | .started => 1
  | .joined => 2

def ofCode? : UInt32 → Option ClusterEvent
  | 0 => some .addressChanged
  | 1 => some .started
  | 2 => some .joined
  | _ => none

end ClusterEvent

/-- What the HAL says about the cluster. The code may be one without meaning. -/
structure ClusterReport where
  code : UInt32
  address : MacAddress
  deriving DecidableEq, Repr

def ClusterReport.schema : Schema ClusterReport :=
  .record "NanClusterEventInd" (.need "event_type" .u32 <| .need "addr" MacAddress.schema .done)
    ⟨fun (code, address, ()) => ⟨code, address⟩, fun r => (r.code, r.address, ())⟩

/-- How the device came to be in a cluster. -/
inductive ClusterChange where
  | started
  | joined
  deriving DecidableEq, Repr

def ClusterChange.name : ClusterChange → String
  | .started => "started"
  | .joined => "joined"

def ClusterChange.schema : Schema ClusterChange := .symbol ⟨[.started, .joined], name⟩

end NanAdapter
