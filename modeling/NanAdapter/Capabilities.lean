import NanAdapter.CipherSuites
import NanAdapter.Revision

/-! What a radio can do: the records that the HAL sends, and the form that everyone else sees. -/

namespace NanAdapter

/-- How many of each thing there may be, and how long. -/
structure Limits where
  clusters : UInt32
  publishes : UInt32
  subscribes : UInt32
  serviceNameLength : UInt32
  matchFilterLength : UInt32
  totalMatchFilterLength : UInt32
  serviceInfoLength : UInt32
  extendedServiceInfoLength : UInt32
  interfaces : UInt32
  dataPaths : UInt32
  appInfoLength : UInt32
  queuedMessages : UInt32
  subscribeAddresses : UInt32
  deriving DecidableEq, Repr

namespace Limits

/-- The limits in their order, and what follows them. -/
abbrev Values (β : Type) : Type :=
  UInt32 × UInt32 × UInt32 × UInt32 × UInt32 × UInt32 × UInt32 × UInt32 × UInt32 × UInt32 × UInt32 × UInt32 × UInt32 × β

abbrev Slots (σ : Type) : Type :=
  Option UInt32 × Option UInt32 × Option UInt32 × Option UInt32 × Option UInt32 × Option UInt32 × Option UInt32 ×
    Option UInt32 × Option UInt32 × Option UInt32 × Option UInt32 × Option UInt32 × Option UInt32 × σ

def ofValues : Values β → Limits × β
  | (a, b, c, d, e, f, g, h, i, j, k, l, m, rest) => (⟨a, b, c, d, e, f, g, h, i, j, k, l, m⟩, rest)

def toValues (n : Limits) (rest : β) : Values β :=
  (n.clusters, n.publishes, n.subscribes, n.serviceNameLength, n.matchFilterLength, n.totalMatchFilterLength,
    n.serviceInfoLength, n.extendedServiceInfoLength, n.interfaces, n.dataPaths, n.appInfoLength, n.queuedMessages,
    n.subscribeAddresses, rest)

/-- The members of the limits. Two of them have a name that depends on the record. -/
def fields (clusters queuedMessages : String) (default : Option UInt32) (rest : Fields β σ) :
    Fields (Values β) (Slots σ) :=
  .cons clusters .u32 default <|
  .cons "max_publishes" .u32 default <|
  .cons "max_subscribes" .u32 default <|
  .cons "max_service_name_len" .u32 default <|
  .cons "max_match_filter_len" .u32 default <|
  .cons "max_total_match_filter_len" .u32 default <|
  .cons "max_service_specific_info_len" .u32 default <|
  .cons "max_extended_service_specific_info_len" .u32 default <|
  .cons "max_ndi_interfaces" .u32 default <|
  .cons "max_ndp_sessions" .u32 default <|
  .cons "max_app_info_len" .u32 default <|
  .cons queuedMessages .u32 default <|
  .cons "max_subscribe_interface_addresses" .u32 default rest

/-- The members as the HAL names them. What it leaves out is zero. -/
def reported (rest : Fields β σ) : Fields (Values β) (Slots σ) :=
  fields "max_concurrent_clusters" "max_queued_transmit_followup_msgs" (some 0) rest

end Limits

/-- The record of the first revision. -/
structure BaseCapabilities where
  limits : Limits
  cipherMask : UInt32
  deriving DecidableEq, Repr

namespace BaseCapabilities

def zero : BaseCapabilities := ⟨⟨0, 0, 0, 0, 0, 0, 0, 0, 0, 0, 0, 0, 0⟩, 0⟩

def schema : Schema BaseCapabilities :=
  .record "NanCapabilities" (Limits.reported <| .may "supported_cipher_suites" .u32 0 .done)
    ⟨fun values =>
      let (limits, mask, ()) := Limits.ofValues values
      ⟨limits, mask⟩,
     fun r => r.limits.toValues (r.cipherMask, ())⟩

end BaseCapabilities

/-- The record of revision 1.5, with the flag for instant communication beside the first record. -/
structure InstantCapabilities where
  base : BaseCapabilities
  instant : Bool
  deriving DecidableEq, Repr

def InstantCapabilities.schema : Schema InstantCapabilities :=
  .record "NanCapabilitiesV1_5"
    (.may "v1_0" BaseCapabilities.schema .zero <| .may "instant_communication_mode_support_flag" .boolean false .done)
    ⟨fun (base, instant, ()) => ⟨base, instant⟩, fun r => (r.base, r.instant, ())⟩

/-- The record of revision 1.6, with everything in one row. -/
structure FlatCapabilities where
  limits : Limits
  cipherMask : UInt32
  instant : Bool
  deriving DecidableEq, Repr

def FlatCapabilities.schema : Schema FlatCapabilities :=
  .record "NanCapabilitiesV1_6"
    (Limits.reported <| .may "supported_cipher_suites" .u32 0 <|
      .may "instant_communication_mode_support_flag" .boolean false .done)
    ⟨fun values =>
      let (limits, mask, instant, ()) := Limits.ofValues values
      ⟨limits, mask, instant⟩,
     fun r => r.limits.toValues (r.cipherMask, r.instant, ())⟩

/-- The capabilities as one revision of the HAL reports them. -/
inductive CapabilityReport where
  | v1_0 (record : BaseCapabilities)
  | v1_5 (record : InstantCapabilities)
  | v1_6 (record : FlatCapabilities)
  deriving DecidableEq, Repr

namespace CapabilityReport

def revision : CapabilityReport → Revision
  | .v1_0 _ => .v1_0
  | .v1_5 _ => .v1_5
  | .v1_6 _ => .v1_6

/-- The revisions that have a record of their own. -/
inductive Form where
  | v1_0
  | v1_5
  | v1_6
  deriving DecidableEq, Repr

namespace Form

def name : Form → String
  | .v1_0 => "1.0"
  | .v1_5 => "1.5"
  | .v1_6 => "1.6"

def Record : Form → Type
  | .v1_0 => BaseCapabilities
  | .v1_5 => InstantCapabilities
  | .v1_6 => FlatCapabilities

def schema : (form : Form) → Schema form.Record
  | .v1_0 => BaseCapabilities.schema
  | .v1_5 => InstantCapabilities.schema
  | .v1_6 => FlatCapabilities.schema

end Form

def schema : Schema CapabilityReport :=
  .adjacent "RawCapabilities" "revision" "record" ⟨[.v1_0, .v1_5, .v1_6], Form.name⟩ Form.schema
    ⟨fun
      | ⟨.v1_0, record⟩ => .v1_0 record
      | ⟨.v1_5, record⟩ => .v1_5 record
      | ⟨.v1_6, record⟩ => .v1_6 record,
     fun
      | .v1_0 record => ⟨.v1_0, record⟩
      | .v1_5 record => ⟨.v1_5, record⟩
      | .v1_6 record => ⟨.v1_6, record⟩⟩

end CapabilityReport

structure Capabilities where
  limits : Limits
  ciphers : CipherSuites
  instant : Bool
  deriving DecidableEq, Repr

namespace Capabilities

def zero : Capabilities := ⟨BaseCapabilities.zero.limits, .none, false⟩

/-- The first record says nothing about instant communication, so it counts as absent. -/
def ofReport : CapabilityReport → Capabilities
  | .v1_0 r => ⟨r.limits, .ofMask r.cipherMask, false⟩
  | .v1_5 r => ⟨r.base.limits, .ofMask r.base.cipherMask, r.instant⟩
  | .v1_6 r => ⟨r.limits, .ofMask r.cipherMask, r.instant⟩

def schema : Schema Capabilities :=
  .record "Capabilities"
    (Limits.fields "max_concurrent_aware_clusters" "max_queued_transmit_messages" none <|
      .need "supported_cipher_suites" CipherSuites.schema <|
      .need "is_instant_communication_mode_supported" .boolean .done)
    ⟨fun values =>
      let (limits, ciphers, instant, ()) := Limits.ofValues values
      ⟨limits, ciphers, instant⟩,
     fun c => c.limits.toValues (c.ciphers, c.instant, ())⟩

end Capabilities

end NanAdapter
