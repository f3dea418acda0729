import NanAdapter.CipherSuites
import NanAdapter.MacAddress
import NanAdapter.Revision

/-! Discovery of a peer: the indications that the HAL sends, and the form that everyone else sees.
-/

namespace NanAdapter

/-- Octets that a peer has sent. No payload is something else than an empty one. -/
abbrev Payload := Option (List UInt8)

/-- What an indication says about the peer in every revision. -/
structure Encounter where
  session : UInt8
  peer : UInt32
  address : MacAddress
  serviceInfo : Payload
  filter : Payload
  inBeacon : Bool
  outOfResource : Bool
  signal : UInt8
  deriving DecidableEq, Repr

namespace Encounter

abbrev Values (β : Type) : Type := UInt8 × UInt32 × MacAddress × Payload × Payload × Bool × Bool × UInt8 × β

abbrev Slots (σ : Type) : Type :=
  Option UInt8 × Option UInt32 × Option MacAddress × Option Payload × Option Payload × Option Bool × Option Bool ×
    Option UInt8 × σ

def ofValues : Values β → Encounter × β
  | (a, b, c, d, e, f, g, h, rest) => (⟨a, b, c, d, e, f, g, h⟩, rest)

def toValues (e : Encounter) (rest : β) : Values β :=
  (e.session, e.peer, e.address, e.serviceInfo, e.filter, e.inBeacon, e.outOfResource, e.signal, rest)

def fields (rest : Fields β σ) : Fields (Values β) (Slots σ) :=
  .may "discovery_session_id" .u8 0 <|
  .may "peer_id" .u32 0 <|
  .may "addr" MacAddress.schema .zero <|
  .may "service_specific_info" .payload none <|
  .may "match_filter" .payload none <|
  .may "match_occured_in_beacon_flag" .boolean false <|
  .may "out_of_resource_flag" .boolean false <|
  .may "rssi_value" .u8 0 rest

end Encounter

/-- The indication of the first revision, with the distance in centimeters. -/
structure BaseMatch where
  encounter : Encounter
  requiresRanging : Bool
  ranging : UInt32
  centimeters : UInt32
  deriving DecidableEq, Repr

def BaseMatch.schema : Schema BaseMatch :=
  .record "NanMatchInd"
    (Encounter.fields <|
      .may "peer_requires_ranging" .boolean false <|
      .may "ranging_indication_type" .u32 0 <|
      .may "ranging_measurement_in_cm" .u32 0 .done)
    ⟨fun values =>
      let (encounter, requiresRanging, ranging, centimeters, ()) := Encounter.ofValues values
      ⟨encounter, requiresRanging, ranging, centimeters⟩,
     fun m => m.encounter.toValues (m.requiresRanging, m.ranging, m.centimeters, ())⟩

/-- The indication of revision 1.6, with the distance in millimeters, the peer's cipher suites and
its security context. -/
structure SecureMatch where
  encounter : Encounter
  cipherMask : UInt32
  requiresRanging : Bool
  ranging : UInt32
  millimeters : UInt32
  securityContext : Payload
  deriving DecidableEq, Repr

def SecureMatch.schema : Schema SecureMatch :=
  .record "NanMatchIndV1_6"
    (Encounter.fields <|
      .may "peer_cipher_type" .u32 0 <|
      .may "peer_requires_ranging" .boolean false <|
      .may "ranging_indication_type" .u32 0 <|
      .may "ranging_measurement_in_mm" .u32 0 <|
      .may "scid" .payload none .done)
    ⟨fun values =>
      let (encounter, cipherMask, requiresRanging, ranging, millimeters, context, ()) := Encounter.ofValues values
      ⟨encounter, cipherMask, requiresRanging, ranging, millimeters, context⟩,
     fun m => m.encounter.toValues
      (m.cipherMask, m.requiresRanging, m.ranging, m.millimeters, m.securityContext, ())⟩

/-- A match as one revision of the HAL indicates it. -/
inductive MatchReport where
  | v1_0 (record : BaseMatch)
  | v1_6 (record : SecureMatch)
  deriving DecidableEq, Repr

namespace MatchReport

def revision : MatchReport → Revision
  | .v1_0 _ => .v1_0
  | .v1_6 _ => .v1_6

/-- The revisions that have an indication of their own. -/
inductive Form where
  | v1_0
  | v1_6
  deriving DecidableEq, Repr

namespace Form

def name : Form → String
  | .v1_0 => "1.0"
  | .v1_6 => "1.6"

def Record : Form → Type
  | .v1_0 => BaseMatch
  | .v1_6 => SecureMatch

def schema : (form : Form) → Schema form.Record
  | .v1_0 => BaseMatch.schema
  | .v1_6 => SecureMatch.schema

end Form

def schema : Schema MatchReport :=
  .adjacent "RawMatch" "revision" "record" ⟨[.v1_0, .v1_6], Form.name⟩ Form.schema
    ⟨fun
      | ⟨.v1_0, record⟩ => .v1_0 record
      | ⟨.v1_6, record⟩ => .v1_6 record,
     fun
      | .v1_0 record => ⟨.v1_0, record⟩
      | .v1_6 record => ⟨.v1_6, record⟩⟩

end MatchReport

structure Match where
  session : UInt8
  peer : UInt32
  address : MacAddress
  serviceInfo : Payload
  filter : Payload
  ranging : UInt32
  millimeters : UInt32
  securityContext : Payload
  ciphers : CipherSuites
  deriving DecidableEq, Repr

namespace Match

/-- A distance that is too long for millimeters is the longest there is. -/
def toMillimeters (centimeters : UInt32) : UInt32 :=
  UInt32.ofNat (min (10 * centimeters.toNat) (UInt32.size - 1))

/-- The first revision knows neither cipher suites nor security contexts, so both are empty. -/
def ofReport : MatchReport → Match
  | .v1_0 ⟨e, _, ranging, centimeters⟩ =>
    ⟨e.session, e.peer, e.address, e.serviceInfo, e.filter, ranging, toMillimeters centimeters, some [], .none⟩
  | .v1_6 ⟨e, mask, _, ranging, millimeters, context⟩ =>
    ⟨e.session, e.peer, e.address, e.serviceInfo, e.filter, ranging, millimeters, context, .ofMask mask⟩

abbrev Values : Type :=
  UInt8 × UInt32 × MacAddress × Payload × Payload × UInt32 × UInt32 × Payload × CipherSuites × Unit

abbrev Slots : Type :=
  Option UInt8 × Option UInt32 × Option MacAddress × Option Payload × Option Payload × Option UInt32 ×
    Option UInt32 × Option Payload × Option CipherSuites × Unit

def fields : Fields Values Slots :=
  .need "discovery_session_id" .u8 <|
  .need "peer_id" .u32 <|
  .need "peer_addr" MacAddress.schema <|
  .need "service_specific_info" .payload <|
  .need "match_filter" .payload <|
  .need "ranging_indication" .u32 <|
  .need "ranging_measurement_mm" .u32 <|
  .need "scid" .payload <|
  .need "peer_cipher_suites" CipherSuites.schema .done

def ofValues : Values → Match
  | (a, b, c, d, e, f, g, h, i, ()) => ⟨a, b, c, d, e, f, g, h, i⟩

def toValues (m : Match) : Values :=
  (m.session, m.peer, m.address, m.serviceInfo, m.filter, m.ranging, m.millimeters, m.securityContext, m.ciphers, ())

def schema : Schema Match := .record "MatchNotification" fields ⟨ofValues, toValues⟩

end Match

end NanAdapter
