import NanAdapter.Proofs.SchemaLaws
import NanAdapter.Replay.Trace

/-! What is both written and read comes back, and so do whole traces. A schema only has to be lawful;
none of them opens more than five arrays and objects at once. -/

namespace NanAdapter

namespace Width

theorem u8_lawful : u8.Lawful :=
  lawful_of_natural (fun _ => rfl) ofInt?_u8 fun value => Nat.lt_of_lt_of_le value.toNat_lt (by decide)

theorem u16_lawful : u16.Lawful :=
  lawful_of_natural (fun _ => rfl) ofInt?_u16 fun value => Nat.lt_of_lt_of_le value.toNat_lt (by decide)

theorem u32_lawful : u32.Lawful :=
  lawful_of_natural (fun _ => rfl) ofInt?_u32 fun value => Nat.lt_of_lt_of_le value.toNat_lt (by decide)

theorem i32_lawful : i32.Lawful := by
  intro value
  have least : -(UInt32.size : Int) ≤ 2 * value.toInt := by
    have bound := value.le_toInt
    have size : UInt32.size = 2 * 2147483648 := rfl
    omega
  have greatest : 2 * value.toInt < UInt32.size := by
    have bound := value.toInt_lt
    have size : UInt32.size = 2 * 2147483648 := rfl
    omega
  have wider : UInt32.size ≤ UInt64.size := by decide
  refine ⟨ofInt?_i32 value, ?_, ?_⟩
  · change -(UInt64.size : Int) ≤ 2 * value.toInt
    omega
  · change value.toInt < UInt64.size
    omega

end Width

namespace Schema
variable {room : Nat}

theorem u8_lawful : u8.Lawful room := integer_lawful Width.u8_lawful
theorem u16_lawful : u16.Lawful room := integer_lawful Width.u16_lawful
theorem u32_lawful : u32.Lawful room := integer_lawful Width.u32_lawful
theorem i32_lawful : i32.Lawful room := integer_lawful Width.i32_lawful

theorem payload_lawful : payload.Lawful (room + 1) :=
  optional_lawful (fun _ written => nomatch written) (list_lawful u8_lawful)

end Schema

open Schema

section Types
variable {room : Nat}

/-! Types whose documents are names and numbers -/

theorem Revision.names_lawful : Revision.names.Lawful := by
  refine Names.lawful_of_nodup ?_ (by decide)
  intro revision
  cases revision <;> decide

theorem Revision.schema_lawful : Revision.schema.Lawful room := symbol_lawful Revision.names_lawful

theorem Bandwidth.schema_lawful : Bandwidth.schema.Lawful room := by
  refine symbol_lawful (Names.lawful_of_nodup ?_ (by decide))
  intro bandwidth
  cases bandwidth <;> decide

theorem StatusCode.schema_lawful : StatusCode.schema.Lawful room := via_lawful (fun _ => rfl) u32_lawful

theorem CipherSuites.schema_lawful : CipherSuites.schema.Lawful room := via_lawful (fun _ => rfl) u32_lawful

theorem MacAddress.schema_lawful : MacAddress.schema.Lawful (room + 1) :=
  via_lawful (fun _ => rfl) (fixed_lawful u8_lawful)

/-! Records -/

theorem Status.schema_lawful : Status.schema.Lawful (room + 1) :=
  record_lawful ⟨by decide, StatusCode.schema_lawful, text_lawful, trivial⟩ fun _ => rfl

theorem ChannelRecord.schema_lawful : ChannelRecord.schema.Lawful (room + 1) :=
  record_lawful ⟨by decide, u32_lawful, i32_lawful, u32_lawful, trivial⟩ fun _ => rfl

theorem Channel.schema_lawful : Channel.schema.Lawful (room + 1) :=
  record_lawful ⟨by decide, u32_lawful, Bandwidth.schema_lawful, u32_lawful, trivial⟩ fun _ => rfl

theorem ClusterReport.schema_lawful : ClusterReport.schema.Lawful (room + 2) :=
  record_lawful ⟨by decide, u32_lawful, MacAddress.schema_lawful, trivial⟩ fun _ => rfl

theorem FollowUp.schema_lawful : FollowUp.schema.Lawful (room + 2) :=
  record_lawful ⟨by decide, u8_lawful, u32_lawful, MacAddress.schema_lawful, boolean_lawful, payload_lawful, trivial⟩
    fun _ => rfl

theorem DataPathRequest.schema_lawful : DataPathRequest.schema.Lawful (room + 2) :=
  record_lawful ⟨by decide, u8_lawful, MacAddress.schema_lawful, u32_lawful, boolean_lawful, payload_lawful, trivial⟩
    fun _ => rfl

theorem DataPathResult.schema_lawful : DataPathResult.schema.Lawful (room + 2) :=
  record_lawful
    ⟨by decide, u32_lawful, boolean_lawful, MacAddress.schema_lawful, payload_lawful, Status.schema_lawful, trivial⟩
    fun _ => rfl

theorem ScheduleUpdate.schema_lawful : ScheduleUpdate.schema.Lawful (room + 2) :=
  record_lawful ⟨by decide, MacAddress.schema_lawful, list_lawful u32_lawful, trivial⟩ fun _ => rfl

theorem Limits.fields_each {clusters queuedMessages : String} {default : Option UInt32} {rest : Fields β σ}
    (each : rest.Each room) : (Limits.fields clusters queuedMessages default rest).Each room :=
  ⟨u32_lawful, u32_lawful, u32_lawful, u32_lawful, u32_lawful, u32_lawful, u32_lawful, u32_lawful, u32_lawful, u32_lawful,
    u32_lawful, u32_lawful, u32_lawful, each⟩

theorem Capabilities.schema_lawful : Capabilities.schema.Lawful (room + 1) :=
  record_lawful ⟨by decide, Limits.fields_each ⟨CipherSuites.schema_lawful, boolean_lawful, trivial⟩⟩ fun _ => rfl

theorem BaseCapabilities.schema_lawful : BaseCapabilities.schema.Lawful (room + 1) :=
  record_lawful ⟨by decide, Limits.fields_each ⟨u32_lawful, trivial⟩⟩ fun _ => rfl

theorem InstantCapabilities.schema_lawful : InstantCapabilities.schema.Lawful (room + 2) :=
  record_lawful ⟨by decide, BaseCapabilities.schema_lawful, boolean_lawful, trivial⟩ fun _ => rfl

theorem FlatCapabilities.schema_lawful : FlatCapabilities.schema.Lawful (room + 1) :=
  record_lawful ⟨by decide, Limits.fields_each ⟨u32_lawful, boolean_lawful, trivial⟩⟩ fun _ => rfl

theorem Encounter.fields_each {rest : Fields β σ} (each : rest.Each (room + 1)) :
    (Encounter.fields rest).Each (room + 1) :=
  ⟨u8_lawful, u32_lawful, MacAddress.schema_lawful, payload_lawful, payload_lawful, boolean_lawful, boolean_lawful,
    u8_lawful, each⟩

theorem BaseMatch.schema_lawful : BaseMatch.schema.Lawful (room + 2) :=
  record_lawful ⟨by decide, Encounter.fields_each ⟨boolean_lawful, u32_lawful, u32_lawful, trivial⟩⟩ fun _ => rfl

theorem SecureMatch.schema_lawful : SecureMatch.schema.Lawful (room + 2) :=
  record_lawful
    ⟨by decide, Encounter.fields_each ⟨u32_lawful, boolean_lawful, u32_lawful, u32_lawful, payload_lawful, trivial⟩⟩
    fun _ => rfl

/-! Reports, one form for each revision that has its own -/

theorem CapabilityReport.forms_lawful : Names.Lawful ⟨[.v1_0, .v1_5, .v1_6], Form.name⟩ := by
  refine Names.lawful_of_nodup ?_ (by decide)
  intro form
  cases form <;> decide

theorem MatchReport.forms_lawful : Names.Lawful ⟨[.v1_0, .v1_6], Form.name⟩ := by
  refine Names.lawful_of_nodup ?_ (by decide)
  intro form
  cases form <;> decide

theorem ChannelReport.forms_lawful : Names.Lawful ⟨[.v1_2, .v1_6], Form.name⟩ := by
  refine Names.lawful_of_nodup ?_ (by decide)
  intro form
  cases form <;> decide

theorem CapabilityReport.schema_lawful : CapabilityReport.schema.Lawful (room + 3) := by
  refine adjacent_lawful forms_lawful (by decide) ?_ ?_
  · intro form
    cases form with
    | v1_0 => exact BaseCapabilities.schema_lawful
    | v1_5 => exact InstantCapabilities.schema_lawful
    | v1_6 => exact FlatCapabilities.schema_lawful
  · intro report
    cases report <;> rfl

theorem MatchReport.schema_lawful : MatchReport.schema.Lawful (room + 3) := by
  refine adjacent_lawful forms_lawful (by decide) ?_ ?_
  · intro form
    cases form with
    | v1_0 => exact BaseMatch.schema_lawful
    | v1_6 => exact SecureMatch.schema_lawful
  · intro report
    cases report <;> rfl

theorem ChannelReport.schema_lawful : ChannelReport.schema.Lawful (room + 3) := by
  refine adjacent_lawful forms_lawful (by decide) ?_ ?_
  · intro form
    exact optional_lawful (fun _ written => nomatch written) (list_lawful ChannelRecord.schema_lawful)
  · intro report
    cases report <;> rfl

/-! Events -/

theorem RequestKind.fields_each (kind : RequestKind) : kind.fields.Each (room + 3) := by
  cases kind with
  | capabilities => exact ⟨CapabilityReport.schema_lawful, trivial⟩
  | startPublish => exact ⟨u8_lawful, trivial⟩
  | startSubscribe => exact ⟨u8_lawful, trivial⟩
  | initiateDataPath => exact ⟨u32_lawful, trivial⟩
  | _ => exact trivial

theorem IndicationKind.fields_lawful (kind : IndicationKind) : kind.fields.Lawful (room + 3) := by
  cases kind with
  | cluster => exact ⟨by decide, ClusterReport.schema_lawful, trivial⟩
  | disabled => exact ⟨by decide, Status.schema_lawful, trivial⟩
  | publishTerminated => exact ⟨by decide, u8_lawful, Status.schema_lawful, trivial⟩
  | subscribeTerminated => exact ⟨by decide, u8_lawful, Status.schema_lawful, trivial⟩
  | found => exact ⟨by decide, MatchReport.schema_lawful, trivial⟩
  | expired => exact ⟨by decide, u8_lawful, u32_lawful, trivial⟩
  | followUpReceived => exact ⟨by decide, FollowUp.schema_lawful, trivial⟩
  | followUpTransmitted => exact ⟨by decide, u16_lawful, Status.schema_lawful, trivial⟩
  | dataPathRequest => exact ⟨by decide, DataPathRequest.schema_lawful, trivial⟩
  | dataPathConfirm =>
    exact ⟨by decide, DataPathResult.schema_lawful,
      optional_lawful (fun _ written => nomatch written) ChannelReport.schema_lawful, trivial⟩
  | dataPathTerminated => exact ⟨by decide, u32_lawful, trivial⟩
  | scheduleUpdate => exact ⟨by decide, ScheduleUpdate.schema_lawful, ChannelReport.schema_lawful, trivial⟩

theorem EventKind.fields_lawful (kind : EventKind) : kind.fields.Lawful (room + 3) := by
  cases kind with
  | response request =>
    refine ⟨?_, u16_lawful, Status.schema_lawful, request.fields_each⟩
    cases request <;> decide
  | indication kind => exact kind.fields_lawful

theorem EventKind.untagged (kind : EventKind) : Event.tag ∉ kind.fields.names := by
  rcases kind with request | kind
  · cases request <;> decide
  · cases kind <;> decide

theorem EventKind.names_lawful : EventKind.names.Lawful := by
  refine Names.lawful_of_nodup ?_ (by decide)
  rintro (request | kind)
  · cases request <;> decide
  · cases kind <;> decide

theorem Event.schema_lawful : Event.schema.Lawful (room + 4) :=
  tagged_lawful EventKind.names_lawful EventKind.fields_lawful EventKind.untagged ofBody_body

theorem Trace.schema_lawful : Trace.schema.Lawful (room + 5) := list_lawful Event.schema_lawful

end Types

/-- Nothing is lost when a trace, or a value of any type that is both written and read, is written and
read again. -/
theorem decoding_undoes_encoding :
    (∀ events, Trace.ofText (Trace.text events) = .ok events) ∧ Event.schema.Recovers ∧
      Revision.schema.Recovers ∧ StatusCode.schema.Recovers ∧ Status.schema.Recovers ∧ MacAddress.schema.Recovers ∧
      ChannelRecord.schema.Recovers ∧ ChannelReport.schema.Recovers ∧ CapabilityReport.schema.Recovers ∧
      MatchReport.schema.Recovers ∧ Bandwidth.schema.Recovers ∧ Channel.schema.Recovers ∧
      CipherSuites.schema.Recovers ∧ Capabilities.schema.Recovers ∧ BaseCapabilities.schema.Recovers ∧
      InstantCapabilities.schema.Recovers ∧ FlatCapabilities.schema.Recovers ∧ BaseMatch.schema.Recovers ∧
      SecureMatch.schema.Recovers ∧ ClusterReport.schema.Recovers ∧ FollowUp.schema.Recovers ∧
      DataPathRequest.schema.Recovers ∧ DataPathResult.schema.Recovers ∧ ScheduleUpdate.schema.Recovers := by
  refine ⟨?_, Event.schema_lawful.recovers, Revision.schema_lawful.recovers, StatusCode.schema_lawful.recovers,
    Status.schema_lawful.recovers, MacAddress.schema_lawful.recovers, ChannelRecord.schema_lawful.recovers,
    ChannelReport.schema_lawful.recovers, CapabilityReport.schema_lawful.recovers, MatchReport.schema_lawful.recovers,
    Bandwidth.schema_lawful.recovers, Channel.schema_lawful.recovers, CipherSuites.schema_lawful.recovers,
    Capabilities.schema_lawful.recovers, BaseCapabilities.schema_lawful.recovers,
    InstantCapabilities.schema_lawful.recovers, FlatCapabilities.schema_lawful.recovers,
    BaseMatch.schema_lawful.recovers, SecureMatch.schema_lawful.recovers, ClusterReport.schema_lawful.recovers,
    FollowUp.schema_lawful.recovers, DataPathRequest.schema_lawful.recovers, DataPathResult.schema_lawful.recovers,
    ScheduleUpdate.schema_lawful.recovers⟩
  intro events
  rw [Trace.ofText, Trace.text, Trace.schema_lawful.recovers.text events]
  rfl

end NanAdapter
