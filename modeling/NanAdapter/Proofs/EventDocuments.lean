import NanAdapter.Proofs.Exactness
import NanAdapter.Proofs.TraceRoundTrip

/-! Events are decoded exactly. A document in plain form is decoded if its tag is one of those that there
are, every member that is needed is there, and every known member holds a value of its type. Nothing that
is known gets lost, and no number is changed. -/

namespace NanAdapter

/-- The width takes the integers between its bounds, each for the value that it is the integer of, and no
others. -/
structure Width.Spans (width : Width α) (low high : Int) : Prop where
  exact : width.Exact
  range : ∀ n, (∃ value, n = width.toInt value) ↔ low ≤ n ∧ n ≤ high

namespace Width

private theorem spans_of_natural {width : Width α} {limit : Nat} {make : Nat → α} {toNat : α → Nat}
    (takes : ∀ n, width.ofInt? n = if 0 ≤ n ∧ n < limit then some (make n.toNat) else none)
    (writes : ∀ value, width.toInt value = toNat value) (small : ∀ value, toNat value < limit)
    (made : ∀ value, make (toNat value) = value) (kept : ∀ {n}, n < limit → toNat (make n) = n) :
    width.Spans 0 (limit - 1) where
  exact {n value} := by
    rw [takes, writes]
    constructor
    · intro taken
      split at taken
      next range =>
        cases taken
        have same := kept (n := n.toNat) (by omega)
        omega
      next => cases taken
    · rintro rfl
      have range := small value
      rw [if_pos (by omega), Int.toNat_natCast, made]
  range n := by
    constructor
    · intro taken
      obtain ⟨value, rfl⟩ := taken
      have range := small value
      rw [writes]
      omega
    · intro within
      obtain ⟨low, high⟩ := within
      have same := kept (n := n.toNat) (by omega)
      exact ⟨make n.toNat, by rw [writes, same]; omega⟩

theorem u8_spans : u8.Spans 0 255 :=
  spans_of_natural (fun _ => rfl) (fun _ => rfl) UInt8.toNat_lt (fun _ => UInt8.ofNat_toNat) UInt8.toNat_ofNat_of_lt'

theorem u16_spans : u16.Spans 0 65535 :=
  spans_of_natural (fun _ => rfl) (fun _ => rfl) UInt16.toNat_lt (fun _ => UInt16.ofNat_toNat)
    UInt16.toNat_ofNat_of_lt'

theorem u32_spans : u32.Spans 0 4294967295 :=
  spans_of_natural (fun _ => rfl) (fun _ => rfl) UInt32.toNat_lt (fun _ => UInt32.ofNat_toNat)
    UInt32.toNat_ofNat_of_lt'

theorem i32_spans : i32.Spans (-2147483648) 2147483647 where
  exact {n value} := by
    constructor
    · intro taken
      simp only [i32] at taken ⊢
      split at taken
      next range =>
        cases taken
        exact (Int32.toInt_ofInt_of_le range.1 (Int.lt_add_one_of_le range.2)).symm
      next => cases taken
    · rintro rfl
      exact ofInt?_i32 value
  range n := by
    constructor
    · intro taken
      obtain ⟨value, rfl⟩ := taken
      exact ⟨value.minValue_le_toInt, value.toInt_le⟩
    · intro within
      obtain ⟨low, high⟩ := within
      exact ⟨Int32.ofInt n, (Int32.toInt_ofInt_of_le low (Int.lt_add_one_of_le high)).symm⟩

end Width

namespace Schema

theorem u8_exact : u8.Exact := integer_exact Width.u8_spans.exact

theorem u16_exact : u16.Exact := integer_exact Width.u16_spans.exact

theorem u32_exact : u32.Exact := integer_exact Width.u32_spans.exact

theorem i32_exact : i32.Exact := integer_exact Width.i32_spans.exact

theorem payload_exact : payload.Exact := optional_exact (list_exact u8_exact)

end Schema

section Types
open Schema Fields

theorem StatusCode.schema_exact : StatusCode.schema.Exact := via_exact (fun _ => rfl) u32_exact

theorem MacAddress.schema_exact : MacAddress.schema.Exact := via_exact (fun _ => rfl) (fixed_exact u8_exact)

/-! Records -/

theorem Status.schema_exact : Status.schema.Exact :=
  record_exact (by decide) (need_exact StatusCode.schema_exact <| may_exact text_exact rfl done_exact) fun _ => rfl

theorem ChannelRecord.schema_exact : ChannelRecord.schema.Exact :=
  record_exact (by decide) (need_exact u32_exact <| need_exact i32_exact <| need_exact u32_exact done_exact) fun _ => rfl

theorem ClusterReport.schema_exact : ClusterReport.schema.Exact :=
  record_exact (by decide) (need_exact u32_exact <| need_exact MacAddress.schema_exact done_exact) fun _ => rfl

theorem FollowUp.schema_exact : FollowUp.schema.Exact :=
  record_exact (by decide)
    (may_exact u8_exact rfl <| may_exact u32_exact rfl <| may_exact MacAddress.schema_exact rfl <|
      may_exact boolean_exact rfl <| may_exact payload_exact rfl done_exact)
    fun _ => rfl

theorem DataPathRequest.schema_exact : DataPathRequest.schema.Exact :=
  record_exact (by decide)
    (may_exact u8_exact rfl <| may_exact MacAddress.schema_exact rfl <| may_exact u32_exact rfl <|
      may_exact boolean_exact rfl <| may_exact payload_exact rfl done_exact)
    fun _ => rfl

theorem DataPathResult.schema_exact : DataPathResult.schema.Exact :=
  record_exact (by decide)
    (need_exact u32_exact <| need_exact boolean_exact <| need_exact MacAddress.schema_exact <|
      may_exact payload_exact rfl <| need_exact Status.schema_exact done_exact)
    fun _ => rfl

theorem ScheduleUpdate.schema_exact : ScheduleUpdate.schema.Exact :=
  record_exact (by decide) (need_exact MacAddress.schema_exact <| need_exact (list_exact u32_exact) done_exact)
    fun _ => rfl

theorem Limits.reported_exact {rest : Fields β σ} (exact : rest.Exact) : (Limits.reported rest).Exact :=
  may_exact u32_exact rfl <| may_exact u32_exact rfl <| may_exact u32_exact rfl <| may_exact u32_exact rfl <|
    may_exact u32_exact rfl <| may_exact u32_exact rfl <| may_exact u32_exact rfl <| may_exact u32_exact rfl <|
    may_exact u32_exact rfl <| may_exact u32_exact rfl <| may_exact u32_exact rfl <| may_exact u32_exact rfl <|
    may_exact u32_exact rfl exact

theorem BaseCapabilities.schema_exact : BaseCapabilities.schema.Exact :=
  record_exact (by decide) (Limits.reported_exact <| may_exact u32_exact rfl done_exact) fun _ => rfl

theorem InstantCapabilities.schema_exact : InstantCapabilities.schema.Exact :=
  record_exact (by decide) (may_exact BaseCapabilities.schema_exact rfl <| may_exact boolean_exact rfl done_exact)
    fun _ => rfl

theorem FlatCapabilities.schema_exact : FlatCapabilities.schema.Exact :=
  record_exact (by decide) (Limits.reported_exact <| may_exact u32_exact rfl <| may_exact boolean_exact rfl done_exact)
    fun _ => rfl

theorem Encounter.fields_exact {rest : Fields β σ} (exact : rest.Exact) : (Encounter.fields rest).Exact :=
  may_exact u8_exact rfl <| may_exact u32_exact rfl <| may_exact MacAddress.schema_exact rfl <|
    may_exact payload_exact rfl <| may_exact payload_exact rfl <| may_exact boolean_exact rfl <|
    may_exact boolean_exact rfl <| may_exact u8_exact rfl exact

theorem BaseMatch.schema_exact : BaseMatch.schema.Exact :=
  record_exact (by decide)
    (Encounter.fields_exact <| may_exact boolean_exact rfl <| may_exact u32_exact rfl <|
      may_exact u32_exact rfl done_exact)
    fun _ => rfl

theorem SecureMatch.schema_exact : SecureMatch.schema.Exact :=
  record_exact (by decide)
    (Encounter.fields_exact <| may_exact u32_exact rfl <| may_exact boolean_exact rfl <| may_exact u32_exact rfl <|
      may_exact u32_exact rfl <| may_exact payload_exact rfl done_exact)
    fun _ => rfl

/-! Reports -/

theorem CapabilityReport.schema_exact : CapabilityReport.schema.Exact := by
  refine adjacent_exact forms_lawful (by decide) ?_ ?_
  · intro form
    cases form with
    | v1_0 => exact BaseCapabilities.schema_exact
    | v1_5 => exact InstantCapabilities.schema_exact
    | v1_6 => exact FlatCapabilities.schema_exact
  · intro parts
    obtain ⟨form, record⟩ := parts
    cases form <;> rfl

theorem MatchReport.schema_exact : MatchReport.schema.Exact := by
  refine adjacent_exact forms_lawful (by decide) ?_ ?_
  · intro form
    cases form with
    | v1_0 => exact BaseMatch.schema_exact
    | v1_6 => exact SecureMatch.schema_exact
  · intro parts
    obtain ⟨form, record⟩ := parts
    cases form <;> rfl

theorem ChannelReport.schema_exact : ChannelReport.schema.Exact := by
  refine adjacent_exact forms_lawful (by decide) ?_ ?_
  · intro form
    exact optional_exact (list_exact ChannelRecord.schema_exact)
  · intro parts
    obtain ⟨form, records⟩ := parts
    cases form <;> rfl

/-! Events -/

theorem RequestKind.fields_exact (kind : RequestKind) : kind.fields.Exact := by
  cases kind with
  | capabilities => exact need_exact CapabilityReport.schema_exact done_exact
  | startPublish | startSubscribe => exact need_exact u8_exact done_exact
  | initiateDataPath => exact need_exact u32_exact done_exact
  | enable | config | disable | stopPublish | stopSubscribe | transmitFollowUp | createInterface | deleteInterface
  | respondToDataPath | terminateDataPath => exact done_exact

theorem IndicationKind.fields_exact (kind : IndicationKind) : kind.fields.Exact := by
  cases kind with
  | cluster => exact need_exact ClusterReport.schema_exact done_exact
  | disabled => exact need_exact Status.schema_exact done_exact
  | publishTerminated | subscribeTerminated => exact need_exact u8_exact <| need_exact Status.schema_exact done_exact
  | found => exact need_exact MatchReport.schema_exact done_exact
  | expired => exact need_exact u8_exact <| need_exact u32_exact done_exact
  | followUpReceived => exact need_exact FollowUp.schema_exact done_exact
  | followUpTransmitted => exact need_exact u16_exact <| need_exact Status.schema_exact done_exact
  | dataPathRequest => exact need_exact DataPathRequest.schema_exact done_exact
  | dataPathConfirm =>
    exact need_exact DataPathResult.schema_exact <|
      may_exact (optional_exact ChannelReport.schema_exact) rfl done_exact
  | dataPathTerminated => exact need_exact u32_exact done_exact
  | scheduleUpdate =>
    exact need_exact ScheduleUpdate.schema_exact <| need_exact ChannelReport.schema_exact done_exact

theorem EventKind.fields_exact (kind : EventKind) : kind.fields.Exact := by
  cases kind with
  | response request => exact need_exact u16_exact <| need_exact Status.schema_exact request.fields_exact
  | indication kind => exact kind.fields_exact

theorem EventKind.fields_distinct (kind : EventKind) : kind.fields.names.Nodup := by
  have lawful : kind.fields.Lawful (0 + 3) := kind.fields_lawful
  exact lawful.distinct

theorem Event.body_ofBody (parts : (kind : EventKind) × kind.Body) : body (ofBody parts) = parts := by
  obtain ⟨request | kind, parts⟩ := parts
  · cases request <;> rfl
  · cases kind <;> rfl

theorem Event.schema_decodes : Event.schema.Decodes Event.schema.ofJson :=
  tagged_decodes EventKind.names_lawful EventKind.fields_distinct EventKind.untagged EventKind.fields_exact
    Event.body_ofBody

end Types

/-! Texts -/

theorem Json.readText_eq_ok {read : Doc Break → Except Fault α} {text : String} {value : α} :
    readText read text = .ok value ↔
      read (scan deepest text.toList).1 = .ok value ∧ skipGap (scan deepest text.toList).2 = [] := by
  simp only [readText, bind_eq_ok]
  constructor
  · intro found
    obtain ⟨taken, held, ended⟩ := found
    split at ended
    next closed =>
      cases ended
      exact ⟨held, closed⟩
    next => cases ended
  · intro found
    obtain ⟨held, closed⟩ := found
    exact ⟨value, held, if_pos closed⟩

/-- A text is decoded as the document that it holds. -/
theorem Event.ofText_agrees {json : Json} (plain : schema.Plain json) {text : String} (holds : Json.ofText text = .ok json)
    (e : Event) : schema.ofText text = .ok e ↔ schema.ofJson json = .ok e := by
  obtain ⟨settled, closed⟩ := Json.readText_eq_ok.mp holds
  have same := Doc.lift_of_settle _ _ settled
  rw [Schema.ofText, Json.readText_eq_ok, and_iff_left closed, ← same]
  exact Schema.tagged_agrees EventKind.names_lawful EventKind.fields_distinct EventKind.untagged _ _ plain

/-- The words of a name in small letters, with lines between them. -/
def snakeCase (name : String) : String :=
  String.ofList ((name.toList.flatMap fun c => if c.isUpper then ['_', c.toLower] else [c]).drop 1)

theorem EventKind.tag_eq (kind : EventKind) : kind.tag = snakeCase kind.name := by
  rcases kind with request | kind
  · cases request <;> rfl
  · cases kind <;> rfl

/-- A document in plain form is decoded if its tag is the name of an event, every member that the event
needs is there, and every member that it knows holds a value of its type. -/
theorem events_are_decoded_exactly {json : Json} (plain : Event.schema.Plain json) :
    ((∃ e, Event.schema.ofJson json = .ok e) ↔
        ∃ kind ∈ EventKind.all, json.member? Event.tag = some (.str (snakeCase kind.name)) ∧ kind.fields.Admits json) ∧
      (∀ e, Event.schema.ofJson json = .ok e → Event.schema.Completes json (Event.schema.write e)) ∧
      (∀ text, Json.ofText text = .ok json →
        ∀ e, Event.schema.ofText text = .ok e ↔ Event.schema.ofJson json = .ok e) ∧
      EventKind.names.list.Nodup ∧ EventKind.names.list.length = 26 ∧ Width.u8.Spans 0 255 ∧ Width.u16.Spans 0 65535 ∧
      Width.u32.Spans 0 4294967295 ∧ Width.i32.Spans (-2147483648) 2147483647 := by
  refine ⟨?_, fun e => Event.schema_decodes.completes plain, fun text => Event.ofText_agrees plain, by decide, rfl,
    Width.u8_spans, Width.u16_spans, Width.u32_spans, Width.i32_spans⟩
  simp only [← EventKind.tag_eq]
  exact Event.schema_decodes.accepts plain

/-- The tag comes last, the vendor has added a member, and the status says nothing more. -/
theorem events_are_decoded_exactly_out_of_order :
    let document := Json.object
      [("status", .object [("status", .int 3), ("note", .null)]), ("event", .str "disabled")]
    Event.schema.Plain document ∧
      ∃ e, Event.schema.ofJson document = .ok e ∧ Event.schema.Completes document (Event.schema.write e) := by
  intro document
  have label : document.member? Event.tag = some (.str "disabled") := rfl
  have status : document.member? "status" = some (.object [("status", .int 3), ("note", .null)]) := rfl
  have plain : Event.schema.Plain document := by
    refine ⟨?_, ?_, ?_⟩
    · change ["status", "event"].Nodup
      decide
    · intro tag found
      rw [label] at found
      exact ⟨"disabled", (Option.some.inj found).symm⟩
    · intro kind found
      rw [label] at found
      have known : EventKind.names.find? "disabled" = some kind :=
        (Names.find?_eq_some EventKind.names_lawful).mpr (Doc.str.inj (Option.some.inj found))
      cases known
      refine ⟨fun given found => ?_, trivial⟩
      rw [status] at found
      cases found
      refine ⟨?_, fun _ _ => trivial, fun _ _ => trivial, trivial⟩
      change ["status", "note"].Nodup
      decide
  have admitted : (EventKind.fields (.indication .disabled)).Admits document := by
    refine ⟨?_, trivial⟩
    rw [status]
    exact ⟨⟨_, rfl⟩, ⟨3, rfl⟩, rfl, trivial⟩
  obtain ⟨accepts, completes, -⟩ := events_are_decoded_exactly plain
  obtain ⟨e, decoded⟩ := accepts.mpr ⟨.indication .disabled, by decide, label, admitted⟩
  exact ⟨plain, e, decoded, completes e decoded⟩

end NanAdapter
