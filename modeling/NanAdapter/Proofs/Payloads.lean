import NanAdapter.Proofs.Announcements
import NanAdapter.Proofs.DocumentParts
import NanAdapter.Proofs.DocumentTexts
import NanAdapter.Proofs.NotificationLines

/-! Payloads on their way from the text of an event to the line of a notification. They are passed on octet by octet. A
payload that is empty stays empty, and one that is missing or null is null. -/

namespace NanAdapter

namespace Schema

theorem write_octets {parts others : List Json} (same : List.Forall₂ u8.Completes parts others) : others = parts := by
  induction same with
  | nil => rfl
  | cons here _ ih =>
    have equal : _ = _ := here
    rw [equal, ih]

/-- A payload is null or an array of octets, and is written as it was read. -/
theorem write_payload {json : Json} {payload : Payload} (held : Schema.payload.held json = .ok payload) :
    Schema.payload.write payload = json := by
  have plain : Schema.payload.Plain json := fun _ _ => trivial
  rcases payload_exact.completes plain held with ⟨given, written⟩ | ⟨-, parts, others, given, written, same⟩
  · rw [written, given]
  · rw [written, given, write_octets same]

/-- A payload that may be missing is null where it is. -/
theorem write_payload_of_takes {json : Json} {name : String} {index place : Nat} {payload : Payload}
    (placed : index = place)
    (takes : match json.part? name index with
      | some given => Schema.payload.held given = .ok payload
      | none => some none = some payload) :
    Schema.payload.write payload = (json.part? name place).getD .null := by
  rw [← placed]
  cases found : json.part? name index with
  | none =>
    rw [found] at takes
    cases takes
    rfl
  | some given =>
    rw [found] at takes
    exact write_payload takes

end Schema

namespace Json

/-- What a path leads to. Each step goes to the member of a name, or to the element in its place. -/
def at? (json : Json) : List (String × Nat) → Option Json
  | [] => some json
  | (name, place) :: rest => (json.part? name place).bind fun part => part.at? rest

end Json

theorem Event.takes_of_ofText {text : String} {e : Event} (read : schema.ofText text = .ok e) :
    ∃ given, Json.ofText text = .ok given ∧
      e.body.1.fields.Takes (fun name => given.part? name (e.body.1.fields.names.idxOf name + 1)) e.body.2 := by
  obtain ⟨given, holds, read⟩ := (Schema.ofText_eq_ok settles).mp read
  obtain ⟨k, values, takes, whole⟩ := Schema.takes_of_read_tagged EventKind.fields_distinct EventKind.untagged read
  have parts := body_ofBody ⟨k, values⟩
  have same : e.body = ⟨k, values⟩ := by
    rw [← whole]
    exact parts
  rw [same]
  exact ⟨given, holds, takes⟩

/-- A member that is needed has been read from its part of the document. -/
theorem Schema.part_of_takes {schema : Schema α} {json : Json} {name : String} {index place : Nat} {value : α}
    (placed : index = place)
    (takes : match json.part? name index with
      | some given => schema.held given = .ok value
      | none => none = some value) :
    ∃ part, json.part? name place = some part ∧ schema.held part = .ok value := by
  rw [← placed]
  cases found : json.part? name index with
  | none =>
    rw [found] at takes
    cases takes
  | some given =>
    rw [found] at takes
    exact ⟨given, rfl, takes⟩

/-! Where the records have their payloads -/

theorem BaseMatch.payloads_of_held {json : Json} {m : BaseMatch} (held : schema.held json = .ok m) :
    Schema.payload.write m.encounter.serviceInfo = (json.part? "service_specific_info" 3).getD .null ∧
      Schema.payload.write m.encounter.filter = (json.part? "match_filter" 4).getD .null := by
  obtain ⟨values, takes, rfl⟩ := Schema.takes_of_held_record (by decide) held
  obtain ⟨-, -, -, info, filter, -⟩ := takes
  exact ⟨Schema.write_payload_of_takes (by decide) info, Schema.write_payload_of_takes (by decide) filter⟩

theorem SecureMatch.payloads_of_held {json : Json} {m : SecureMatch} (held : schema.held json = .ok m) :
    Schema.payload.write m.encounter.serviceInfo = (json.part? "service_specific_info" 3).getD .null ∧
      Schema.payload.write m.encounter.filter = (json.part? "match_filter" 4).getD .null ∧
      Schema.payload.write m.securityContext = (json.part? "scid" 12).getD .null := by
  obtain ⟨values, takes, rfl⟩ := Schema.takes_of_held_record (by decide) held
  obtain ⟨-, -, -, info, filter, -, -, -, -, -, -, -, context, -⟩ := takes
  exact ⟨Schema.write_payload_of_takes (by decide) info, Schema.write_payload_of_takes (by decide) filter,
    Schema.write_payload_of_takes (by decide) context⟩

theorem FollowUp.payload_of_held {json : Json} {m : FollowUp} (held : schema.held json = .ok m) :
    Schema.payload.write m.serviceInfo = (json.part? "service_specific_info" 4).getD .null := by
  obtain ⟨values, takes, rfl⟩ := Schema.takes_of_held_record (by decide) held
  obtain ⟨-, -, -, -, info, -⟩ := takes
  exact Schema.write_payload_of_takes (by decide) info

theorem DataPathRequest.payload_of_held {json : Json} {r : DataPathRequest} (held : schema.held json = .ok r) :
    Schema.payload.write r.appInfo = (json.part? "app_info" 4).getD .null := by
  obtain ⟨values, takes, rfl⟩ := Schema.takes_of_held_record (by decide) held
  obtain ⟨-, -, -, -, info, -⟩ := takes
  exact Schema.write_payload_of_takes (by decide) info

theorem DataPathResult.payload_of_held {json : Json} {r : DataPathResult} (held : schema.held json = .ok r) :
    Schema.payload.write r.appInfo = (json.part? "app_info" 3).getD .null := by
  obtain ⟨values, takes, rfl⟩ := Schema.takes_of_held_record (by decide) held
  obtain ⟨-, -, -, info, -⟩ := takes
  exact Schema.write_payload_of_takes (by decide) info

/-- The record of a match stands beside the revision that it is of. -/
theorem MatchReport.record_of_held {json : Json} {report : MatchReport} (held : schema.held json = .ok report) :
    ∃ record, json.part? "record" 1 = some record ∧
      match report with
      | .v1_0 m => BaseMatch.schema.held record = .ok m
      | .v1_6 m => SecureMatch.schema.held record = .ok m := by
  have present (form : Form) : form.schema.absent? = none := by
    cases form <;> rfl
  obtain ⟨form, record, body, found, read, rfl⟩ := Schema.content_of_held_adjacent (by decide) present held
  cases form with
  | v1_0 => exact ⟨record, found, read⟩
  | v1_6 => exact ⟨record, found, read⟩

/-! From one document to the other -/

/-- Where a payload stands in the document of an event, and which member of the notification it is passed on to. -/
structure Passage where
  path : List (String × Nat)
  target : String

/-- What stands there is passed on as it is: nothing and null as null, and octets as the same octets. -/
structure Passage.Passes (passage : Passage) (given written : Json) : Prop where
  same : written.member? passage.target = some ((given.at? passage.path).getD .null)
  octets : given.at? passage.path = none ∨ given.at? passage.path = some .null ∨
    ∃ octets : List UInt8, given.at? passage.path = some (.array (octets.map fun octet => .nat octet.toNat))

theorem Passage.passes {passage : Passage} {given written : Json} {payload : Payload}
    (found : Schema.payload.write payload = (given.at? passage.path).getD .null)
    (put : written.member? passage.target = some (Schema.payload.write payload)) : passage.Passes given written := by
  refine ⟨by rw [put, found], ?_⟩
  cases part : given.at? passage.path with
  | none => exact .inl rfl
  | some json =>
    rw [part] at found
    change Schema.payload.write payload = json at found
    rw [← found]
    cases payload with
    | none => exact .inr (.inl rfl)
    | some octets => exact .inr (.inr ⟨octets, rfl⟩)

namespace Event

/-- The kinds of events that bring payloads. -/
def payloadKinds : List EventKind :=
  [.indication .found, .indication .followUpReceived, .indication .dataPathRequest, .indication .dataPathConfirm]

/-- The payloads of an event. Those of a match keep their names. -/
def passages : Event → List Passage
  | .indication (.found (.v1_0 _)) =>
    [⟨[("indication", 1), ("record", 1), ("service_specific_info", 3)], "service_specific_info"⟩,
      ⟨[("indication", 1), ("record", 1), ("match_filter", 4)], "match_filter"⟩]
  | .indication (.found (.v1_6 _)) =>
    [⟨[("indication", 1), ("record", 1), ("service_specific_info", 3)], "service_specific_info"⟩,
      ⟨[("indication", 1), ("record", 1), ("match_filter", 4)], "match_filter"⟩,
      ⟨[("indication", 1), ("record", 1), ("scid", 12)], "scid"⟩]
  | .indication (.followUpReceived _) => [⟨[("indication", 1), ("service_specific_info", 4)], "message"⟩]
  | .indication (.dataPathRequest _) => [⟨[("indication", 1), ("app_info", 4)], "app_info"⟩]
  | .indication (.dataPathConfirm ..) => [⟨[("indication", 1), ("app_info", 3)], "app_info"⟩]
  | _ => []

/-- The same event without any payload. -/
def bare : Event → Event
  | .indication (.found (.v1_0 m)) =>
    .indication (.found (.v1_0 { m with encounter := { m.encounter with serviceInfo := none, filter := none } }))
  | .indication (.found (.v1_6 m)) =>
    .indication (.found (.v1_6 { m with
      encounter := { m.encounter with serviceInfo := none, filter := none }
      securityContext := none }))
  | .indication (.followUpReceived m) => .indication (.followUpReceived { m with serviceInfo := none })
  | .indication (.dataPathRequest r) => .indication (.dataPathRequest { r with appInfo := none })
  | .indication (.dataPathConfirm r channels) => .indication (.dataPathConfirm { r with appInfo := none } channels)
  | e => e

end Event

namespace Json
variable {json part : Json} {name : String} {place : Nat}

theorem at?_cons (found : json.part? name place = some part) (rest : List (String × Nat)) :
    json.at? ((name, place) :: rest) = part.at? rest := by
  rw [at?, found]
  rfl

theorem at?_single (json : Json) (name : String) (place : Nat) : json.at? [(name, place)] = json.part? name place := by
  rw [at?]
  exact Option.bind_fun_some _

/-- Members of other names make no difference, whatever they hold. -/
theorem member?_congr {given other : List (String × Json)}
    (same : List.Forall₂ (fun member other => member.1 = other.1 ∧ (member.1 = name → member.2 = other.2))
      given other) :
    (object given).member? name = (object other).member? name := by
  have kept : named name given = named name other := by
    induction same with
    | nil => rfl
    | @cons member other _ _ alike _ ih =>
      obtain ⟨key, json⟩ := member
      obtain ⟨_, json'⟩ := other
      obtain ⟨rfl, alike⟩ := alike
      by_cases here : key = name
      · have equal : json = json' := alike here
        rw [here, named_same, named_same, ih, equal]
      · rw [named_other here, named_other here, ih]
  rw [member?_named, member?_named, kept]

end Json

namespace Notification

/-- The line of a notification holds its document. -/
theorem ofText_line_document (n : Notification) : Json.ofText n.line = .ok (schema.write n) :=
  Json.ofText_text (schema_lawful.fits n)

/-! The members of the notifications that have payloads -/

theorem write_found (m : Match) : schema.write (.found m) = Json.object
    [("notification", .str "match"), ("discovery_session_id", Schema.u8.write m.session),
      ("peer_id", Schema.u32.write m.peer), ("peer_addr", MacAddress.schema.write m.address),
      ("service_specific_info", Schema.payload.write m.serviceInfo), ("match_filter", Schema.payload.write m.filter),
      ("ranging_indication", Schema.u32.write m.ranging), ("ranging_measurement_mm", Schema.u32.write m.millimeters),
      ("scid", Schema.payload.write m.securityContext), ("peer_cipher_suites", CipherSuites.schema.write m.ciphers)] :=
  rfl

theorem write_messageReceived (session : UInt8) (peer : UInt32) (address : MacAddress) (message : Payload) :
    schema.write (.messageReceived session peer address message) = Json.object
      [("notification", .str "message_received"), ("discovery_session_id", Schema.u8.write session),
        ("peer_id", Schema.u32.write peer), ("peer_addr", MacAddress.schema.write address),
        ("message", Schema.payload.write message)] := rfl

theorem write_dataPathRequest (session : UInt8) (address : MacAddress) (path : UInt32) (appInfo : Payload) :
    schema.write (.dataPathRequest session address path appInfo) = Json.object
      [("notification", .str "data_path_request"), ("discovery_session_id", Schema.u8.write session),
        ("peer_disc_mac_addr", MacAddress.schema.write address), ("ndp_instance_id", Schema.u32.write path),
        ("app_info", Schema.payload.write appInfo)] := rfl

theorem write_dataPathConfirm (o : DataPathOutcome) : schema.write (.dataPathConfirm o) = Json.object
    [("notification", .str "data_path_confirm"), ("ndp_instance_id", Schema.u32.write o.path),
      ("peer_ndi_mac_addr", MacAddress.schema.write o.address), ("accepted", .bool o.accepted),
      ("reason", StatusCode.schema.write o.reason), ("app_info", Schema.payload.write o.appInfo),
      ("channel_info", (Schema.optional (.list Channel.schema)).write o.channels)] := rfl

end Notification

namespace Event

/-- What was written has every payload in its own member, and in all others what there would be without payloads. -/
structure Carries (e : Event) (given written plain : Json) : Prop where
  passes : ∀ passage ∈ e.passages, passage.Passes given written
  others : ∀ name ∉ e.passages.map Passage.target, written.member? name = plain.member? name

section
variable {e : Event} {given written plain part record : Json}

theorem carries_single {passage : Passage} (only : e.passages = [passage]) (passes : passage.Passes given written)
    (others : ∀ name, name ≠ passage.target → written.member? name = plain.member? name) :
    e.Carries given written plain := by
  constructor
  · intro other listed
    rw [only, List.mem_singleton] at listed
    rw [listed]
    exact passes
  · intro name unlisted
    apply others
    intro same
    apply unlisted
    rw [only, same]
    exact List.mem_singleton_self _

theorem passes_of_record (indicated : given.part? "indication" 1 = some part)
    (recorded : part.part? "record" 1 = some record) {name target : String} {place : Nat} {payload : Payload}
    (found : Schema.payload.write payload = (record.part? name place).getD .null)
    (put : written.member? target = some (Schema.payload.write payload)) :
    Passage.Passes ⟨[("indication", 1), ("record", 1), (name, place)], target⟩ given written := by
  refine Passage.passes ?_ put
  rw [Json.at?_cons indicated, Json.at?_cons recorded, Json.at?_single]
  exact found

theorem passes_of_indication (indicated : given.part? "indication" 1 = some part) {name target : String} {place : Nat}
    {payload : Payload} (found : Schema.payload.write payload = (part.part? name place).getD .null)
    (put : written.member? target = some (Schema.payload.write payload)) :
    Passage.Passes ⟨[("indication", 1), (name, place)], target⟩ given written := by
  refine Passage.passes ?_ put
  rw [Json.at?_cons indicated, Json.at?_single]
  exact found

theorem carries_baseMatch {m : BaseMatch} (indicated : given.part? "indication" 1 = some part)
    (recorded : part.part? "record" 1 = some record) (held : BaseMatch.schema.held record = .ok m) :
    (indication (.found (.v1_0 m))).Carries given (Notification.schema.write (.found (.ofReport (.v1_0 m))))
      (Notification.schema.write (.found (.ofReport (.v1_0
        { m with encounter := { m.encounter with serviceInfo := none, filter := none } })))) := by
  obtain ⟨info, filter⟩ := BaseMatch.payloads_of_held held
  constructor
  · intro passage listed
    simp only [passages, List.mem_cons, List.not_mem_nil, or_false] at listed
    obtain rfl | rfl := listed
    · exact passes_of_record indicated recorded info rfl
    · exact passes_of_record indicated recorded filter rfl
  · intro name unlisted
    simp only [passages, List.map_cons, List.map_nil, List.mem_cons, List.not_mem_nil, or_false, not_or] at unlisted
    rw [Notification.write_found, Notification.write_found]
    apply Json.member?_congr
    simp [Match.ofReport, Ne.symm unlisted.1, Ne.symm unlisted.2]

theorem carries_secureMatch {m : SecureMatch} (indicated : given.part? "indication" 1 = some part)
    (recorded : part.part? "record" 1 = some record) (held : SecureMatch.schema.held record = .ok m) :
    (indication (.found (.v1_6 m))).Carries given (Notification.schema.write (.found (.ofReport (.v1_6 m))))
      (Notification.schema.write (.found (.ofReport (.v1_6
        { m with
          encounter := { m.encounter with serviceInfo := none, filter := none }
          securityContext := none })))) := by
  obtain ⟨info, filter, context⟩ := SecureMatch.payloads_of_held held
  constructor
  · intro passage listed
    simp only [passages, List.mem_cons, List.not_mem_nil, or_false] at listed
    obtain rfl | rfl | rfl := listed
    · exact passes_of_record indicated recorded info rfl
    · exact passes_of_record indicated recorded filter rfl
    · exact passes_of_record indicated recorded context rfl
  · intro name unlisted
    simp only [passages, List.map_cons, List.map_nil, List.mem_cons, List.not_mem_nil, or_false, not_or] at unlisted
    rw [Notification.write_found, Notification.write_found]
    apply Json.member?_congr
    simp [Match.ofReport, Ne.symm unlisted.1, Ne.symm unlisted.2.1, Ne.symm unlisted.2.2]

theorem carries_followUp {m : FollowUp} (indicated : given.part? "indication" 1 = some part)
    (held : FollowUp.schema.held part = .ok m) :
    (indication (.followUpReceived m)).Carries given
      (Notification.schema.write (.messageReceived m.session m.peer m.address m.serviceInfo))
      (Notification.schema.write (.messageReceived m.session m.peer m.address none)) := by
  have info := FollowUp.payload_of_held held
  apply carries_single rfl
  · exact passes_of_indication indicated info rfl
  · intro name apart
    rw [Notification.write_messageReceived, Notification.write_messageReceived]
    apply Json.member?_congr
    simp [Ne.symm apart]

theorem carries_dataPathRequest {r : DataPathRequest} (indicated : given.part? "indication" 1 = some part)
    (held : DataPathRequest.schema.held part = .ok r) :
    (indication (.dataPathRequest r)).Carries given
      (Notification.schema.write (.dataPathRequest r.session r.address r.path r.appInfo))
      (Notification.schema.write (.dataPathRequest r.session r.address r.path none)) := by
  have info := DataPathRequest.payload_of_held held
  apply carries_single rfl
  · exact passes_of_indication indicated info rfl
  · intro name apart
    rw [Notification.write_dataPathRequest, Notification.write_dataPathRequest]
    apply Json.member?_congr
    simp [Ne.symm apart]

theorem carries_dataPathConfirm {r : DataPathResult} {channels : Option ChannelReport}
    {outcome : DataPathOutcome} (passed : outcome.appInfo = r.appInfo)
    (indicated : given.part? "indication" 1 = some part) (held : DataPathResult.schema.held part = .ok r) :
    (indication (.dataPathConfirm r channels)).Carries given (Notification.schema.write (.dataPathConfirm outcome))
      (Notification.schema.write (.dataPathConfirm { outcome with appInfo := none })) := by
  have info := DataPathResult.payload_of_held held
  apply carries_single rfl
  · refine passes_of_indication indicated info ?_
    rw [← passed]
    rfl
  · intro name apart
    rw [Notification.write_dataPathConfirm, Notification.write_dataPathConfirm]
    apply Json.member?_congr
    simp [Ne.symm apart]

end

/-- An event with payloads leads to one notification, and the payloads are passed on to it. -/
theorem exists_carries {e : Event} (brings : e.kind ∈ payloadKinds) {given : Json}
    (takes : e.body.1.fields.Takes (fun name => given.part? name (e.body.1.fields.names.idxOf name + 1)) e.body.2) :
    ∃ n plain, e.announcements = [n] ∧ e.bare.announcements = [plain] ∧
      e.Carries given (Notification.schema.write n) (Notification.schema.write plain) := by
  cases e with
  | response id status answer => simp [payloadKinds, kind] at brings
  | indication notice =>
    cases notice with
    | found report =>
      obtain ⟨part, indicated, held⟩ :
          ∃ part, given.part? "indication" 1 = some part ∧ MatchReport.schema.held part = .ok report :=
        Schema.part_of_takes rfl takes.1
      obtain ⟨record, recorded, held⟩ := MatchReport.record_of_held held
      cases report with
      | v1_0 m => exact ⟨_, _, rfl, rfl, carries_baseMatch indicated recorded held⟩
      | v1_6 m => exact ⟨_, _, rfl, rfl, carries_secureMatch indicated recorded held⟩
    | followUpReceived m =>
      obtain ⟨part, indicated, held⟩ :
          ∃ part, given.part? "indication" 1 = some part ∧ FollowUp.schema.held part = .ok m :=
        Schema.part_of_takes rfl takes.1
      exact ⟨_, _, rfl, rfl, carries_followUp indicated held⟩
    | dataPathRequest r =>
      obtain ⟨part, indicated, held⟩ :
          ∃ part, given.part? "indication" 1 = some part ∧ DataPathRequest.schema.held part = .ok r :=
        Schema.part_of_takes rfl takes.1
      exact ⟨_, _, rfl, rfl, carries_dataPathRequest indicated held⟩
    | dataPathConfirm r channels =>
      obtain ⟨part, indicated, held⟩ :
          ∃ part, given.part? "indication" 1 = some part ∧ DataPathResult.schema.held part = .ok r :=
        Schema.part_of_takes rfl takes.1
      cases channels with
      | none => exact ⟨_, _, rfl, rfl, carries_dataPathConfirm rfl indicated held⟩
      | some report => exact ⟨_, _, rfl, rfl, carries_dataPathConfirm rfl indicated held⟩
    | _ => simp [payloadKinds, kind, Indication.kind] at brings

end Event

/-- Whatever text an event with payloads comes from, and whatever the adapter has seen before, if the event is accepted
its one notification has each payload exactly as the text has it, in the member that it belongs to. Every other member
is what it would be without payloads. A match of the first revision has no peer security, whatever else is in it. -/
theorem payloads_are_passed_on {text : String} {e : Event} {a : Adapter} (read : Event.schema.ofText text = .ok e)
    (brings : e.kind ∈ Event.payloadKinds) (accepted : (a.dispatch e).1 = .processed) :
    ∃ given n written plain, Json.ofText text = .ok given ∧
      (a.dispatch e).2.2.notifications = [n] ∧ Json.ofText n.line = .ok written ∧
      (∀ passage ∈ e.passages, passage.Passes given written) ∧
      e.bare.announcements = [plain] ∧
      (∀ name ∉ e.passages.map Passage.target,
        written.member? name = (Notification.schema.write plain).member? name) ∧
      ∀ m, e = .indication (.found (.v1_0 m)) →
        written.member? "scid" = some (.array []) ∧ written.member? "peer_cipher_suites" = some (.nat 0) := by
  -- From the text to the event, from the event to the notification, and from there to its line.
  obtain ⟨given, holds, takes⟩ := Event.takes_of_ofText read
  obtain ⟨n, plain, announced, bare, carried⟩ := Event.exists_carries brings takes
  refine ⟨given, n, _, plain, holds, ?_, n.ofText_line_document, carried.passes, bare, carried.others, ?_⟩
  · rw [Adapter.dispatch_notifications, if_pos accepted, announced]
  · rintro m rfl
    cases announced
    exact ⟨rfl, rfl⟩

/-- Arrays stand for objects, and the record comes before its revision. One payload is empty, and the array breaks off
before the other. -/
theorem payloads_are_passed_on_from_arrays :
    let record := Json.array [.int 1, .int 2, .array (List.replicate 6 (.int 0)), .array []]
    let given := Json.array [.str "match", .object [("record", record), ("revision", .str "1.0")]]
    let m : BaseMatch := ⟨⟨1, 2, .zero, some [], none, false, false, 0⟩, false, 0, 0⟩
    let e : Event := .indication (.found (.v1_0 m))
    let a := Adapter.new .default .nowhere
    Event.schema.ofText given.text = .ok e ∧ e.kind ∈ Event.payloadKinds ∧ (a.dispatch e).1 = .processed ∧
      ∃ n written, (a.dispatch e).2.2.notifications = [n] ∧ Json.ofText n.line = .ok written ∧
        written.member? "service_specific_info" = some (.array []) ∧ written.member? "match_filter" = some .null := by
  intro record given m e a
  have read : Event.schema.ofText given.text = .ok e := by decide +kernel
  have brings : e.kind ∈ Event.payloadKinds := by decide
  have accepted : (a.dispatch e).1 = .processed := by decide +kernel
  have fits : given.Fits Json.deepest := by
    simp [given, record, Json.array, Json.object, Items.ofList, Members.ofList, Doc.Fits, Items.Fits, Members.Fits,
      Json.deepest, UInt64.size]
  obtain ⟨taken, n, written, plain, holds, told, line, passes, -⟩ := payloads_are_passed_on read brings accepted
  cases (Json.ofText_text fits).symm.trans holds
  exact ⟨read, brings, accepted, n, written, told, line, (passes _ List.mem_cons_self).same,
    (passes _ (List.mem_cons_of_mem _ List.mem_cons_self)).same⟩

end NanAdapter
