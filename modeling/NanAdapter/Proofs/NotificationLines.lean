import NanAdapter.Proofs.PrintedLines
import NanAdapter.Proofs.ReplayProgram

/-! Notifications as they are printed, one to a line. A notification can be read back from its line, and the lines from
the whole text. So nothing is lost: two lists of notifications that look the same are the same. -/

namespace NanAdapter

open Schema

section
variable {room : Nat}

theorem SessionType.schema_lawful : SessionType.schema.Lawful room := by
  refine symbol_lawful (Names.lawful_of_nodup ?_ (by decide))
  intro type
  cases type <;> decide

theorem ClusterChange.schema_lawful : ClusterChange.schema.Lawful room := by
  refine symbol_lawful (Names.lawful_of_nodup ?_ (by decide))
  intro change
  cases change <;> decide

theorem NotificationKind.names_lawful : NotificationKind.names.Lawful := by
  refine Names.lawful_of_nodup ?_ (by decide)
  intro kind
  cases kind <;> decide

theorem channels_lawful : (Schema.optional (.list Channel.schema)).Lawful (room + 2) :=
  optional_lawful (fun _ written => nomatch written) (list_lawful Channel.schema_lawful)

theorem Match.fields_lawful : Match.fields.Lawful (room + 1) :=
  ⟨by decide, u8_lawful, u32_lawful, MacAddress.schema_lawful, payload_lawful, payload_lawful, u32_lawful, u32_lawful,
    payload_lawful, CipherSuites.schema_lawful, trivial⟩

theorem NotificationKind.fields_lawful (kind : NotificationKind) : kind.fields.Lawful (room + 2) := by
  cases kind with
  | capabilitiesUpdate => exact ⟨by decide, u16_lawful, Capabilities.schema_lawful, trivial⟩
  | configSuccess => exact ⟨by decide, u16_lawful, trivial⟩
  | configFailed => exact ⟨by decide, u16_lawful, StatusCode.schema_lawful, trivial⟩
  | disableResponse => exact ⟨by decide, u16_lawful, StatusCode.schema_lawful, trivial⟩
  | sessionConfigSuccess => exact ⟨by decide, u16_lawful, SessionType.schema_lawful, u8_lawful, trivial⟩
  | sessionConfigFail => exact ⟨by decide, u16_lawful, SessionType.schema_lawful, StatusCode.schema_lawful, trivial⟩
  | messageQueued => exact ⟨by decide, u16_lawful, trivial⟩
  | messageNotQueued => exact ⟨by decide, u16_lawful, StatusCode.schema_lawful, trivial⟩
  | createInterface => exact ⟨by decide, u16_lawful, boolean_lawful, StatusCode.schema_lawful, trivial⟩
  | deleteInterface => exact ⟨by decide, u16_lawful, boolean_lawful, StatusCode.schema_lawful, trivial⟩
  | initiateDataPathSuccess => exact ⟨by decide, u16_lawful, u32_lawful, trivial⟩
  | initiateDataPathFail => exact ⟨by decide, u16_lawful, StatusCode.schema_lawful, trivial⟩
  | respondToDataPath => exact ⟨by decide, u16_lawful, boolean_lawful, StatusCode.schema_lawful, trivial⟩
  | endDataPath => exact ⟨by decide, u16_lawful, boolean_lawful, StatusCode.schema_lawful, trivial⟩
  | addressChange => exact ⟨by decide, MacAddress.schema_lawful, trivial⟩
  | clusterChange => exact ⟨by decide, ClusterChange.schema_lawful, MacAddress.schema_lawful, trivial⟩
  | awareDown => exact ⟨by decide, StatusCode.schema_lawful, trivial⟩
  | sessionTerminated => exact ⟨by decide, u8_lawful, StatusCode.schema_lawful, SessionType.schema_lawful, trivial⟩
  | found => exact Match.fields_lawful
  | expired => exact ⟨by decide, u8_lawful, u32_lawful, trivial⟩
  | messageReceived => exact ⟨by decide, u8_lawful, u32_lawful, MacAddress.schema_lawful, payload_lawful, trivial⟩
  | messageSent => exact ⟨by decide, u16_lawful, trivial⟩
  | messageNotSent => exact ⟨by decide, u16_lawful, StatusCode.schema_lawful, trivial⟩
  | dataPathRequest => exact ⟨by decide, u8_lawful, MacAddress.schema_lawful, u32_lawful, payload_lawful, trivial⟩
  | dataPathConfirm =>
    exact ⟨by decide, u32_lawful, MacAddress.schema_lawful, boolean_lawful, StatusCode.schema_lawful, payload_lawful,
      channels_lawful, trivial⟩
  | dataPathEnd => exact ⟨by decide, u32_lawful, trivial⟩
  | scheduleUpdate => exact ⟨by decide, MacAddress.schema_lawful, u32_lawful, channels_lawful, trivial⟩

theorem NotificationKind.untagged (kind : NotificationKind) : "notification" ∉ kind.fields.names := by
  cases kind <;> decide

theorem Notification.schema_lawful : Notification.schema.Lawful (room + 3) :=
  tagged_lawful NotificationKind.names_lawful NotificationKind.fields_lawful NotificationKind.untagged ofBody_body

end

namespace Text
variable {parts others : List String}

/-- Each part on a line of its own. -/
def lines (parts : List String) : String := String.join (parts.map fun part => part ++ "\n")

theorem lines_eq_intercalate (parts : List String) :
    (lines parts).toList = ['\n'].intercalate (parts.map String.toList ++ [[]]) := by
  -- The empty list at the end stands for what is behind the last break.
  induction parts with
  | nil => rfl
  | cons part rest ih =>
    have later : rest.map String.toList ++ [[]] ≠ [] := by simp
    have first : (lines (part :: rest)).toList = part.toList ++ ('\n' :: (lines rest).toList) := by
      rw [lines, List.map_cons, String.join_cons, String.toList_append, String.toList_append, List.append_assoc]
      rfl
    rw [first, ih, List.map_cons, List.cons_append, List.intercalate_cons_of_ne_nil later, List.append_assoc]
    rfl

/-- Behind the end of the last line there is nothing. -/
theorem splitOn_lines (plain : ∀ part ∈ parts, '\n' ∉ part.toList) :
    (lines parts).toList.splitOn '\n' = parts.map String.toList ++ [[]] := by
  rw [lines_eq_intercalate]
  apply List.splitOn_intercalate
  · intro line listed
    rcases List.mem_append.mp listed with whole | last
    · obtain ⟨part, member, rfl⟩ := List.mem_map.mp whole
      exact plain part member
    · rw [List.mem_singleton.mp last]
      exact List.not_mem_nil
  · simp

theorem lines_injective (plain : ∀ part ∈ parts, '\n' ∉ part.toList) (plain' : ∀ part ∈ others, '\n' ∉ part.toList)
    (same : lines parts = lines others) : parts = others := by
  have split := splitOn_lines plain
  rw [same, splitOn_lines plain'] at split
  have whole := List.append_cancel_right split
  exact (List.map_injective_iff.mpr (fun _ _ => String.toList_inj.mp) whole).symm

end Text

namespace Notification

/-- What is shown of notifications. -/
def printed (notifications : List Notification) : String := Text.lines (notifications.map line)

theorem plain_lines (notifications : List Notification) : ∀ part ∈ notifications.map line, '\n' ∉ part.toList := by
  intro part listed
  obtain ⟨n, -, rfl⟩ := List.mem_map.mp listed
  exact newline_not_mem_line n

/-- A notification is read back from its line. -/
theorem ofText_line (n : Notification) : schema.ofText n.line = .ok n := schema_lawful.recovers.text n

theorem line_injective {m n : Notification} (same : m.line = n.line) : m = n := by
  have read := ofText_line m
  rw [same, ofText_line n] at read
  exact (Except.ok.inj read).symm

theorem printed_injective {sent told : List Notification} (same : printed sent = printed told) : sent = told := by
  have lines := Text.lines_injective (plain_lines sent) (plain_lines told) same
  exact List.map_injective_iff.mpr (fun _ _ => line_injective) lines

theorem printed_eq_report (options : Replay.Options) (done : Replayed) :
    { options with quiet := false, dump := false }.report done = printed done.journal.notifications := by
  rw [Replay.Options.report_eq, printed, Text.lines, List.map_map]
  exact String.append_empty

/-- What is printed of notifications has a line for each of them, from which it can be read back, and the same is
printed for the same notifications only. -/
theorem printed_exact :
    (∀ sent told : List Notification, printed sent = printed told ↔ sent = told) ∧
      (∀ sent : List Notification,
        (printed sent).toList.splitOn '\n' = (sent.map fun n => n.line.toList) ++ [[]]) ∧
      (∀ n : Notification, '\n' ∉ n.line.toList ∧ schema.ofText n.line = .ok n) ∧
      ∀ (options : Replay.Options) (done : Replayed),
        { options with quiet := false, dump := false }.report done = printed done.journal.notifications := by
  refine ⟨?_, ?_, fun n => ⟨newline_not_mem_line n, ofText_line n⟩, printed_eq_report⟩
  · intro sent told
    exact ⟨printed_injective, congrArg printed⟩
  · intro sent
    rw [printed, Text.splitOn_lines (plain_lines sent), List.map_map]
    rfl

end Notification

end NanAdapter
