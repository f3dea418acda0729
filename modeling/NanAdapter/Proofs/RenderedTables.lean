import Mathlib.Logic.Function.Basic
import NanAdapter.Proofs.DocumentTexts
import NanAdapter.Proofs.FailedWrites
import NanAdapter.Proofs.NotificationLines

/-! Tables as diagnostics show them. The text of a table has its entries in the order of their numbers, each of them
once, so it depends on nothing but what is found in the table, and what is found can be told from it. Whoever looks at
an adapter in this way leaves it as it is. -/

namespace NanAdapter

namespace Table
variable {κ ν : Type} [Numbered κ] {s t : Table κ ν} {value : ν → Json}

theorem mem_toList_iff {k : κ} {v : ν} : (k, v) ∈ t.toList ↔ t.get? k = some v := by
  obtain ⟨entries, ascending⟩ := t
  rw [get?]
  dsimp only
  induction entries with
  | nil => simp
  | cons head rest ih =>
    obtain ⟨above, later⟩ := List.pairwise_cons.mp ascending
    rw [List.mem_cons, ih later]
    by_cases here : number head.1 = number k
    · -- All later numbers are greater, so the entry is not found again.
      have gone : rest.find? (fun entry => number entry.1 = number k) = none := by
        rw [List.find?_eq_none]
        intro entry member
        have beyond := above entry member
        simp only [decide_eq_true_eq]
        omega
      have key : k = head.1 := Numbered.number_injective here.symm
      subst key
      rw [gone]
      simp [Prod.ext_iff, eq_comm]
    · have other : (k, v) ≠ head := by
        rintro rfl
        exact here rfl
      simp [here, other]

/-- The entries of the table in ascending order of their numbers, with these numbers for names, in one object. -/
def Shown (t : Table κ ν) (spelled : ν → String) (text : String) : Prop :=
  ∃ entries : List (κ × ν),
    entries.Pairwise (fun first later => number first.1 < number later.1) ∧
      (∀ k v, (k, v) ∈ entries ↔ t.get? k = some v) ∧
      text = "\x7b" ++
        ",".intercalate (entries.map fun (k, v) => "\"" ++ Text.decimal (number k) ++ "\":" ++ spelled v) ++ "\x7d"

theorem shown_json {spelled : ν → String} (spells : ∀ v, (value v).text = spelled v) :
    t.Shown spelled (t.json value).text := by
  refine ⟨t.toList, t.ascending, fun _ _ => mem_toList_iff, ?_⟩
  have member (entry : κ × ν) : Json.quoted (Text.decimal (number entry.1)) ++ ":" ++ (value entry.2).text =
      "\"" ++ Text.decimal (number entry.1) ++ "\":" ++ spelled entry.2 := by
    have colon : "\":" = "\"" ++ ":" := rfl
    rw [Json.quoted_decimal, spells, colon]
    simp only [String.append_assoc]
  rw [json, Json.text_object, List.map_map]
  exact congrArg (fun parts => "\x7b" ++ ",".intercalate parts ++ "\x7d")
    (List.map_congr_left fun entry _ => member entry)

theorem json_injective (distinct : Function.Injective value) (same : s.json value = t.json value) : s = t := by
  have entries := Json.object_injective same
  have each : Function.Injective fun entry : κ × ν => (Text.decimal (number entry.1), value entry.2) := by
    intro first later alike
    obtain ⟨names, values⟩ := Prod.mk.inj alike
    exact Prod.ext (Numbered.number_injective (Text.decimal_injective names)) (distinct values)
  have whole : s.toList = t.toList := List.map_injective_iff.mpr each entries
  cases s
  cases t
  cases whole
  rfl

theorem json_fits {room : Nat} (fits : ∀ v, (value v).Fits room) : (t.json value).Fits (room + 1) := by
  refine ⟨Nat.succ_pos room, Members.fits_ofList ?_⟩
  intro member listed
  obtain ⟨entry, -, rfl⟩ := List.mem_map.mp listed
  exact fits entry.2

/-- The texts of two tables are the same if and only if the same is found in them. -/
theorem text_json_eq_iff (fits : ∀ {room : Nat} (v : ν), (value v).Fits (room + 2))
    (distinct : Function.Injective value) :
    (s.json value).text = (t.json value).text ↔ ∀ k, s.get? k = t.get? k := by
  constructor
  · intro same k
    rw [json_injective distinct (Json.text_injective (json_fits fits) (json_fits fits) same)]
  · intro same
    rw [ext_get? same]

end Table

/-! What is written where there is room -/

namespace Output

theorem octets_append (first later : String) : octets (first ++ later) = octets first ++ octets later := by
  simp [octets, String.toByteArray_append, ByteArray.data_append]

theorem text_octets (limit : Option Nat) (text : String) : (Output.mk limit (octets text)).text = text := by
  have whole : (⟨(octets text).toArray⟩ : ByteArray) = text.toByteArray := by
    rw [octets, Array.toArray_toList]
  have read : String.fromUTF8? ⟨((octets text).take ((octets text).length - 0)).toArray⟩ = some text := by
    rw [Nat.sub_zero, List.take_length, whole]
    exact dif_pos text.isValidUTF8
  unfold Output.text
  dsimp only
  rw [read]
  rfl

theorem writeAll_unlimited (written : List UInt8) (texts : List String) :
    (Output.mk none written).writeAll texts = (⟨none, written ++ octets (String.join texts)⟩, true) := by
  induction texts generalizing written with
  | nil => simp [writeAll, octets]
  | cons text rest ih =>
    rw [writeAll, write]
    dsimp only
    rw [ih, String.join_cons, octets_append, List.append_assoc]

end Output

namespace ChannelCache

/-- A channel in one object, with the width as in scan results. -/
def spelled (channel : Channel) : String :=
  "\x7b" ++ ",".intercalate [
    "\"channelFreq\":" ++ Text.decimal channel.frequency.toNat,
    "\"channelBandwidth\":" ++ String.ofList (Text.integer channel.bandwidth.scanCode.toInt),
    "\"numSpatialStreams\":" ++ Text.decimal channel.streams.toNat] ++ "\x7d"

/-- The channels of a path in one array, in their order. -/
def spelledAll (channels : List Channel) : String := "[" ++ ",".intercalate (channels.map spelled) ++ "]"

theorem text_entry (channel : Channel) : (entry channel).text = spelled channel := by
  have frequency : Json.quoted "channelFreq" ++ ":" = "\"channelFreq\":" := by decide +kernel
  have width : Json.quoted "channelBandwidth" ++ ":" = "\"channelBandwidth\":" := by decide +kernel
  have streams : Json.quoted "numSpatialStreams" ++ ":" = "\"numSpatialStreams\":" := by decide +kernel
  rw [entry, Json.text_object, spelled, ← frequency, ← width, ← streams]
  rfl

theorem text_entries (channels : List Channel) : (Json.array (channels.map entry)).text = spelledAll channels := by
  have each : channels.map (Json.text ∘ entry) = channels.map spelled :=
    List.map_congr_left fun channel _ => text_entry channel
  rw [Json.text_array, List.map_map, each, spelledAll]

theorem scanCode_injective : Function.Injective Bandwidth.scanCode := by
  intro width other same
  cases width <;> cases other <;> first | rfl | exact absurd same (by decide)

theorem entry_injective : Function.Injective entry := by
  intro channel other same
  obtain ⟨frequency, width, streams⟩ := channel
  obtain ⟨frequency', width', streams'⟩ := other
  have members := Json.object_injective same
  simp only [List.cons.injEq, Prod.mk.injEq, true_and, and_true, Json.nat, Doc.int.injEq, Int.ofNat_inj] at members
  obtain ⟨first, second, third⟩ := members
  cases UInt32.toNat_inj.mp first
  cases scanCode_injective (Int32.toInt_inj.mp second)
  cases UInt32.toNat_inj.mp third
  rfl

theorem entries_injective : Function.Injective fun channels : List Channel => Json.array (channels.map entry) := by
  intro channels others same
  exact List.map_injective_iff.mpr entry_injective (Json.array_injective same)

theorem entry_fits {room : Nat} (channel : Channel) : (entry channel).Fits (room + 1) := by
  refine ⟨Nat.succ_pos room, Members.fits_ofList ?_⟩
  intro member listed
  simp only [List.mem_cons, List.not_mem_nil, or_false] at listed
  obtain rfl | rfl | rfl := listed
  · exact Json.nat_fits (Nat.lt_of_lt_of_le channel.frequency.toNat_lt (by decide))
  · cases channel.bandwidth <;> exact ⟨by decide, by decide⟩
  · exact Json.nat_fits (Nat.lt_of_lt_of_le channel.streams.toNat_lt (by decide))

theorem entries_fits {room : Nat} (channels : List Channel) : (Json.array (channels.map entry)).Fits (room + 2) := by
  refine ⟨Nat.succ_pos _, Items.fits_ofList ?_⟩
  intro item listed
  obtain ⟨channel, -, rfl⟩ := List.mem_map.mp listed
  exact entry_fits channel

end ChannelCache

/-! What one sees of an adapter -/

/-- The operation only asks what there is. -/
def Operation.Looks : Operation → Prop
  | .execute asked _ => asked ≠ .counts true
  | .command arguments _ _ => Command.ofArguments arguments ≠ .ok (.counts true)
  | .dump _ => True
  | _ => False

theorem Revision.text_injective : Function.Injective text := by
  intro r other same
  cases r <;> cases other <;> first | rfl | exact absurd same (by decide)

theorem toString_bool_injective : Function.Injective (toString : Bool → String) := by
  intro on other same
  cases on <;> cases other <;> first | rfl | exact absurd same (by decide)

namespace Adapter
variable {a b : Adapter}

/-- What a command prints where there is room for all of it. -/
def printed (a : Adapter) (command : Command) : String := (a.execute command .unlimited).2.2.text

/-- What the adapter says of itself where there is room for all of it. -/
def described (a : Adapter) : String := (Output.unlimited.writeAll a.dump).1.text

theorem execute_unlimited (a : Adapter) (command : Command) :
    a.execute command .unlimited =
      (.ok (), (a.answer command).2, ⟨none, Output.octets ((a.answer command).1 ++ "\n")⟩) := rfl

theorem printed_eq (a : Adapter) (command : Command) : a.printed command = (a.answer command).1 ++ "\n" := by
  rw [printed, execute_unlimited, Output.text_octets]

/-- The lines of the description, with tables that look like this. -/
def description (a : Adapter) (counts channels : String) : List String :=
  ["AwareEventAdapter:", "  revision: " ++ a.revision.text, "  verbose: " ++ toString a.verbose,
    "  callback counts: " ++ counts, "  channel info: " ++ channels]

theorem described_eq (a : Adapter) :
    a.described = Text.lines (a.description a.counters.toJson.text a.channels.toJson.text) := by
  have verbose : (if a.verbose then "true" else "false") = toString a.verbose := by
    cases a.verbose <;> rfl
  -- The lines are written piece by piece, and what counts is the text of all the pieces.
  rw [described, Output.unlimited, Output.writeAll_unlimited, List.nil_append, Output.text_octets, dump, verbose]
  rfl

theorem plain_description (a : Adapter) {counts channels : String} (plain : '\n' ∉ counts.toList)
    (plain' : '\n' ∉ channels.toList) : ∀ line ∈ a.description counts channels, '\n' ∉ line.toList := by
  have revision : '\n' ∉ a.revision.text.toList := by
    cases a.revision <;> decide
  have verbose : '\n' ∉ (toString a.verbose).toList := by
    cases a.verbose <;> decide
  intro line listed
  simp only [description, List.mem_cons, List.not_mem_nil, or_false] at listed
  obtain rfl | rfl | rfl | rfl | rfl := listed
  · decide
  all_goals
    rw [String.toList_append]
    exact List.not_mem_append (by decide) ‹_›

theorem onCommand_unlimited {arguments : List String} {command : Command}
    (read : Command.ofArguments arguments = .ok command) :
    (a.onCommand arguments .unlimited .unlimited).1.code = 0 ∧
      (a.onCommand arguments .unlimited .unlimited).1.out.text = a.printed command := by
  simp only [onCommand, read, printed, execute_unlimited, and_self]

theorem counters_shown (a : Adapter) : a.counters.Shown (fun n => Text.decimal n.toNat) a.counters.toJson.text :=
  Table.shown_json fun _ => rfl

theorem channels_shown (a : Adapter) : a.channels.Shown ChannelCache.spelledAll a.channels.toJson.text :=
  Table.shown_json ChannelCache.text_entries

theorem text_counters_eq_iff :
    a.counters.toJson.text = b.counters.toJson.text ↔ ∀ kind, a.counters.get? kind = b.counters.get? kind := by
  apply Table.text_json_eq_iff
  · intro room n
    exact Json.nat_fits (Nat.lt_of_lt_of_le n.toNat_lt (by decide))
  · intro n m same
    exact UInt32.toNat_inj.mp (Int.ofNat_inj.mp (Doc.int.inj same))

theorem text_channels_eq_iff :
    a.channels.toJson.text = b.channels.toJson.text ↔ ∀ path, a.channels.get? path = b.channels.get? path :=
  Table.text_json_eq_iff ChannelCache.entries_fits ChannelCache.entries_injective

/-- Every line of the description tells one thing. -/
theorem described_eq_iff : a.described = b.described ↔
    a.revision = b.revision ∧ a.verbose = b.verbose ∧ (∀ kind, a.counters.get? kind = b.counters.get? kind) ∧
      ∀ path, a.channels.get? path = b.channels.get? path := by
  have plain (json : Json) : '\n' ∉ json.text.toList := by
    rw [Json.text, String.toList_ofList]
    exact Doc.newline_not_mem_chars json
  rw [described_eq, described_eq]
  constructor
  · intro same
    have lines := Text.lines_injective (plain_description a (plain _) (plain _))
      (plain_description b (plain _) (plain _)) same
    simp only [description, List.cons.injEq, String.append_right_inj, and_true, true_and] at lines
    obtain ⟨revision, verbose, counts, channels⟩ := lines
    exact ⟨Revision.text_injective revision, toString_bool_injective verbose, text_counters_eq_iff.mp counts,
      text_channels_eq_iff.mp channels⟩
  · rintro ⟨revision, verbose, counts, channels⟩
    rw [description, description, revision, verbose, text_counters_eq_iff.mpr counts, text_channels_eq_iff.mpr channels]

/-- Looking changes nothing, whether or not all that was asked for could be written. -/
theorem perform_of_looks {operation : Operation} (looks : operation.Looks) : (a.perform operation).2.1 = a := by
  cases operation with
  | execute command limit =>
    have kept : command ≠ .counts true := looks
    change (a.answer command).2 = a
    rw [answer_adapter, if_neg kept]
  | command arguments outLimit errLimit =>
    change (a.onCommand arguments _ _).2.1 = a
    rw [onCommand_adapter]
    cases read : Command.ofArguments arguments with
    | error fault => rfl
    | ok command =>
      have kept : command ≠ .counts true := fun reset => looks (by rw [read, reset])
      exact (answer_adapter a command).trans (if_neg kept)
  | dump limit => rfl
  | dispatch _ | upgrade _ | setVerbose _ | resetChannels | clearCounters | drainCounters | count _ | help _ | change _
  | lookup _ => exact looks.elim

theorem performAll_of_looks {operations : List Operation} (looks : ∀ operation ∈ operations, operation.Looks) :
    (a.performAll operations).1 = a := by
  induction operations with
  | nil => rfl
  | cons operation rest ih =>
    obtain ⟨first, later⟩ := List.forall_mem_cons.mp looks
    change ((a.perform operation).2.1.performAll rest).1 = a
    rw [perform_of_looks first, ih later]

/-- Commands and descriptions show each table with all of its entries in their order and nothing else, so they look the
same exactly for adapters with the same in their tables. Looking at them, as often as one likes, changes nothing. -/
theorem tables_are_shown_exactly (a b : Adapter) :
    (∃ counts channels, a.counters.Shown (fun n => Text.decimal n.toNat) counts ∧
      a.channels.Shown ChannelCache.spelledAll channels ∧
      a.printed (.counts false) = counts ++ "\n" ∧ a.printed .channels = channels ++ "\n" ∧
      a.described = Text.lines (a.description counts channels)) ∧
    (∀ arguments command, Command.ofArguments arguments = .ok command →
      (a.onCommand arguments .unlimited .unlimited).1.code = 0 ∧
        (a.onCommand arguments .unlimited .unlimited).1.out.text = a.printed command) ∧
    (a.printed (.counts false) = b.printed (.counts false) ↔
      ∀ kind, a.counters.get? kind = b.counters.get? kind) ∧
    (a.printed .channels = b.printed .channels ↔ ∀ path, a.channels.get? path = b.channels.get? path) ∧
    (a.described = b.described ↔ a.revision = b.revision ∧ a.verbose = b.verbose ∧
      (∀ kind, a.counters.get? kind = b.counters.get? kind) ∧ ∀ path, a.channels.get? path = b.channels.get? path) ∧
    ∀ operations : List Operation, (∀ operation ∈ operations, operation.Looks) → (a.performAll operations).1 = a := by
  refine ⟨⟨_, _, a.counters_shown, a.channels_shown, a.printed_eq _, a.printed_eq _, a.described_eq⟩,
    fun _ _ => onCommand_unlimited, ?_, ?_, described_eq_iff, fun _ => performAll_of_looks⟩
  · rw [printed_eq, printed_eq, String.append_left_inj]
    exact text_counters_eq_iff
  · rw [printed_eq, printed_eq, String.append_left_inj]
    exact text_channels_eq_iff

/-- A path ends twice and a match expires, and two paths are known, one of them without channels. This comes about with
the greater key of each table first or last, and looks the same. Where the path without channels is not known, the
caches look different. -/
theorem tables_are_shown_exactly_in_either_order :
    let start := new .default .nowhere
    let ended : Operation := .dispatch (.indication (.dataPathTerminated 7))
    let expired : Operation := .dispatch (.indication (.expired 1 2))
    let channels : Operation := .change (.put 5 [⟨5180, .mhz160, 2⟩, ⟨2437, .mhz20, 1⟩])
    let bare : Operation := .change (.put 12 [])
    let a := (start.performAll [ended, bare, expired, channels, ended]).1
    let b := (start.performAll [expired, channels, ended, ended, bare]).1
    let c := (start.performAll [expired, channels, ended, ended]).1
    let looks : List Operation :=
      [.execute (.counts false) (some 0), .command ["get_channel_info"] none none, .dump none]
    Command.ofArguments ["get_cb_count"] = .ok (.counts false) ∧
      (a.onCommand ["get_cb_count"] .unlimited .unlimited).1.out.text = "\x7b\"5\":1,\"10\":2\x7d\n" ∧
      Command.ofArguments ["get_channel_info"] = .ok .channels ∧
      (a.onCommand ["get_channel_info"] .unlimited .unlimited).1.out.text =
        "\x7b\"5\":[\x7b\"channelFreq\":5180,\"channelBandwidth\":3,\"numSpatialStreams\":2\x7d," ++
          "\x7b\"channelFreq\":2437,\"channelBandwidth\":0,\"numSpatialStreams\":1\x7d],\"12\":[]\x7d\n" ∧
      a.described = b.described ∧ a.printed .channels ≠ c.printed .channels ∧
      (∀ operation ∈ looks, operation.Looks) ∧ (a.performAll looks).1 = a := by
  intro start ended expired channels bare a b c looks
  have counting : Command.ofArguments ["get_cb_count"] = .ok (.counts false) := by decide
  have listing : Command.ofArguments ["get_channel_info"] = .ok .channels := by decide
  have counts (kind : IndicationKind) : a.counters.get? kind = b.counters.get? kind := by
    cases kind <;> rfl
  have known : a.channels = b.channels := by decide +kernel
  have missed : ¬ ∀ path, a.channels.get? path = c.channels.get? path := by
    intro alike
    have bare : a.channels.get? 12 = c.channels.get? 12 := alike 12
    revert bare
    decide +kernel
  have looking : ∀ operation ∈ looks, operation.Looks := by
    intro operation listed
    simp only [looks, List.mem_cons, List.not_mem_nil, or_false] at listed
    obtain rfl | rfl | rfl := listed
    · exact fun reset => nomatch reset
    · exact fun reset => nomatch reset
    · trivial
  obtain ⟨-, commanded, -, -, described, kept⟩ := tables_are_shown_exactly a b
  obtain ⟨-, -, -, shown, -, -⟩ := tables_are_shown_exactly a c
  refine ⟨counting, ?_, listing, ?_, ?_, fun same => missed (shown.mp same), looking, kept looks looking⟩
  · rw [(commanded _ _ counting).2]
    decide +kernel
  · rw [(commanded _ _ listing).2]
    decide +kernel
  · exact described.mpr ⟨rfl, rfl, counts, fun path => by rw [known]⟩

end Adapter

end NanAdapter
