import NanAdapter.Revision

/-! Channels of a data path: the records that the HAL sends, and the form that everyone else sees.
-/

namespace NanAdapter

inductive Bandwidth where
  | mhz20
  | mhz40
  | mhz80
  | mhz160
  | mhz80Plus80
  | mhz320
  deriving DecidableEq, Repr, Inhabited

namespace Bandwidth

def all : List Bandwidth := [.mhz20, .mhz40, .mhz80, .mhz160, .mhz80Plus80, .mhz320]

def name : Bandwidth → String
  | .mhz20 => "Mhz20"
  | .mhz40 => "Mhz40"
  | .mhz80 => "Mhz80"
  | .mhz160 => "Mhz160"
  | .mhz80Plus80 => "Mhz80Plus80"
  | .mhz320 => "Mhz320"

def label : Bandwidth → String
  | .mhz20 => "20MHz"
  | .mhz40 => "40MHz"
  | .mhz80 => "80MHz"
  | .mhz160 => "160MHz"
  | .mhz80Plus80 => "80+80MHz"
  | .mhz320 => "320MHz"

/-- The width as scan results state it. -/
def scanCode : Bandwidth → Int32
  | .mhz20 => 0
  | .mhz40 => 1
  | .mhz80 => 2
  | .mhz160 => 3
  | .mhz80Plus80 => 4
  | .mhz320 => 5

/-- The width that a code of the HAL stands for. Widths of 5 and 10 MHz have no class of their own
and count as 20 MHz, as do codes without meaning. -/
def ofCode : Int32 → Bandwidth
  | 1 => .mhz40
  | 2 => .mhz80
  | 3 => .mhz160
  | 4 => .mhz80Plus80
  | 7 => .mhz320
  | _ => .mhz20

def schema : Schema Bandwidth := .symbol ⟨all, name⟩

end Bandwidth

/-- A channel as the HAL reports it. -/
structure ChannelRecord where
  frequency : UInt32
  width : Int32
  streams : UInt32
  deriving DecidableEq, Repr

def ChannelRecord.schema : Schema ChannelRecord :=
  .record "NanDataPathChannelInfo"
    (.need "channel_freq" .u32 <| .need "channel_bandwidth" .i32 <| .need "num_spatial_streams" .u32 .done)
    ⟨fun (frequency, width, streams, ()) => ⟨frequency, width, streams⟩, fun r => (r.frequency, r.width, r.streams, ())⟩

structure Channel where
  frequency : UInt32
  bandwidth : Bandwidth
  streams : UInt32
  deriving DecidableEq, Repr

namespace Channel

def ofRecord (r : ChannelRecord) : Channel := ⟨r.frequency, .ofCode r.width, r.streams⟩

def text (c : Channel) : String :=
  Text.decimal c.frequency.toNat ++ "MHz/" ++ c.bandwidth.label ++ "/" ++
    Text.decimal c.streams.toNat ++ "ss"

def schema : Schema Channel :=
  .record "ChannelInfo"
    (.need "channel_freq_mhz" .u32 <| .need "bandwidth" Bandwidth.schema <| .need "spatial_stream_count" .u32 .done)
    ⟨fun (frequency, bandwidth, streams, ()) => ⟨frequency, bandwidth, streams⟩,
      fun c => (c.frequency, c.bandwidth, c.streams, ())⟩

end Channel

/-- The channels of a data path as one revision of the HAL reports them. No list at all is something
else than an empty one. -/
inductive ChannelReport where
  | v1_2 (records : Option (List ChannelRecord))
  | v1_6 (records : Option (List ChannelRecord))
  deriving DecidableEq, Repr

namespace ChannelReport

def revision : ChannelReport → Revision
  | .v1_2 _ => .v1_2
  | .v1_6 _ => .v1_6

def records? : ChannelReport → Option (List ChannelRecord)
  | .v1_2 records | .v1_6 records => records

def channels? (report : ChannelReport) : Option (List Channel) := report.records?.map (·.map Channel.ofRecord)

/-- The revisions that have a report of their own. -/
inductive Form where
  | v1_2
  | v1_6
  deriving DecidableEq, Repr

def Form.name : Form → String
  | .v1_2 => "1.2"
  | .v1_6 => "1.6"

/-- All forms have the same list. -/
def Form.schema (_ : Form) : Schema (Option (List ChannelRecord)) := .optional (.list ChannelRecord.schema)

def schema : Schema ChannelReport :=
  .adjacent "RawChannelInfo" "revision" "channels" ⟨[.v1_2, .v1_6], Form.name⟩ Form.schema
    ⟨fun
      | ⟨.v1_2, records⟩ => .v1_2 records
      | ⟨.v1_6, records⟩ => .v1_6 records,
     fun
      | .v1_2 records => ⟨.v1_2, records⟩
      | .v1_6 records => ⟨.v1_6, records⟩⟩

end ChannelReport

end NanAdapter
