import NanAdapter.Channel
import NanAdapter.Table

/-! The channels of each data path, as last reported. A path may be known to have no channels, which
is something else than not being known. -/

namespace NanAdapter

abbrev ChannelCache := Table UInt32 (List Channel)

namespace ChannelCache

inductive Change where
  | put (path : UInt32) (channels : List Channel)
  /-- Without channels the entry is given up. -/
  | update (path : UInt32) (channels : Option (List Channel))
  | remove (path : UInt32)
  | clear
  deriving DecidableEq, Repr

def change (c : ChannelCache) : Change → ChannelCache
  | .put path channels | .update path (some channels) => c.insert path channels
  | .update path none | .remove path => c.erase path
  | .clear => .empty

/-- A channel as diagnostics show it, with the width as in scan results. -/
def entry (channel : Channel) : Json :=
  .object [("channelFreq", .nat channel.frequency.toNat), ("channelBandwidth", .int channel.bandwidth.scanCode.toInt),
    ("numSpatialStreams", .nat channel.streams.toNat)]

def toJson (c : ChannelCache) : Json := c.json fun channels => .array (channels.map entry)

end ChannelCache

end NanAdapter
