import NanAdapter.Event.Kind
import NanAdapter.Table

/-! How often each kind of indication was processed. A kind that was not has no entry. -/

namespace NanAdapter

instance : Numbered IndicationKind where
  number kind := kind.id.toNat
  number_injective := by
    intro a b same
    have found := congrArg IndicationKind.ofId? (UInt8.toNat_inj.mp same)
    simpa only [IndicationKind.ofId?_id, Option.some.injEq] using found

abbrev Counters := Table IndicationKind UInt32

namespace Counters

def count (c : Counters) (kind : IndicationKind) : UInt32 := (c.get? kind).getD 0

/-- Counts one more, modulo 2^32. -/
def increment (c : Counters) (kind : IndicationKind) : Counters := c.insert kind (c.count kind + 1)

def toJson (c : Counters) : Json := c.json fun n => .nat n.toNat

end Counters

end NanAdapter
