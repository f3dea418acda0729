import NanAdapter.Schema.Basic

/-! Sets of cipher suites, as the bits of a word. -/

namespace NanAdapter

structure CipherSuites where
  bits : UInt32
  deriving DecidableEq, Repr

namespace CipherSuites

def none : CipherSuites := ⟨0⟩

/-- Shared keys of 128 and 256 bits, then public keys of 128 and 256 bits. -/
def sharedKey128 : CipherSuites := ⟨1⟩
def sharedKey256 : CipherSuites := ⟨2⟩
def publicKey128 : CipherSuites := ⟨4⟩
def publicKey256 : CipherSuites := ⟨8⟩

/-- The four suites that there are, lowest bit first, with their names. -/
def suites : List (CipherSuites × String) :=
  [(sharedKey128, "NCS_SK_128"), (sharedKey256, "NCS_SK_256"), (publicKey128, "NCS_PK_128"),
    (publicKey256, "NCS_PK_256")]

/-- The bits of the four suites, and no others. -/
def truncate (bits : UInt32) : CipherSuites := ⟨bits &&& 0xF⟩

def isEmpty (s : CipherSuites) : Bool := s.bits = 0

def contains (s other : CipherSuites) : Bool := s.bits &&& other.bits = other.bits

def insert (s other : CipherSuites) : CipherSuites := ⟨s.bits ||| other.bits⟩

instance : OrOp CipherSuites := ⟨fun s other => ⟨s.bits ||| other.bits⟩⟩

/-- The suites of the set with their names, lowest bit first. -/
def toList (s : CipherSuites) : List (CipherSuites × String) :=
  suites.filter fun (suite, _) => s.contains suite

def names (s : CipherSuites) : List String := s.toList.map (·.2)

def text (s : CipherSuites) : String :=
  if s.isEmpty then "NONE" else "|".intercalate s.names

/-- The bits that the HAL sets for the suites. It may set others, which mean nothing. -/
def halBits : List (UInt32 × CipherSuites) :=
  [(1, sharedKey128), (2, sharedKey256), (4, publicKey128), (8, publicKey256)]

/-- The suites that a mask from the HAL stands for. -/
def ofMask (mask : UInt32) : CipherSuites :=
  halBits.foldl (fun s (bit, suite) => if mask &&& bit ≠ 0 then s.insert suite else s) none

def schema : Schema CipherSuites := .via ⟨CipherSuites.mk, bits⟩ .u32

end CipherSuites

end NanAdapter
