import NanAdapter.Schema.Basic

/-! Status codes of responses and events. Codes that only a vendor knows are kept as they are. -/

namespace NanAdapter

structure StatusCode where
  raw : UInt32
  deriving DecidableEq, Repr

namespace StatusCode

def success : StatusCode := ⟨0⟩

def alreadyEnabled : StatusCode := ⟨10⟩

def isSuccess (code : StatusCode) : Bool := code = success

/-- The codes that the interface defines, from zero on. -/
def definedNames : List String :=
  ["SUCCESS", "INTERNAL_FAILURE", "PROTOCOL_FAILURE", "INVALID_SESSION_ID", "NO_RESOURCES_AVAILABLE", "INVALID_ARGS",
    "INVALID_PEER_ID", "INVALID_NDP_ID", "NAN_NOT_ALLOWED", "NO_OTA_ACK", "ALREADY_ENABLED", "FOLLOWUP_TX_QUEUE_FULL",
    "UNSUPPORTED_CONCURRENCY_NAN_DISABLED"]

def name? (code : StatusCode) : Option String := definedNames[code.raw.toNat]?

def number (code : StatusCode) : String := Text.decimal code.raw.toNat

def text (code : StatusCode) : String :=
  match code.name? with
  | some name => code.number ++ " (" ++ name ++ ")"
  | none => code.number

def schema : Schema StatusCode := .via ⟨StatusCode.mk, raw⟩ .u32

end StatusCode

/-- A code and what the vendor says about it, often nothing. -/
structure Status where
  code : StatusCode
  description : String
  deriving DecidableEq, Repr

namespace Status

def ofCode (code : StatusCode) : Status := ⟨code, ""⟩

def success : Status := ofCode .success

def isSuccess (status : Status) : Bool := status.code.isSuccess

def text (status : Status) : String := status.code.number ++ " (" ++ status.description ++ ")"

def schema : Schema Status :=
  .record "NanStatus" (.need "status" StatusCode.schema <| .may "description" .text "" .done)
    ⟨fun (code, description, ()) => ⟨code, description⟩, fun s => (s.code, s.description, ())⟩

end Status

end NanAdapter
