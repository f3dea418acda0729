import NanAdapter.Event.Basic

/-! Notifications: what the session manager is told. -/

namespace NanAdapter

inductive SessionType where
  | publish
  | subscribe
  deriving DecidableEq, Repr

def SessionType.name : SessionType → String
  | .publish => "publish"
  | .subscribe => "subscribe"

def SessionType.schema : Schema SessionType := .symbol ⟨[.publish, .subscribe], name⟩

/-- The outcome of a negotiation for a data path. -/
structure DataPathOutcome where
  path : UInt32
  address : MacAddress
  accepted : Bool
  reason : StatusCode
  appInfo : Payload
  /-- None if the HAL said nothing about channels. -/
  channels : Option (List Channel)
  deriving DecidableEq, Repr

inductive Notification where
  | capabilitiesUpdate (id : TransactionId) (capabilities : Capabilities)
  | configSuccess (id : TransactionId)
  | configFailed (id : TransactionId) (reason : StatusCode)
  | disableResponse (id : TransactionId) (status : StatusCode)
  | sessionConfigSuccess (id : TransactionId) (type : SessionType) (session : UInt8)
  | sessionConfigFail (id : TransactionId) (type : SessionType) (reason : StatusCode)
  | messageQueued (id : TransactionId)
  | messageNotQueued (id : TransactionId) (reason : StatusCode)
  | createInterface (id : TransactionId) (success : Bool) (reason : StatusCode)
  | deleteInterface (id : TransactionId) (success : Bool) (reason : StatusCode)
  | initiateDataPathSuccess (id : TransactionId) (path : UInt32)
  | initiateDataPathFail (id : TransactionId) (reason : StatusCode)
  | respondToDataPath (id : TransactionId) (success : Bool) (reason : StatusCode)
  | endDataPath (id : TransactionId) (success : Bool) (reason : StatusCode)
  | addressChange (address : MacAddress)
  | clusterChange (change : ClusterChange) (cluster : MacAddress)
  | awareDown (reason : StatusCode)
  | sessionTerminated (session : UInt8) (reason : StatusCode) (type : SessionType)
  | found (details : Match)
  | expired (session : UInt8) (peer : UInt32)
  | messageReceived (session : UInt8) (peer : UInt32) (address : MacAddress) (message : Payload)
  | messageSent (id : TransactionId)
  | messageNotSent (id : TransactionId) (reason : StatusCode)
  | dataPathRequest (session : UInt8) (address : MacAddress) (path : UInt32) (appInfo : Payload)
  | dataPathConfirm (outcome : DataPathOutcome)
  | dataPathEnd (path : UInt32)
  | scheduleUpdate (peer : MacAddress) (path : UInt32) (channels : Option (List Channel))
  deriving DecidableEq, Repr

end NanAdapter
