import NanAdapter.Event.Basic
import NanAdapter.Log

/-! Anomalies: what a HAL should never do, though nothing breaks if it does. -/

namespace NanAdapter

inductive Anomaly where
  /-- The shape is newer than the negotiated revision. -/
  | revisionMismatch (callback : String) (shape negotiated : Revision)
  /-- The shape is an old one, though a newer one applies. -/
  | supersededShape (callback : String) (shape negotiated : Revision)
  | alreadyEnabled (id : TransactionId)
  | unknownClusterEvent (code : UInt32)
  deriving DecidableEq, Repr

namespace Anomaly

def label : Anomaly → String
  | .revisionMismatch .. => "revision_mismatch"
  | .supersededShape .. => "superseded_shape"
  | .alreadyEnabled _ => "already_enabled"
  | .unknownClusterEvent _ => "unknown_cluster_event"

def message : Anomaly → String
  | .revisionMismatch callback shape negotiated =>
    callback ++ " (" ++ shape.text ++ " shape) should not be called by a " ++ negotiated.text ++ " HAL"
  | .supersededShape callback shape negotiated =>
    callback ++ " (" ++ shape.text ++ " shape) should not be called by a " ++ negotiated.text ++
      " HAL, a newer shape applies"
  | .alreadyEnabled id => "enable response " ++ Text.decimal id.toNat ++ " reported ALREADY_ENABLED"
  | .unknownClusterEvent code => "unknown cluster event type " ++ Text.decimal code.toNat

def entry (a : Anomaly) : LogEntry := ⟨.error, a.message, [("anomaly", a.label)]⟩

end Anomaly

end NanAdapter
