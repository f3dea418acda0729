import NanAdapter.Revision

/-! The negotiated revision as it is stored: one octet, which is only ever raised. -/

namespace NanAdapter

structure Register where
  code : UInt8
  deriving DecidableEq, Repr

namespace Register

def ofRevision (r : Revision) : Register := ⟨r.code⟩

/-- What a stored code stands for; a code that stands for nothing counts as the lowest revision. -/
def revision (g : Register) : Revision := (Revision.ofCode? g.code).getD .v1_0

/-- Stores the greater of the two codes. -/
def raise (g : Register) (r : Revision) : Register := ⟨max g.code r.code⟩

@[simp] theorem revision_ofRevision (r : Revision) : (ofRevision r).revision = r := by cases r <;> rfl

theorem raise_ofRevision (a b : Revision) : (ofRevision a).raise b = ofRevision (max a b) := by
  cases a <;> cases b <;> rfl

end Register

end NanAdapter
