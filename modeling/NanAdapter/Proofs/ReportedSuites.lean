import NanAdapter.Proofs.DefinedSuites

/-! The cipher suites of a capability report. One test serves the records of all revisions: the four lowest bits of the
mask stand for the four suites, and the others for nothing. So a record of a revision that knew no public keys reports
them too, if its mask has their bits. -/

namespace NanAdapter

/-- The mask of cipher suites, wherever the record has it. -/
def CapabilityReport.cipherMask : CapabilityReport → UInt32
  | .v1_0 record => record.cipherMask
  | .v1_5 record => record.base.cipherMask
  | .v1_6 record => record.cipherMask

namespace CipherSuites

/-- The suites that the first revision knows. -/
def sharedKeys : List CipherSuites := [sharedKey128, sharedKey256]

/-- A mask stands for the suites whose bits it has. -/
theorem members_ofMask (mask : UInt32) :
    (ofMask mask).members = (halBits.filter fun entry => mask &&& entry.1 ≠ 0).map (·.2) := by
  have listed : halBits = defined.map fun suite => (suite.bits, suite) := rfl
  have picked : ∀ suite ∈ defined, (ofMask mask).contains suite = decide (mask &&& suite.bits ≠ 0) := by
    intro suite known
    rw [ofMask_eq_truncate, contains_truncate known ⟨mask⟩, Bool.eq_iff_iff, decide_eq_true_eq]
    exact (single_of_defined known).contains_iff ⟨mask⟩
  rw [members_eq, List.filter_congr picked, listed, List.filter_map, List.map_map]
  exact (List.map_id _).symm

theorem mem_members {suite s : CipherSuites} : suite ∈ s.members ↔ suite ∈ defined ∧ s.bits &&& suite.bits ≠ 0 := by
  rw [members_eq, List.mem_filter]
  exact and_congr_right fun known => (single_of_defined known).contains_iff s

/-- A set has only shared keys if it has neither bit of the public ones. -/
theorem members_shared_iff (s : CipherSuites) :
    (∀ suite ∈ s.members, suite ∈ sharedKeys) ↔ s.bits &&& 0xC = 0 := by
  have publicBits : s.bits &&& 0xC = s.bits &&& publicKey128.bits ||| s.bits &&& publicKey256.bits :=
    and_or s.bits publicKey128.bits publicKey256.bits
  rw [publicBits, UInt32.or_eq_zero_iff]
  constructor
  · intro shared
    have absent {suite : CipherSuites} (known : suite ∈ defined) (foreign : suite ∉ sharedKeys) :
        s.bits &&& suite.bits = 0 := by
      apply Classical.byContradiction
      intro here
      exact foreign (shared suite (mem_members.mpr ⟨known, here⟩))
    exact ⟨absent (by decide) (by decide), absent (by decide) (by decide)⟩
  · intro absent suite member
    obtain ⟨known, here⟩ := mem_members.mp member
    have kinds : ∀ suite ∈ defined, suite ∈ sharedKeys ∨ suite = publicKey128 ∨ suite = publicKey256 := by decide
    obtain shared | rfl | rfl := kinds suite known
    · exact shared
    · exact absurd absent.1 here
    · exact absurd absent.2 here

end CipherSuites

namespace Capabilities
open CipherSuites

theorem ciphers_ofReport (report : CapabilityReport) : (ofReport report).ciphers = .ofMask report.cipherMask := by
  cases report <;> rfl

/-- A report names the suites whose bits its mask has among the four lowest, and no others, whatever its revision. The
other bits make no difference. Only a mask without the bits of the public keys leaves the shared ones alone. -/
theorem every_record_reports_four_suites (report : CapabilityReport) :
    let mask := report.cipherMask
    let found := (ofReport report).ciphers
    found.members = (halBits.filter fun entry => mask &&& entry.1 ≠ 0).map (·.2) ∧ found.bits = mask &&& 0xF ∧
      (∀ suite ∈ defined, suite ∈ found.members ↔ mask &&& suite.bits ≠ 0) ∧
      (∀ other : CapabilityReport, (ofReport other).ciphers = found ↔ other.cipherMask &&& 0xF = mask &&& 0xF) ∧
      ((∀ suite ∈ found.members, suite ∈ sharedKeys) ↔ mask &&& 0xC = 0) := by
  intro mask found
  have taken : found = truncate mask := (ciphers_ofReport report).trans (ofMask_eq_truncate mask)
  have listed : found.members = members ⟨mask⟩ := by
    rw [taken, members, toList_truncate ⟨mask⟩]
    rfl
  refine ⟨?_, congrArg bits taken, ?_, ?_, ?_⟩
  · rw [← members_ofMask]
    exact congrArg members (ciphers_ofReport report)
  · intro suite known
    rw [listed, mem_members]
    exact and_iff_right known
  · intro other
    rw [taken, ciphers_ofReport, ofMask_eq_truncate]
    exact ⟨congrArg bits, congrArg CipherSuites.mk⟩
  · rw [listed]
    exact members_shared_iff ⟨mask⟩

/-- Records of two revisions that knew shared keys only report public ones. -/
theorem older_records_report_public_keys :
    let record : BaseCapabilities := { BaseCapabilities.zero with cipherMask := 4 }
    let first := (ofReport (.v1_0 record)).ciphers
    let second := (ofReport (.v1_5 ⟨{ record with cipherMask := 9 }, true⟩)).ciphers
    first.members = [publicKey128] ∧ first.text = "NCS_PK_128" ∧
      second.members = [sharedKey128, publicKey256] ∧ second.text = "NCS_SK_128|NCS_PK_256" := by
  decide

end Capabilities

end NanAdapter
