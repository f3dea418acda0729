import NanAdapter.Proofs.Effects

/-! The gate between shapes and the negotiated revision. It decides alone whether an event is dropped,
and what it reports comes before anything that the handling of the event may report. -/

namespace NanAdapter

theorem Revision.not_lt {a b : Revision} : ¬ a < b ↔ b ≤ a := UInt8.not_lt

theorem ClusterEvent.ofCode?_eq_none (code : UInt32) : ofCode? code = none ↔ 2 < code := by
  unfold ofCode?
  split
  · decide
  · decide
  · decide
  next zero one two =>
    refine iff_of_true rfl ?_
    grind

/-- The anomaly is one of shapes, which only the gate reports. -/
def Anomaly.ofShape : Anomaly → Bool
  | .revisionMismatch .. | .supersededShape .. => true
  | .alreadyEnabled _ | .unknownClusterEvent _ => false

namespace Event
variable (e : Event) (negotiated : Revision)

theorem revision_mem : e.revision ∈ e.kind.revisions := by
  apply List.mem_of_elem_eq_true
  cases e with
  | response id status answer =>
    cases answer with
    | capabilities report => cases report <;> rfl
    | _ => rfl
  | indication notice =>
    cases notice with
    | found report => cases report <;> rfl
    | dataPathConfirm result report =>
      cases report with
      | none => rfl
      | some report => cases report <;> rfl
    | scheduleUpdate update report => cases report <;> rfl
    | _ => rfl

theorem outcome_eq_dropped :
    e.outcome negotiated = .dropped ↔ negotiated < e.revision ∧ e.kind ≠ .indication .found := by
  simp only [outcome, EventKind.acceptsNewer, decide_eq_true_eq]
  split <;> simp_all

theorem anomaly?_mismatch (callback : String) (shape known : Revision) :
    e.anomaly? negotiated = some (.revisionMismatch callback shape known) ↔
      negotiated < e.revision ∧ callback = e.callback ∧ shape = e.revision ∧ known = negotiated := by
  simp only [anomaly?]
  split
  · simp_all [eq_comm]
  · split <;> simp_all

theorem anomaly?_superseded (callback : String) (shape known : Revision) :
    e.anomaly? negotiated = some (.supersededShape callback shape known) ↔
      (∃ newer ∈ e.kind.revisions, e.revision < newer ∧ newer ≤ negotiated) ∧
        callback = e.callback ∧ shape = e.revision ∧ known = negotiated := by
  simp only [anomaly?, List.any_eq_true, Bool.and_eq_true, decide_eq_true_eq]
  split
  next tooNew =>
    have none_between : ¬ ∃ newer ∈ e.kind.revisions, e.revision < newer ∧ newer ≤ negotiated := by
      rintro ⟨newer, -, above, below⟩
      exact UInt8.lt_irrefl _ (UInt8.lt_trans tooNew (UInt8.lt_of_lt_of_le above below))
    simp [none_between]
  next =>
    split
    next superseded => simp [superseded, eq_comm]
    next current => simp [current]

theorem anomaly?_ofShape {anomaly : Anomaly} (reported : e.anomaly? negotiated = some anomaly) :
    anomaly.ofShape = true := by
  simp only [anomaly?] at reported
  split at reported
  · cases reported; rfl
  · split at reported
    · cases reported; rfl
    · cases reported

theorem anomaly?_eq_none :
    e.anomaly? negotiated = none ↔
      e.revision ≤ negotiated ∧ ∀ other ∈ e.kind.revisions, other ≤ negotiated → other ≤ e.revision := by
  simp only [anomaly?, List.any_eq_true, Bool.and_eq_true, decide_eq_true_eq]
  split
  next tooNew => simp [← Revision.not_lt, tooNew]
  next applies =>
    split
    next superseded =>
      obtain ⟨newer, member, above, below⟩ := superseded
      refine iff_of_false (by simp) fun ⟨_, greatest⟩ => ?_
      exact Revision.not_lt.mpr (greatest newer member below) above
    next current =>
      refine iff_of_true rfl ⟨Revision.not_lt.mp applies, fun other member below => ?_⟩
      exact Revision.not_lt.mp fun above => current ⟨other, member, above, below⟩

theorem mem_complaints (anomaly : Anomaly) :
    anomaly ∈ e.complaints ↔
      (∃ id status, e = .response id status .enable ∧ status.code.raw = 10 ∧ anomaly = .alreadyEnabled id) ∨
        ∃ code address, e = .indication (.cluster ⟨code, address⟩) ∧ 2 < code ∧
          anomaly = .unknownClusterEvent code := by
  have code (status : Status) : status.code = .alreadyEnabled ↔ status.code.raw = 10 :=
    ⟨congrArg StatusCode.raw, fun same => congrArg StatusCode.mk same⟩
  constructor
  · intro member
    unfold complaints at member
    split at member
    next id status => exact Or.inl ⟨id, status, by simpa [code] using member⟩
    next report => exact Or.inr ⟨report.code, report.address, by simpa [ClusterEvent.ofCode?_eq_none] using member⟩
    next => cases member
  · rintro (⟨id, status, rfl, reported, rfl⟩ | ⟨code, address, rfl, unknown, rfl⟩)
    · simp [complaints, code, reported]
    · simp [complaints, ClusterEvent.ofCode?_eq_none, unknown]

theorem complaints_ofShape {anomaly : Anomaly} (member : anomaly ∈ e.complaints) : anomaly.ofShape = false := by
  rcases (e.mem_complaints anomaly).mp member with ⟨_, _, -, -, rfl⟩ | ⟨_, _, -, -, rfl⟩ <;> rfl

theorem complaints_length_le : e.complaints.length ≤ 1 := by
  unfold complaints
  split
  · split <;> simp
  · split <;> simp
  · decide

theorem complaints_of_dropped (dropped : e.outcome negotiated = .dropped) : e.complaints = [] := by
  obtain ⟨tooNew, -⟩ := (e.outcome_eq_dropped negotiated).mp dropped
  refine List.eq_nil_iff_forall_not_mem.mpr fun anomaly member => ?_
  -- a complaint is about an event in the first shape, and that one is never too new
  have first : e.revision = .v1_0 := by
    rcases (e.mem_complaints anomaly).mp member with ⟨_, _, rfl, -⟩ | ⟨_, _, rfl, -⟩ <;> rfl
  rw [first] at tooNew
  cases negotiated <;> exact absurd tooNew (by decide)

end Event

namespace Adapter
variable (a : Adapter) (e : Event)

/-- What is reported while an event is dispatched, as a sink that records it hears it. -/
def reports : List Anomaly := ({ a with sink := .recording }.dispatch e).2.2.anomalies

theorem reports_eq : a.reports e = (e.anomaly? a.revision).toList ++ e.complaints := by
  rw [reports, dispatch_anomalies, if_pos rfl]
  change _ ++ (if e.outcome a.revision = .processed then e.complaints else []) = _
  cases outcome : e.outcome a.revision with
  | processed => rfl
  | dropped => rw [e.complaints_of_dropped a.revision outcome]; rfl

theorem dispatch_dropped (dropped : (a.dispatch e).1 = .dropped) :
    (a.dispatch e).2.1 = a ∧ (a.dispatch e).2.2.calls = [] := by
  have gate : e.outcome a.revision = .dropped := dropped
  obtain ⟨tooNew, -⟩ := (e.outcome_eq_dropped a.revision).mp gate
  have reported : e.anomaly? a.revision = some (.revisionMismatch e.callback e.revision a.revision) :=
    (e.anomaly?_mismatch a.revision _ _ _).mpr ⟨tooNew, rfl, rfl, rfl⟩
  simp only [dispatch, Event.effects, reported, gate]
  cases a.verbose <;> exact ⟨rfl, rfl⟩

theorem mem_reports (anomaly : Anomaly) :
    anomaly ∈ a.reports e ↔ e.anomaly? a.revision = some anomaly ∨ anomaly ∈ e.complaints := by
  simp [reports_eq]

private theorem reports_current :
    (∀ anomaly ∈ a.reports e, anomaly.ofShape = false) ↔ e.anomaly? a.revision = none := by
  constructor
  · intro current
    cases reported : e.anomaly? a.revision with
    | none => rfl
    | some anomaly =>
      have unshaped := current anomaly ((a.mem_reports e anomaly).mpr (Or.inl reported))
      rw [e.anomaly?_ofShape a.revision reported] at unshaped
      cases unshaped
  · intro fits anomaly member
    rcases (a.mem_reports e anomaly).mp member with reported | complaint
    · rw [fits] at reported
      cases reported
    · exact e.complaints_ofShape complaint

end Adapter

namespace Event
variable {e : Event} {negotiated : Revision}

private theorem base_not_above : ¬ negotiated < .v1_0 := by
  cases negotiated <;> decide

private theorem newest_of_found (tooNew : negotiated < e.revision) (found : e.kind = .indication .found) :
    e.revision = .v1_6 := by
  have known := e.revision_mem
  rw [found] at known
  rcases List.mem_cons.mp known with first | later
  · rw [first] at tooNew
    exact absurd tooNew base_not_above
  · exact List.mem_singleton.mp later

private theorem anomaly?_of_only (only : e.kind.revisions = [.v1_0]) :
    e.outcome negotiated = .processed ∧ e.anomaly? negotiated = none := by
  have known := e.revision_mem
  rw [only] at known
  have base : e.revision = .v1_0 := List.mem_singleton.mp known
  constructor
  · cases outcome : e.outcome negotiated with
    | processed => rfl
    | dropped =>
      obtain ⟨tooNew, -⟩ := (e.outcome_eq_dropped negotiated).mp outcome
      rw [base] at tooNew
      exact absurd tooNew base_not_above
  · rw [e.anomaly?_eq_none, base, only]
    refine ⟨Revision.not_lt.mp base_not_above, fun other member _ => ?_⟩
    rw [List.mem_singleton.mp member]
    exact Revision.not_lt.mp base_not_above

end Event

/-- All that the gate promises of one event in one state. -/
structure Gated (a : Adapter) (e : Event) : Prop where
  shape : e.revision ∈ e.kind.revisions
  drops : (a.dispatch e).1 = .dropped ↔ a.revision < e.revision ∧ e.kind ≠ .indication .found
  /-- Nothing is left of a dropped event but the report that it was too new. -/
  dropped : (a.dispatch e).1 = .dropped →
    (a.dispatch e).2.1 = a ∧ (a.dispatch e).2.2.calls = [] ∧
      a.reports e = [.revisionMismatch e.callback e.revision a.revision]
  mismatch : ∀ callback shape negotiated, .revisionMismatch callback shape negotiated ∈ a.reports e ↔
    a.revision < e.revision ∧ callback = e.callback ∧ shape = e.revision ∧ negotiated = a.revision
  superseded : ∀ callback shape negotiated, .supersededShape callback shape negotiated ∈ a.reports e ↔
    (∃ newer ∈ e.kind.revisions, e.revision < newer ∧ newer ≤ a.revision) ∧
      callback = e.callback ∧ shape = e.revision ∧ negotiated = a.revision
  current : (∀ anomaly ∈ a.reports e, anomaly.ofShape = false) ↔
    e.revision ≤ a.revision ∧ ∀ other ∈ e.kind.revisions, other ≤ a.revision → other ≤ e.revision
  /-- The newest match is the only shape that is accepted before its time. -/
  welcome : (a.dispatch e).1 = .processed → a.revision < e.revision →
    e.kind = .indication .found ∧ e.revision = .v1_6
  /-- What has the first shape only is accepted everywhere, also what gives up channels. -/
  timeless : e.kind.revisions = [.v1_0] ∨ e.kind = .indication .disabled ∨
      e.kind = .indication .dataPathTerminated →
    (a.dispatch e).1 = .processed ∧ ∀ anomaly ∈ a.reports e, anomaly.ofShape = false
  order : ∃ first later, a.reports e = first ++ later ∧ first.length ≤ 1 ∧ later.length ≤ 1 ∧
    (∀ anomaly ∈ first, anomaly.ofShape = true) ∧ ∀ anomaly ∈ later, anomaly.ofShape = false
  enabled : ∀ id, .alreadyEnabled id ∈ a.reports e ↔
    ∃ status, e = .response id status .enable ∧ status.code.raw = 10
  cluster : ∀ code, .unknownClusterEvent code ∈ a.reports e ↔
    ∃ address, e = .indication (.cluster ⟨code, address⟩) ∧ 2 < code
  heard : (a.dispatch e).2.2.anomalies = if a.sink = .recording then a.reports e else []

/-- Whatever the state of the adapter and whatever the event, the gate keeps its promises. -/
theorem every_event_is_gated (a : Adapter) (e : Event) : Gated a e where
  shape := e.revision_mem
  drops := e.outcome_eq_dropped a.revision
  dropped := by
    intro dropped
    obtain ⟨same, silent⟩ := a.dispatch_dropped e dropped
    obtain ⟨tooNew, -⟩ := (e.outcome_eq_dropped a.revision).mp dropped
    refine ⟨same, silent, ?_⟩
    rw [a.reports_eq, e.complaints_of_dropped a.revision dropped,
      (e.anomaly?_mismatch a.revision _ _ _).mpr ⟨tooNew, rfl, rfl, rfl⟩]
    rfl
  mismatch := by
    intro callback shape negotiated
    simp [a.mem_reports, e.anomaly?_mismatch, e.mem_complaints]
  superseded := by
    intro callback shape negotiated
    simp [a.mem_reports, e.anomaly?_superseded, e.mem_complaints]
  current := (a.reports_current e).trans (e.anomaly?_eq_none a.revision)
  welcome := by
    intro processed tooNew
    have found : e.kind = .indication .found := by
      refine Decidable.byContradiction fun other => ?_
      have dropped : (a.dispatch e).1 = .dropped := (e.outcome_eq_dropped a.revision).mpr ⟨tooNew, other⟩
      rw [dropped] at processed
      cases processed
    exact ⟨found, Event.newest_of_found tooNew found⟩
  timeless := by
    intro once
    have only : e.kind.revisions = [.v1_0] := by
      rcases once with only | disabled | ended
      · exact only
      · rw [disabled]; rfl
      · rw [ended]; rfl
    have accepted : e.outcome a.revision = .processed ∧ e.anomaly? a.revision = none := Event.anomaly?_of_only only
    exact ⟨accepted.1, (a.reports_current e).mpr accepted.2⟩
  order := by
    refine ⟨(e.anomaly? a.revision).toList, e.complaints, a.reports_eq e, ?_, e.complaints_length_le, ?_, ?_⟩
    · cases e.anomaly? a.revision <;> simp
    · intro anomaly member
      exact e.anomaly?_ofShape a.revision (Option.mem_toList.mp member)
    · intro anomaly member
      exact e.complaints_ofShape member
  enabled := by
    intro id
    rw [a.mem_reports, e.mem_complaints]
    constructor
    · rintro (reported | ⟨_, status, sent, code, same⟩ | ⟨_, _, -, -, same⟩)
      · cases e.anomaly?_ofShape a.revision reported
      · cases same
        exact ⟨status, sent, code⟩
      · cases same
    · rintro ⟨status, sent, code⟩
      exact Or.inr (Or.inl ⟨id, status, sent, code, rfl⟩)
  cluster := by
    intro code
    rw [a.mem_reports, e.mem_complaints]
    constructor
    · rintro (reported | ⟨_, _, -, -, same⟩ | ⟨_, address, sent, unknown, same⟩)
      · cases e.anomaly?_ofShape a.revision reported
      · cases same
      · cases same
        exact ⟨address, sent, unknown⟩
    · rintro ⟨address, sent, unknown⟩
      exact Or.inr (Or.inr ⟨code, address, sent, unknown, rfl⟩)
  heard := by
    rw [a.dispatch_anomalies, Adapter.reports, Adapter.dispatch_anomalies, if_pos rfl]
    rfl

end NanAdapter
