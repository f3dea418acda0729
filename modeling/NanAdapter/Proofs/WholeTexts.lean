import NanAdapter.Proofs.EventDocuments
import NanAdapter.Replay.Trace

/-! An event is taken from a text only if the text holds a whole document, and so is a trace: everything in an
event is held back until its tag is known, also what nobody wants in the end. -/

namespace NanAdapter

section Settling
variable {φ : Type} (blame : φ → Fault)

/-- Nothing in the document keeps it from being held back. -/
def Doc.Settles (doc : Doc φ) : Prop := ∃ json, doc.settle blame = .ok json

theorem Names.settles_of_readTag {names : Names κ} {source : Source} {label : Doc φ} {k : κ}
    (read : names.readTag blame source label = .ok k) : label.Settles blame := by
  cases label with
  | str text => exact ⟨.str text, rfl⟩
  | int value => exact ⟨.int value, rfl⟩
  | null | bool _ | real _ | arr _ | obj _ | flawed _ => simp [readTag] at read

theorem Members.settles_of_foldM {σ : Type} {step : σ → String → Doc φ → Except Fault σ}
    (settles : ∀ {state key doc next}, step state key doc = .ok next → doc.Settles blame) (members : Members φ)
    {state last : σ} (folded : members.foldM blame step state = .ok last) :
    ∃ held, members.settle blame = .ok held := by
  match members with
  | .done => exact ⟨.done, rfl⟩
  | .broken flaw => cases folded
  | .cons (.flawed flaw) _ _ => cases folded
  | .cons (.name key) value rest =>
    obtain ⟨next, stepped, folded⟩ := bind_eq_ok.mp folded
    obtain ⟨json, taken⟩ := settles stepped
    obtain ⟨held, others⟩ := rest.settles_of_foldM settles folded
    refine ⟨.cons (.name key) json held, ?_⟩
    rw [settle, taken, others]
    rfl
termination_by structural members

theorem Items.settles_of_mapM {read : Doc φ → Except Fault α}
    (settles : ∀ {doc value}, read doc = .ok value → doc.Settles blame) (items : Items φ) {values : List α}
    (taken : items.mapM blame read = .ok values) : ∃ held, items.settle blame = .ok held := by
  match items with
  | .done => exact ⟨.done, rfl⟩
  | .broken flaw => cases taken
  | .cons head rest =>
    obtain ⟨value, first, taken⟩ := bind_eq_ok.mp taken
    obtain ⟨others, later, -⟩ := bind_eq_ok.mp taken
    obtain ⟨json, taken⟩ := settles first
    obtain ⟨held, others⟩ := rest.settles_of_mapM settles later
    refine ⟨.cons json held, ?_⟩
    rw [settle, taken, others]
    rfl
termination_by structural items

namespace Schema

theorem settles_of_tagged {κ : Type} {body slots : κ → Type} {name tag : String} {names : Names κ}
    {title : κ → String} {fields : (k : κ) → Fields (body k) (slots k)} {shape : Shape ((k : κ) × body k) α}
    {source : Source} {doc : Doc φ} {value : α}
    (taken : (tagged name tag names title fields shape).read blame source doc = .ok value) : doc.Settles blame := by
  cases doc with
  | obj members =>
    rw [read] at taken
    obtain ⟨last, folded, -⟩ := bind_eq_ok.mp taken
    refine Exists.elim (members.settles_of_foldM blame ?_ folded) fun held settled =>
      ⟨.obj held, by rw [Doc.settle, settled]; rfl⟩
    intro state key doc next stepped
    obtain ⟨k?, others⟩ := state
    dsimp only at stepped
    split at stepped
    next =>
      cases k? with
      | some _ => cases stepped
      | none =>
        obtain ⟨k, labelled, -⟩ := map_eq_ok.mp stepped
        exact names.settles_of_readTag blame labelled
    next =>
      obtain ⟨json, settled, -⟩ := map_eq_ok.mp stepped
      exact ⟨json, settled⟩
  | arr items =>
    cases items with
    | done => simp [read] at taken
    | broken flaw => simp [read] at taken
    | cons head rest =>
      rw [read] at taken
      obtain ⟨k, labelled, taken⟩ := bind_eq_ok.mp taken
      obtain ⟨held, settled, -⟩ := bind_eq_ok.mp taken
      obtain ⟨label, first⟩ := names.settles_of_readTag blame labelled
      refine ⟨.arr (.cons label held), ?_⟩
      rw [Doc.settle, Items.settle, first, settled]
      rfl
  | null | bool _ | int _ | real _ | str _ | flawed _ => simp [read] at taken

theorem settles_of_list {item : Schema α} {source : Source}
    (settles : ∀ {doc : Doc φ} {value : α}, item.read blame source doc = .ok value → doc.Settles blame) {doc : Doc φ}
    {values : List α} (taken : (list item).read blame source doc = .ok values) : doc.Settles blame := by
  cases doc with
  | arr items =>
    obtain ⟨held, settled⟩ := items.settles_of_mapM blame settles taken
    exact ⟨.arr held, by rw [Doc.settle, settled]; rfl⟩
  | null | bool _ | int _ | real _ | str _ | obj _ | flawed _ => simp [read] at taken

end Schema

end Settling

/-- A text is accepted for what its document is read as. -/
theorem Schema.ofText_eq_ok {schema : Schema α}
    (settles : ∀ {doc value}, schema.read Break.fault .text doc = .ok value → doc.Settles Break.fault) {text : String}
    {value : α} :
    schema.ofText text = .ok value ↔
      ∃ json, Json.ofText text = .ok json ∧ schema.read Break.fault .text json.lift = .ok value := by
  rw [ofText, Json.readText_eq_ok]
  constructor
  · intro found
    obtain ⟨taken, closed⟩ := found
    obtain ⟨json, settled⟩ := settles taken
    rw [← Doc.lift_of_settle _ _ settled] at taken
    exact ⟨json, Json.readText_eq_ok.mpr ⟨settled, closed⟩, taken⟩
  · intro found
    obtain ⟨json, holds, taken⟩ := found
    obtain ⟨settled, closed⟩ := Json.readText_eq_ok.mp holds
    rw [Doc.lift_of_settle _ _ settled] at taken
    exact ⟨taken, closed⟩

theorem Schema.ofText_of_holds {schema : Schema α}
    (settles : ∀ {doc value}, schema.read Break.fault .text doc = .ok value → doc.Settles Break.fault) {text : String}
    {json : Json} (holds : Json.ofText text = .ok json) {value : α} :
    schema.ofText text = .ok value ↔ schema.read Break.fault .text json.lift = .ok value := by
  rw [ofText_eq_ok settles, holds]
  constructor
  · intro found
    obtain ⟨_, same, taken⟩ := found
    cases same
    exact taken
  · exact fun taken => ⟨json, rfl, taken⟩

theorem Json.ofText_text {json : Json} (fits : json.Fits deepest) : ofText json.text = .ok json := by
  refine readText_eq_ok.mpr ?_
  rw [text, String.toList_ofList, scan_chars fits]
  exact ⟨json.settle_lift _, rfl⟩

theorem Event.settles {doc : Doc Break} {e : Event} (taken : schema.read Break.fault .text doc = .ok e) :
    doc.Settles Break.fault :=
  Schema.settles_of_tagged Break.fault taken

theorem Trace.settles {doc : Doc Break} {events : List Event}
    (taken : schema.read Break.fault .text doc = .ok events) : doc.Settles Break.fault :=
  Schema.settles_of_list Break.fault Event.settles taken

theorem Trace.ofText_eq_ok {text : String} {events : List Event} :
    Trace.ofText text = .ok events ↔ schema.ofText text = .ok events := by
  rw [ofText]
  exact mapError_eq_ok

end NanAdapter
