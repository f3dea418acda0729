import Mathlib.Data.List.TakeWhile
import NanAdapter.Proofs.CutTexts
import NanAdapter.Proofs.WholeTexts

/-! Traces that break off, and traces with something behind them. An event is held back as a whole before anything in it
is wanted, so the end of a text shows before any member can be missed. -/

namespace NanAdapter

/-- The end of the text is blamed. -/
def EndsEarly (result : Except Fault α) : Prop := ∃ b : Break, result = .error b.fault ∧ b.Ends

theorem EndsEarly.bind {first : Except Fault α} (early : EndsEarly first) (next : α → Except Fault β) :
    EndsEarly (first >>= next) := by
  obtain ⟨b, rfl, ends⟩ := early
  exact ⟨b, rfl, ends⟩

theorem EndsEarly.map {first : Except Fault α} (early : EndsEarly first) (change : α → β) :
    EndsEarly (first.map change) := by
  obtain ⟨b, rfl, ends⟩ := early
  exact ⟨b, rfl, ends⟩

/-! Torn documents are not held back. -/

mutual
theorem Doc.Cut.settle {json : Json} {doc : Doc Break} (cut : Doc.Cut json doc) :
    EndsEarly (doc.settle Break.fault) ∨ ∃ other, doc.settle Break.fault = .ok other := by
  match cut with
  | .flawed ends => exact .inl ⟨_, rfl, ends⟩
  | .number _ other =>
    cases doc with
    | int value | real value => exact .inr ⟨_, rfl⟩
    | _ => exact absurd other id
  | .arr cut => exact .inl (cut.settle.map _)
  | .obj cut => exact .inl (cut.settle.map _)

theorem Items.Cut.settle {items : Items Empty} {torn : Items Break} (cut : Items.Cut items torn) :
    EndsEarly (torn.settle Break.fault) := by
  match cut with
  | .here ends => exact ⟨_, rfl, ends⟩
  | .head cut ends =>
    rw [Items.settle]
    rcases cut.settle with early | ⟨other, settled⟩
    · exact early.bind _
    · rw [settled]
      exact ⟨_, rfl, ends⟩
  | .rest cut =>
    rw [Items.settle, Doc.settle_lift]
    exact cut.settle.bind _

theorem Members.Cut.settle {members : Members Empty} {torn : Members Break} (cut : Members.Cut members torn) :
    EndsEarly (torn.settle Break.fault) := by
  match cut with
  | .here ends => exact ⟨_, rfl, ends⟩
  | .name ends => exact ⟨_, rfl, ends⟩
  | .value cut ends =>
    rw [Members.settle]
    rcases cut.settle with early | ⟨other, settled⟩
    · exact early.bind _
    · rw [settled]
      exact ⟨_, rfl, ends⟩
  | .rest cut =>
    rw [Members.settle, Doc.settle_lift]
    exact cut.settle.bind _
end

/-! Torn arrays and objects -/

/-- With a torn document the reading fails for the end of the text, or it goes on. -/
def Tears (read : Doc Break → Except Fault α) : Prop :=
  ∀ json doc value, Doc.Cut json doc → read json.lift = .ok value → EndsEarly (read doc) ∨ ∃ other, read doc = .ok other

theorem Items.Cut.mapM {read : Doc Break → Except Fault α} (tears : Tears read) {items : Items Empty}
    {torn : Items Break} (cut : Items.Cut items torn) {values : List α}
    (taken : items.lift.mapM Break.fault read = .ok values) : EndsEarly (torn.mapM Break.fault read) := by
  cases cut with
  | here ends => exact ⟨_, rfl, ends⟩
  | head cut ends =>
    obtain ⟨value, here, -⟩ := bind_eq_ok.mp taken
    rw [Items.mapM]
    rcases tears _ _ _ cut here with early | ⟨other, read⟩
    · exact early.bind _
    · rw [read]
      exact ⟨_, rfl, ends⟩
  | rest cut =>
    obtain ⟨value, here, taken⟩ := bind_eq_ok.mp taken
    obtain ⟨others, later, -⟩ := bind_eq_ok.mp taken
    rw [Items.mapM, here]
    exact (cut.mapM tears later).bind _

theorem Members.Cut.foldM {step : σ → String → Doc Break → Except Fault σ}
    (tears : ∀ state key, Tears (step state key)) {members : Members Empty} {torn : Members Break}
    (cut : Members.Cut members torn) {state last : σ}
    (folded : members.lift.foldM Break.fault step state = .ok last) :
    EndsEarly (torn.foldM Break.fault step state) := by
  cases cut with
  | here ends => exact ⟨_, rfl, ends⟩
  | name ends => exact ⟨_, rfl, ends⟩
  | value cut ends =>
    obtain ⟨next, here, -⟩ := bind_eq_ok.mp folded
    rw [Members.foldM]
    rcases tears state _ _ _ _ cut here with early | ⟨other, stepped⟩
    · exact early.bind _
    · rw [stepped]
      exact ⟨_, rfl, ends⟩
  | rest cut =>
    obtain ⟨next, here, later⟩ := bind_eq_ok.mp folded
    rw [Members.foldM, here]
    exact cut.foldM tears later

/-! Events and traces -/

theorem Names.tears_readTag (names : Names κ) : Tears (names.readTag Break.fault .text) := by
  intro json doc k cut read
  cases json with
  | str text =>
    cases cut with
    | flawed ends => exact .inl ⟨_, rfl, ends⟩
    | number number => exact absurd number id
  | flawed flaw => exact flaw.reading.elim
  | _ => cases read

theorem tears_settle : Tears (Doc.settle Break.fault) := fun _ _ _ cut _ => cut.settle

theorem Tears.map {read : Doc Break → Except Fault α} (tears : Tears read) (change : α → β) :
    Tears fun doc => (read doc).map change := by
  intro json doc value cut taken
  obtain ⟨first, taken, -⟩ := map_eq_ok.mp taken
  rcases tears _ _ _ cut taken with early | ⟨other, found⟩
  · exact .inl (early.map change)
  · exact .inr ⟨change other, congrArg (Except.map change) found⟩

theorem Schema.tears_tagged {κ : Type} {body slots : κ → Type} {name tag : String} {names : Names κ}
    {title : κ → String} {fields : (k : κ) → Fields (body k) (slots k)} {shape : Shape ((k : κ) × body k) α}
    {json : Json} {doc : Doc Break} {value : α} (cut : Doc.Cut json doc)
    (taken : (tagged name tag names title fields shape).read Break.fault .text json.lift = .ok value) :
    EndsEarly ((tagged name tag names title fields shape).read Break.fault .text doc) := by
  match cut with
  | .flawed ends => exact ⟨_, rfl, ends⟩
  | .number number _ =>
    cases json with
    | int _ | real _ => cases taken
    | _ => exact absurd number id
  | .arr cut =>
    cases cut with
    | here ends => exact ⟨_, rfl, ends⟩
    | head cut ends =>
      obtain ⟨k, labelled, -⟩ := bind_eq_ok.mp taken
      rw [read]
      rcases names.tears_readTag _ _ _ cut labelled with early | ⟨other, found⟩
      · exact early.bind _
      · rw [found]
        exact ⟨_, rfl, ends⟩
    | rest cut =>
      obtain ⟨k, labelled, -⟩ := bind_eq_ok.mp taken
      rw [read, labelled]
      exact cut.settle.bind _
  | .obj cut =>
    rw [Doc.lift, read] at taken
    rw [read]
    obtain ⟨last, folded, -⟩ := bind_eq_ok.mp taken
    refine (cut.foldM ?_ folded).bind _
    intro state key
    obtain ⟨k?, others⟩ := state
    by_cases labels : key = tag
    · simp only [labels, if_true]
      cases k? with
      | none => exact names.tears_readTag.map _
      | some k =>
        intro _ _ _ _ impossible
        cases impossible
    · simp only [labels, if_false]
      exact tears_settle.map _

theorem Event.tears : Tears (schema.read Break.fault .text) := by
  intro json doc e cut taken
  exact .inl (Schema.tears_tagged cut taken)

theorem Trace.tears {json : Json} {doc : Doc Break} {events : List Event} (cut : Doc.Cut json doc)
    (taken : schema.read Break.fault .text json.lift = .ok events) :
    EndsEarly (schema.read Break.fault .text doc) := by
  match cut with
  | .flawed ends => exact ⟨_, rfl, ends⟩
  | .number number _ =>
    cases json with
    | int _ | real _ => cases taken
    | _ => exact absurd number id
  | .arr cut => exact cut.mapM Event.tears taken
  | .obj _ => cases taken

/-! Texts -/

theorem Json.skipGap_eq_nil {cs : List Char} : skipGap cs = [] ↔ ∀ c ∈ cs, isGap c = true := List.dropWhile_eq_nil_iff

namespace Trace

/-- The text of an accepted trace holds an array, and behind it there is nothing but gaps. -/
theorem scan_of_accepted {text : String} {events : List Event} (accepted : ofText text = .ok events) :
    ∃ (items : Items Empty) (rest : List Char), Json.scan Json.deepest text.toList = (.arr items.lift, rest) ∧
      Json.skipGap rest = [] ∧ schema.read Break.fault .text (.arr items.lift) = .ok events := by
  obtain ⟨taken, closed⟩ := Json.readText_eq_ok.mp (Trace.ofText_eq_ok.mp accepted)
  obtain ⟨json, settled⟩ := Trace.settles taken
  have same := Doc.lift_of_settle _ _ settled
  cases scanned : Json.scan Json.deepest text.toList with
  | mk doc rest =>
    rw [scanned] at taken closed same
    dsimp only at taken closed same
    subst same
    cases json with
    | arr items => exact ⟨items, rest, rfl, closed, taken⟩
    | flawed flaw => exact flaw.reading.elim
    | _ => cases taken

theorem ofText_eq_error {text : String} {fault : Fault} (refused : schema.ofText text = .error fault) :
    ∃ e, ofText text = .error e ∧ e.cause = fault := by
  rw [ofText, refused]
  exact ⟨_, rfl, rfl⟩

/-- Where something of the array is missing, the end of the text is blamed. -/
theorem cut_is_detected {text : String} {events : List Event} (accepted : ofText text = .ok events)
    (plain : Json.noExponent false text.toList) {p q : List Char} (same : text.toList = p ++ q)
    (missing : ∃ c ∈ q, Json.isGap c = false) :
    ∃ e, ofText (String.ofList p) = .error e ∧ e.cause.category = "eof" := by
  obtain ⟨items, rest, scanned, closed, taken⟩ := scan_of_accepted accepted
  rw [Json.scan, same] at scanned
  rw [same] at plain
  rcases Json.scanValue_cut (.arr items) plain scanned (2 * p.length + 2) with ⟨r, rfl, -⟩ | ⟨torn, broken, cut⟩
  · obtain ⟨c, member, other⟩ := missing
    have gap := Json.skipGap_eq_nil.mp closed c (List.mem_append_right r member)
    rw [other] at gap
    cases gap
  · obtain ⟨b, refused, ends⟩ := Trace.tears cut taken
    have fails : schema.ofText (String.ofList p) = .error b.fault := by
      rw [Schema.ofText, Json.readText, String.toList_ofList, Json.scan, broken]
      dsimp only
      rw [refused]
      rfl
    obtain ⟨e, failed, cause⟩ := ofText_eq_error fails
    refine ⟨e, failed, ?_⟩
    rw [cause]
    exact if_pos ends

/-- Behind the array only gaps are allowed. -/
theorem surplus_is_detected {text more : String} {events : List Event} (accepted : ofText text = .ok events)
    (surplus : ∃ c ∈ more.toList, Json.isGap c = false) :
    ∃ e, ofText (text ++ more) = .error e ∧ e.cause.category = "syntax" := by
  obtain ⟨items, rest, scanned, closed, taken⟩ := scan_of_accepted accepted
  have longer := Json.scanValue_more (.arr items) scanned (.inr id) more.toList
    (by rw [List.length_append]; omega : _ ≤ 2 * (text.toList ++ more.toList).length + 2)
  have open_ : Json.skipGap (rest ++ more.toList) ≠ [] := by
    intro gap
    obtain ⟨c, member, other⟩ := surplus
    rw [Json.skipGap_eq_nil.mp gap c (List.mem_append_right rest member)] at other
    cases other
  have fails : schema.ofText (text ++ more) =
      .error (Break.within (Json.skipGap (rest ++ more.toList)) .surplus).fault := by
    rw [Schema.ofText, Json.readText, String.toList_append, Json.scan, longer]
    dsimp only [Doc.lift]
    rw [taken]
    exact if_neg open_
  obtain ⟨e, failed, cause⟩ := ofText_eq_error fails
  refine ⟨e, failed, ?_⟩
  rw [cause]
  rfl

theorem closing_bracket {text : String} {events : List Event} (accepted : ofText text = .ok events)
    (plain : Json.noExponent false text.toList) :
    ∃ inside after, text.toList = inside ++ ']' :: after ∧ ∀ c ∈ after, Json.isGap c = true := by
  obtain ⟨items, rest, scanned, closed, -⟩ := scan_of_accepted accepted
  obtain ⟨-, inner, opens, elements⟩ := Json.scanValue_arr scanned
  obtain ⟨plain, begins⟩ := Json.skipGap_plain (by decide) plain opens
  obtain ⟨inside, same⟩ := (Json.scanItems_plain items plain elements).2.trans ((List.suffix_cons _ _).trans begins)
  exact ⟨inside, rest, same.symm, Json.skipGap_eq_nil.mp closed⟩

end Trace

/-- A trace that breaks off, or that has something behind it, is always detected. -/
theorem traces_are_delimited {text : String} {events : List Event} (accepted : Trace.ofText text = .ok events) :
    (Json.noExponent false text.toList →
      ∃ inside after, text.toList = inside ++ ']' :: after ∧ (∀ c ∈ after, Json.isGap c = true) ∧
        ∀ part, part <+: inside → ∃ e, Trace.ofText (String.ofList part) = .error e ∧ e.cause.category = "eof") ∧
      (∀ more : String, (∃ c ∈ more.toList, Json.isGap c = false) →
        ∃ e, Trace.ofText (text ++ more) = .error e ∧ e.cause.category = "syntax") ∧
      ∀ (more : String) (others : List Event), Trace.ofText (text ++ more) = .ok others →
        ∀ c ∈ more.toList, Json.isGap c = true := by
  refine ⟨fun plain => ?_, fun more => Trace.surplus_is_detected accepted, fun more others longer c member => ?_⟩
  · obtain ⟨inside, after, same, gaps⟩ := Trace.closing_bracket accepted plain
    refine ⟨inside, after, same, gaps, ?_⟩
    rintro part ⟨missing, rfl⟩
    rw [List.append_assoc] at same
    exact Trace.cut_is_detected accepted plain same ⟨']', List.mem_append_right _ List.mem_cons_self, rfl⟩
  · by_contra other
    obtain ⟨e, failed, -⟩ := Trace.surplus_is_detected accepted ⟨c, member, Bool.eq_false_iff.mpr other⟩
    cases failed.symm.trans longer

/-- One event with a member that nobody knows. -/
theorem traces_are_delimited_after_fraction :
    let text := "[\x7b\"event\":\"data_path_terminated\",\"ndp_instance_id\":4,\"e\":0.5\x7d]"
    Trace.ofText text = .ok [.indication (.dataPathTerminated 4)] ∧
      (∃ inside after, text.toList = inside ++ ']' :: after ∧ (∀ c ∈ after, Json.isGap c = true) ∧
        ∀ part, part <+: inside → ∃ e, Trace.ofText (String.ofList part) = .error e ∧ e.cause.category = "eof") ∧
      ∃ e, Trace.ofText (text ++ "]") = .error e ∧ e.cause.category = "syntax" := by
  intro text
  have accepted : Trace.ofText text = .ok [.indication (.dataPathTerminated 4)] := by decide +kernel
  have plain : Json.noExponent false text.toList := by decide +kernel
  obtain ⟨cut, surplus, -⟩ := traces_are_delimited accepted
  exact ⟨accepted, cut plain, surplus "]" ⟨']', by decide, rfl⟩⟩

end NanAdapter
