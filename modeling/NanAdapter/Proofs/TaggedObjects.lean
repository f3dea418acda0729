import NanAdapter.Proofs.Objects

/-! Objects with a tag. A tag may stand anywhere among the members, before or after the content that it
stands for, and decides what the other members are. -/

namespace NanAdapter

theorem Names.find?_eq_some {names : Names κ} (known : names.Lawful) {text : String} {k : κ} :
    names.find? text = some k ↔ text = names.name k := by
  constructor
  · intro found
    have same : names.name k = text := by simpa using List.find?_some found
    exact same.symm
  · rintro rfl
    exact known k

section Tags
variable {names : Names κ} {φ : Type} (blame : φ → Fault) (source : Source)

theorem Names.read_text (known : names.Lawful) {text : String} {k : κ} :
    names.read blame source (.str text) = .ok k ↔ text = names.name k :=
  (read_str blame source).trans (find?_eq_some known)

theorem Names.readTag_text (known : names.Lawful) {text : String} {k : κ} :
    names.readTag blame source (.str text) = .ok k ↔ text = names.name k :=
  (readTag_str blame source).trans (find?_eq_some known)

end Tags

namespace Json

theorem filter_other {members : List (String × Json)} {name : String} (absent : name ∉ members.map (·.1)) :
    members.filter (fun member => member.1 ≠ name) = members := by
  refine List.filter_eq_self.mpr fun member known => ?_
  simp only [decide_eq_true_eq]
  exact fun same => absent (List.mem_map.mpr ⟨member, known, same⟩)

theorem filter_name {members : List (String × Json)} (distinct : Distinct members) (name : String) :
    members.filter (fun member => member.1 = name) = (members.lookup name).toList.map (name, ·) := by
  induction members with
  | nil => rfl
  | cons member rest ih =>
    obtain ⟨key, json⟩ := member
    obtain ⟨single, distinct⟩ := List.nodup_cons.mp distinct
    by_cases here : name = key
    · subst here
      have others : rest.filter (fun member => member.1 = name) = [] := by
        refine List.filter_eq_nil_iff.mpr fun member known same => ?_
        exact single (List.mem_map.mpr ⟨member, known, of_decide_eq_true same⟩)
      rw [List.filter_cons_of_pos (by simp), others, List.lookup_cons_self]
      rfl
    · have elsewhere : (name == key) = false := beq_eq_false_iff_ne.mpr here
      rw [List.filter_cons_of_neg (by simpa using Ne.symm here), List.lookup_cons, elsewhere]
      exact ih distinct

theorem lookup_filter {members : List (String × Json)} {name other : String} (unlike : name ≠ other) :
    (members.filter fun member => member.1 ≠ other).lookup name = members.lookup name := by
  induction members with
  | nil => rfl
  | cons member rest ih =>
    obtain ⟨key, json⟩ := member
    by_cases here : key = other
    · have elsewhere : (name == key) = false := beq_eq_false_iff_ne.mpr (here ▸ unlike)
      rw [List.filter_cons_of_neg (by simpa using here), List.lookup_cons, elsewhere, ih]
    · rw [List.filter_cons_of_pos (by simpa using here), List.lookup_cons, List.lookup_cons, ih]

private theorem filter_either {members : List (String × Json)} {first : String} (absent : first ∉ members.map (·.1))
    (second : String) :
    members.filter (fun member => member.1 = first ∨ member.1 = second) =
      members.filter fun member => member.1 = second := by
  refine List.filter_congr fun member known => ?_
  have other : member.1 ≠ first := fun same => absent (List.mem_map.mpr ⟨member, known, same⟩)
  simp [other]

/-- Of the members of two names whichever stands first comes first. -/
theorem filter_names {members : List (String × Json)} (distinct : Distinct members) {first second : String}
    (unlike : second ≠ first) :
    (members.filter fun member => member.1 = first ∨ member.1 = second) =
        (members.lookup first).toList.map (first, ·) ++ (members.lookup second).toList.map (second, ·) ∨
      (members.filter fun member => member.1 = first ∨ member.1 = second) =
        (members.lookup second).toList.map (second, ·) ++ (members.lookup first).toList.map (first, ·) := by
  induction members with
  | nil => exact Or.inl rfl
  | cons member rest ih =>
    obtain ⟨key, json⟩ := member
    obtain ⟨single, distinct⟩ := List.nodup_cons.mp distinct
    by_cases here : key = first
    · subst here
      refine Or.inl ?_
      have elsewhere : (second == key) = false := beq_eq_false_iff_ne.mpr unlike
      rw [List.filter_cons_of_pos (by simp), filter_either single, filter_name distinct, List.lookup_cons_self,
        List.lookup_cons, elsewhere]
      rfl
    · have elsewhere : (first == key) = false := beq_eq_false_iff_ne.mpr (Ne.symm here)
      by_cases there : key = second
      · subst there
        refine Or.inr ?_
        have others := filter_either single first
        simp only [or_comm (a := _ = key)] at others
        rw [List.filter_cons_of_pos (by simp), others, filter_name distinct, List.lookup_cons_self, List.lookup_cons,
          elsewhere]
        rfl
      · have apart : (second == key) = false := beq_eq_false_iff_ne.mpr (Ne.symm there)
        rw [List.filter_cons_of_neg (by simp [here, there]), List.lookup_cons, elsewhere, List.lookup_cons, apart]
        exact ih distinct

end Json

/-- Members that leave the state as it is can be left out. -/
theorem Members.foldM_filter {σ : Type} {step : σ → String → Json → Except Fault σ} (wanted : String → Bool)
    (passes : ∀ state key json, wanted key = false → step state key json = .ok state)
    (members : List (String × Json)) (state : σ) :
    (ofList members).foldM Empty.elim step state =
      (ofList (members.filter fun member => wanted member.1)).foldM Empty.elim step state := by
  induction members generalizing state with
  | nil => rfl
  | cons member rest ih =>
    obtain ⟨key, json⟩ := member
    cases want : wanted key with
    | false =>
      rw [List.filter_cons_of_neg (by simp [want]), ofList, foldM, passes state key json want]
      exact ih state
    | true =>
      rw [List.filter_cons_of_pos (by simp [want]), ofList, ofList, foldM, foldM]
      cases step state key json with
      | error fault => rfl
      | ok state => exact ih state

namespace Schema

section Adjacent
variable {κ : Type} {body : κ → Type} {name tag content : String} {names : Names κ} {schema : (k : κ) → Schema (body k)}
  {shape : Shape ((k : κ) × body k) α}

/-- Only the tag and the content count. -/
private theorem held_adjacent_filter (members : List (String × Json)) :
    (adjacent name tag content names schema shape).held (Json.object members) =
      (adjacent name tag content names schema shape).held
        (Json.object (members.filter fun member => member.1 = tag ∨ member.1 = content)) := by
  rw [held, held, Json.object, Json.object, read, read,
    Members.foldM_filter (fun key => key = tag ∨ key = content) ?_ members]
  intro pairing key json other
  obtain ⟨untagged, apart⟩ : key ≠ tag ∧ key ≠ content := by simpa using other
  rw [if_neg untagged, if_neg apart, json.pass_whole]
  rfl

/-- The tag alone stands for what its content is when it is missing. -/
private theorem held_tag (known : names.Lawful) {text : String} {value : α} :
    (adjacent name tag content names schema shape).held (Json.object [(tag, .str text)]) = .ok value ↔
      ∃ k body, text = names.name k ∧ (schema k).absent? = some body ∧ shape.pack ⟨k, body⟩ = value := by
  have taken : (adjacent name tag content names schema shape).held (Json.object [(tag, .str text)]) =
      names.read Empty.elim .held (.str text) >>= fun k =>
        (schema k).absent?.elim (.error (.refused (.missing content))) fun body => .ok (shape.pack ⟨k, body⟩) := by
    rw [held, Json.object, read]
    simp only [Members.ofList, Members.foldM, if_true]
    cases names.read Empty.elim .held (.str text) with
    | error fault => rfl
    | ok k =>
      simp only [Except.map, bind, Except.bind]
      cases (schema k).absent? <;> rfl
  rw [taken, bind_eq_ok]
  constructor
  · intro found
    obtain ⟨k, label, whole⟩ := found
    cases absent : (schema k).absent? with
    | none => rw [absent] at whole; cases whole
    | some body =>
      rw [absent] at whole
      exact ⟨k, body, (names.read_text _ _ known).mp label, absent, Except.ok.inj whole⟩
  · intro found
    obtain ⟨k, body, label, absent, whole⟩ := found
    refine ⟨k, (names.read_text _ _ known).mpr label, ?_⟩
    rw [absent]
    exact congrArg Except.ok whole

private theorem held_tag_content (different : content ≠ tag) (label json : Json) :
    (adjacent name tag content names schema shape).held (Json.object [(tag, label), (content, json)]) =
      names.read Empty.elim .held label >>= fun k => ((schema k).held json).map fun body => shape.pack ⟨k, body⟩ := by
  rw [held, Json.object, read]
  simp only [Members.ofList, Members.foldM, if_true, if_neg different]
  cases names.read Empty.elim .held label with
  | error fault => rfl
  | ok k =>
    simp only [Except.map, bind, Except.bind, held]
    cases (schema k).read Empty.elim .held json <;> rfl

private theorem held_content_tag (different : content ≠ tag) (label json : Json) :
    (adjacent name tag content names schema shape).held (Json.object [(content, json), (tag, label)]) =
      names.read Empty.elim .held label >>= fun k => ((schema k).held json).map fun body => shape.pack ⟨k, body⟩ := by
  rw [held, Json.object, read]
  simp only [Members.ofList, Members.foldM, if_true, if_neg different, json.settle_whole]
  cases names.read Empty.elim .held label with
  | error fault => rfl
  | ok k =>
    simp only [Except.map, bind, Except.bind, held]
    cases (schema k).read Empty.elim .held json <;> rfl

private theorem held_untagged (different : content ≠ tag) {json? : Option Json} :
    (adjacent name tag content names schema shape).held (Json.object (json?.toList.map (content, ·))) =
      .error (.refused (.missing tag)) := by
  rw [held, Json.object, read]
  cases json? with
  | none => rfl
  | some json =>
    simp only [Option.toList_some, List.map, Members.ofList, Members.foldM, if_neg different, if_true,
      json.settle_whole]
    rfl

theorem held_adjacent (known : names.Lawful) (different : content ≠ tag) {members : List (String × Json)}
    (distinct : Json.Distinct members)
    (text : ∀ json, (Json.object members).member? tag = some json → ∃ text, json = .str text) {value : α} :
    (adjacent name tag content names schema shape).held (Json.object members) = .ok value ↔
      ∃ k body, (Json.object members).member? tag = some (.str (names.name k)) ∧
        (match (Json.object members).member? content with
          | some json => (schema k).held json = .ok body
          | none => (schema k).absent? = some body) ∧ shape.pack ⟨k, body⟩ = value := by
  simp only [Json.member?_object distinct] at text ⊢
  rw [held_adjacent_filter]
  have split := Json.filter_names distinct different
  cases labelled : members.lookup tag with
  | none =>
    have untagged : (members.filter fun member => member.1 = tag ∨ member.1 = content) =
        (members.lookup content).toList.map (content, ·) := by
      rw [labelled] at split
      exact split.elim id fun split => split.trans (List.append_nil _)
    rw [untagged, held_untagged different]
    simp
  | some label =>
    obtain ⟨text, rfl⟩ := text label labelled
    rw [labelled] at split
    cases found : members.lookup content with
    | none =>
      have alone : (members.filter fun member => member.1 = tag ∨ member.1 = content) = [(tag, .str text)] := by
        rw [found] at split
        exact split.elim id id
      rw [alone, held_tag known]
      simp only [Option.some.injEq, Doc.str.injEq]
    | some json =>
      -- whichever comes first, the content is read for what the tag says
      have both : (adjacent name tag content names schema shape).held
          (Json.object (members.filter fun member => member.1 = tag ∨ member.1 = content)) =
            names.read Empty.elim .held (.str text) >>= fun k =>
              ((schema k).held json).map fun body => shape.pack ⟨k, body⟩ := by
        rw [found] at split
        rcases split with split | split
        · rw [split]
          exact held_tag_content different _ json
        · rw [split]
          exact held_content_tag different _ json
      rw [both, bind_eq_ok]
      simp only [map_eq_ok, names.read_text _ _ known, Option.some.injEq, Doc.str.injEq, exists_and_left]

end Adjacent

/-- Of an object with a tag the other members are held back, the last one on top. -/
private theorem foldM_tagged {φ κ : Type} (blame : φ → Fault) {tag : String} (readTag : Doc φ → Except Fault κ)
    {step : Option κ × List (String × Json) → String → Doc φ → Except Fault (Option κ × List (String × Json))}
    (takes : ∀ others json, step (none, others) tag json = (readTag json).map fun k => (some k, others))
    (holds : ∀ k? others key json, key ≠ tag → step (k?, others) key json.lift = .ok (k?, (key, json) :: others))
    {members : List (String × Json)} (distinct : Json.Distinct members) (others : List (String × Json)) :
    (Members.ofList members).lift.foldM blame step (none, others) =
      ((members.lookup tag).mapM fun json => readTag json.lift).map fun k? =>
        (k?, (members.filter fun member => member.1 ≠ tag).reverse ++ others) := by
  induction members generalizing others with
  | nil => rfl
  | cons member rest ih =>
    obtain ⟨key, json⟩ := member
    obtain ⟨single, distinct⟩ := List.nodup_cons.mp distinct
    rw [Members.ofList, Members.lift, Members.foldM]
    by_cases here : key = tag
    · subst here
      rw [takes, List.lookup_cons_self, List.filter_cons_of_neg (by simp), Json.filter_other single]
      change ((readTag json.lift).map _).bind _ = ((readTag json.lift).map some).map _
      cases readTag json.lift with
      | error fault => rfl
      | ok k => exact foldM_held blame (some k) (holds (some k)) rest single others
    · have elsewhere : (tag == key) = false := beq_eq_false_iff_ne.mpr (Ne.symm here)
      rw [holds none others key json here, List.lookup_cons, elsewhere, List.filter_cons_of_pos (by simpa using here),
        List.reverse_cons, List.append_assoc]
      exact ih distinct ((key, json) :: others)

theorem read_tagged {κ : Type} {body slots : κ → Type} {name tag : String} {names : Names κ} {title : κ → String}
    {fields : (k : κ) → Fields (body k) (slots k)} {shape : Shape ((k : κ) × body k) α} (known : names.Lawful)
    (unlike : ∀ k, (fields k).names.Nodup) (untagged : ∀ k, tag ∉ (fields k).names) {members : List (String × Json)}
    (distinct : Json.Distinct members)
    (text : ∀ json, (Json.object members).member? tag = some json → ∃ text, json = .str text)
    {φ : Type} (blame : φ → Fault) (source : Source) {value : α} :
    (tagged name tag names title fields shape).read blame source (Json.object members).lift = .ok value ↔
      ∃ k values, (Json.object members).member? tag = some (.str (names.name k)) ∧
        (fields k).Takes (Json.object members).member? values ∧ shape.pack ⟨k, values⟩ = value := by
  have found : (Json.object members).member? = (List.lookup · members) := funext (Json.member?_object distinct)
  have takes (k : κ) (values : body k) :
      (∃ slots, (fields k).gather (members.filter fun member => member.1 ≠ tag) (fields k).vacant = .ok slots ∧
        (fields k).fill slots = .ok values) ↔ (fields k).Takes (List.lookup · members) values := by
    rw [(fields k).gather_fill (unlike k) (distinct.filter _)]
    refine (fields k).takes_congr fun name member => Json.lookup_filter ?_
    rintro rfl
    exact untagged k member
  rw [found] at text ⊢
  simp only [← takes]
  rw [Json.object, Doc.lift, read, foldM_tagged blame (names.readTag blame source) ?_ ?_ distinct]
  · cases labelled : members.lookup tag with
    | none =>
      constructor
      · intro taken
        cases taken
      · intro found
        obtain ⟨k, values, same, -⟩ := found
        cases same
    | some label =>
      obtain ⟨text, rfl⟩ := text label labelled
      have read : (some (Doc.str text)).mapM (fun json => names.readTag blame source json.lift) =
          (names.readTag blame source (.str text)).map some := rfl
      rw [read]
      simp only [bind_eq_ok, map_eq_ok, names.readTag_text _ _ known]
      constructor
      · intro found
        obtain ⟨_, ⟨_, ⟨k, rfl, rfl⟩, rfl⟩, taken⟩ := found
        simp only [bind_eq_ok, List.append_nil, List.reverse_reverse] at taken
        obtain ⟨slots, gathered, values, filled, taken⟩ := taken
        cases taken
        exact ⟨k, values, rfl, ⟨slots, gathered, filled⟩, rfl⟩
      · intro found
        obtain ⟨k, values, same, ⟨slots, gathered, filled⟩, rfl⟩ := found
        cases same
        refine ⟨_, ⟨_, ⟨k, rfl, rfl⟩, rfl⟩, ?_⟩
        simp only [bind_eq_ok, List.append_nil, List.reverse_reverse]
        exact ⟨slots, gathered, values, filled, rfl⟩
  · intro others json
    exact if_pos rfl
  · intro k? others key json other
    exact (if_neg other).trans (by rw [json.settle_lift]; rfl)

end Schema

end NanAdapter
