import Mathlib.Logic.Function.Basic
import NanAdapter.Proofs.WholeTexts

/-! Texts of arrays and objects, from the texts of what is in them. A document that can be read back is told by its
text. -/

namespace NanAdapter

theorem Text.decimal_injective : Function.Injective decimal := by
  intro n m same
  have digits : natural n = natural m := String.ofList_injective same
  have read := natural?_natural n
  rw [digits, natural?_natural] at read
  exact (Option.some.inj read).symm

theorem Items.chars_false {items : List Json} (some : items ≠ []) :
    (ofList items).chars false = ',' :: (ofList items).chars true := by
  cases items with
  | nil => exact absurd rfl some
  | cons head rest => rfl

theorem Items.chars_ofList (items : List Json) :
    (ofList items).chars true = [','].intercalate (items.map Doc.chars) ++ [']'] := by
  induction items with
  | nil => rfl
  | cons head rest ih =>
    cases rest with
    | nil => simp [ofList, chars]
    | cons next later =>
      rw [ofList, chars, chars_false (by simp), ih]
      simp [List.intercalate_cons_of_ne_nil]

theorem Members.chars_false {members : List (String × Json)} (some : members ≠ []) :
    (ofList members).chars false = ',' :: (ofList members).chars true := by
  cases members with
  | nil => exact absurd rfl some
  | cons head rest => rfl

theorem Members.chars_ofList (members : List (String × Json)) :
    (ofList members).chars true =
      [','].intercalate (members.map fun (key, value) => Json.string key ++ ':' :: value.chars) ++ ['\x7d'] := by
  induction members with
  | nil => rfl
  | cons head rest ih =>
    obtain ⟨key, value⟩ := head
    cases rest with
    | nil => simp [ofList, chars]
    | cons next later =>
      rw [ofList, chars, chars_false (by simp), ih]
      simp [List.intercalate_cons_of_ne_nil]

namespace Json

theorem text_array (items : List Json) : (array items).text = "[" ++ ",".intercalate (items.map text) ++ "]" := by
  apply String.toList_inj.mp
  rw [text, String.toList_ofList, array, Doc.chars, Items.chars_ofList]
  simp [String.toList_intercalate, text, Function.comp_def]

/-- A name as it stands in a document. -/
def quoted (name : String) : String := String.ofList (string name)

theorem text_object (members : List (String × Json)) :
    (object members).text =
      "\x7b" ++ ",".intercalate (members.map fun (key, value) => quoted key ++ ":" ++ value.text) ++ "\x7d" := by
  apply String.toList_inj.mp
  rw [text, String.toList_ofList, object, Doc.chars, Members.chars_ofList]
  simp [String.toList_intercalate, text, quoted, Function.comp_def]

theorem escaped_of_isDigit {c : Char} (digit : c.isDigit = true) : escaped c = [c] := by
  have high : ¬ c.toNat < 0x20 := by
    simp only [Char.isDigit, Bool.and_eq_true, decide_eq_true_eq] at digit
    have least : 48 ≤ c.toNat := digit.1
    omega
  unfold escaped
  split <;> first | exact absurd digit (by decide) | exact if_neg high

theorem quoted_plain {name : String} (plain : ∀ c ∈ name.toList, escaped c = [c]) :
    quoted name = "\"" ++ name ++ "\"" := by
  have same : name.toList.flatMap escaped = name.toList := by
    rw [List.flatMap_congr plain]
    exact List.flatMap_singleton' _
  apply String.toList_inj.mp
  simp [quoted, string, same]

/-- There is nothing to escape in a number. -/
theorem quoted_decimal (n : Nat) : quoted (Text.decimal n) = "\"" ++ Text.decimal n ++ "\"" := by
  apply quoted_plain
  intro c member
  rw [Text.decimal, String.toList_ofList] at member
  exact escaped_of_isDigit (Text.isDigit_of_mem_natural member)

theorem text_injective {json other : Json} (fits : json.Fits deepest) (fits' : other.Fits deepest)
    (same : json.text = other.text) : json = other := by
  have read := ofText_text fits
  rw [same, ofText_text fits'] at read
  exact (Except.ok.inj read).symm

theorem array_injective : Function.Injective array := by
  intro items others same
  have elements := congrArg Items.toList (Doc.arr.inj same)
  rwa [Items.toList_ofList, Items.toList_ofList] at elements

theorem object_injective : Function.Injective object := by
  intro members others same
  have entries := congrArg Members.toList (Doc.obj.inj same)
  rwa [Members.toList_ofList, Members.toList_ofList] at entries

theorem nat_fits {n room : Nat} (small : n < UInt64.size) : (nat n).Fits room := by
  refine ⟨?_, ?_⟩ <;> omega

end Json

theorem Members.fits_ofList {room : Nat} {members : List (String × Json)}
    (fits : ∀ member ∈ members, member.2.Fits room) : (ofList members).Fits room := by
  induction members with
  | nil => trivial
  | cons head rest ih =>
    exact ⟨fits head List.mem_cons_self, ih fun member later => fits member (List.mem_cons_of_mem head later)⟩

end NanAdapter
