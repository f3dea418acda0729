import Mathlib.Data.List.TakeWhile
import NanAdapter.Arguments

/-! How arguments are typed that look like options or words. Whoever reads them looks for hyphens and for an equals
sign; here the texts are put together instead. -/

namespace NanAdapter

namespace Argument

/-- How an argument is typed that looks so. -/
inductive Typed : Argument → String → Prop where
  | separator : Typed .separator "--"
  | long {name : String} (given : name ≠ "") (bare : '=' ∉ name.toList) : Typed (.long name none) ("--" ++ name)
  | valued {name : String} (value : String) (bare : '=' ∉ name.toList) :
      Typed (.long name (some value)) ("--" ++ name ++ "=" ++ value)
  | short {first : Char} (rest : List Char) (apart : first ≠ '-') :
      Typed (.short first rest) (String.ofList ('-' :: first :: rest))
  | word {text : String} (apart : text = "-" ∨ text.toList.head? ≠ some '-') : Typed .word text

private theorem not_mem_takeWhile (cs : List Char) : '=' ∉ (String.ofList (cs.takeWhile (· ≠ '='))).toList := by
  rw [String.toList_ofList]
  intro member
  have other := List.mem_takeWhile_imp member
  exact of_decide_eq_true other rfl

/-- What `dropWhile` stops at is the first equals sign, and the name stands before it. -/
private theorem text_of_mark {rest value : List Char} {mark : Char} (after : rest.dropWhile (· ≠ '=') = mark :: value) :
    String.ofList ('-' :: '-' :: rest) =
      "--" ++ String.ofList (rest.takeWhile (· ≠ '=')) ++ "=" ++ String.ofList value := by
  have parts := List.takeWhile_append_dropWhile (p := fun c => decide (c ≠ '=')) (l := rest)
  have marked : mark = '=' := by
    have stopped := List.head?_dropWhile_not (fun c => decide (c ≠ '=')) rest
    rw [after] at stopped
    exact of_not_not (of_decide_eq_false (by simpa using stopped))
  rw [after, marked] at parts
  apply String.toList_inj.mp
  simp only [String.toList_append, String.toList_ofList, List.append_assoc]
  exact congrArg (fun cs => '-' :: '-' :: cs) parts.symm

private theorem typed_ofChars (cs : List Char) : Typed (ofChars cs) (String.ofList cs) := by
  unfold ofChars
  split
  next => exact .separator
  next rest given =>
    have bare := not_mem_takeWhile rest
    dsimp only
    split
    next mark value after =>
      rw [text_of_mark after]
      exact .valued _ bare
    next after =>
      have parts := List.takeWhile_append_dropWhile (p := fun c => decide (c ≠ '=')) (l := rest)
      rw [after, List.append_nil] at parts
      rw [parts] at bare ⊢
      have whole : String.ofList ('-' :: '-' :: rest) = "--" ++ String.ofList rest := by
        apply String.toList_inj.mp
        simp
      have some : String.ofList rest ≠ "" := by
        intro blank
        exact given (by simpa using congrArg String.toList blank)
      rw [whole]
      exact .long some bare
  next first rest apart' apart => exact .short rest apart
  next _ _ _ short =>
    apply Typed.word
    match cs with
    | [] => exact .inr (by simp)
    | [c] =>
      by_cases dash : c = '-'
      · exact .inl (congrArg (fun c => String.ofList [c]) dash)
      · exact .inr (by simpa using dash)
    | c :: d :: rest =>
      have apart : c ≠ '-' := fun dash => short d rest (by rw [dash])
      exact .inr (by simpa using apart)

private theorem ofChars_long {cs : List Char} (given : cs ≠ []) :
    ofChars ('-' :: '-' :: cs) = match cs.dropWhile (· ≠ '=') with
      | _ :: value => .long (String.ofList (cs.takeWhile (· ≠ '='))) (some (String.ofList value))
      | [] => .long (String.ofList (cs.takeWhile (· ≠ '='))) none := by
  obtain ⟨c, rest, rfl⟩ := List.exists_cons_of_ne_nil given
  rfl

/-- The look of an argument is decided by how it is typed. -/
theorem of_eq_iff {look : Argument} {text : String} : Argument.of text = look ↔ Typed look text := by
  constructor
  · intro looks
    have typed := typed_ofChars text.toList
    rw [String.ofList_toList] at typed
    exact looks ▸ typed
  · intro typed
    have apartFrom {name : String} (bare : '=' ∉ name.toList) : ∀ c ∈ name.toList, decide (c ≠ '=') = true := by
      intro c member
      apply decide_eq_true
      intro mark
      exact bare (mark ▸ member)
    cases typed with
    | separator => rfl
    | @long name given bare =>
      have some : name.toList ≠ [] := by
        intro blank
        exact given (String.toList_inj.mp blank)
      have chars : ("--" ++ name).toList = '-' :: '-' :: name.toList := String.toList_append
      rw [of, chars, ofChars_long some, List.takeWhile_eq_self_iff.mpr (apartFrom bare),
        List.dropWhile_eq_nil_iff.mpr (apartFrom bare), String.ofList_toList]
    | @valued name value bare =>
      have chars : ("--" ++ name ++ "=" ++ value).toList = '-' :: '-' :: (name.toList ++ '=' :: value.toList) := by
        simp only [String.toList_append, List.append_assoc]
        rfl
      rw [of, chars, ofChars_long (by simp), List.takeWhile_append_of_pos (apartFrom bare),
        List.dropWhile_append_of_pos (apartFrom bare)]
      simp
    | @short first rest apart =>
      rw [of, String.toList_ofList]
      unfold ofChars
      split
      next same => exact absurd (List.cons.inj (List.cons.inj same).2).1 apart
      next same => exact absurd (List.cons.inj (List.cons.inj same).2).1 apart
      next same =>
        cases same
        rfl
      next short => exact absurd rfl (short first rest)
    | word apart =>
      obtain rfl | apart := apart
      · rfl
      · unfold of ofChars
        split
        next same => exact absurd (congrArg List.head? same) apart
        next same => exact absurd (congrArg List.head? same) apart
        next same => exact absurd (congrArg List.head? same) apart
        next => rfl

end Argument

end NanAdapter
