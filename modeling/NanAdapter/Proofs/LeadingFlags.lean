import NanAdapter.Proofs.Documents
import NanAdapter.Replay.Options

/-! A flag that stands before all other arguments. If it is one without a value and is not given again, the
arguments after it say the same as without it. -/

namespace NanAdapter

namespace Replay

namespace Reading

/-- The reading as it would be if the flag had been given before everything else. -/
def behind (flag : Flag) (s : Reading) : Reading := { s with given := flag :: s.given }

/-- A step forgets no flag, and unless it comes across the flag that was given first it does what it does without. -/
def Indifferent (flag : Flag) (s : Reading) (alone led : Except ε Reading) : Prop :=
  ∀ t, alone = .ok t → s.given ⊆ t.given ∧ (flag ∉ t.given → led = .ok (t.behind flag))

namespace Indifferent
variable {ε δ : Type} {flag : Flag} {s : Reading} {alone led : Except ε Reading}

theorem stop (fault : ε) : Indifferent flag s (.error fault) led := by
  intro t stopped
  cases stopped

/-- What is noted elsewhere leaves the flags as they are. -/
theorem go {t : Reading} (keeps : t.given = s.given) : Indifferent (ε := ε) flag s (.ok t) (.ok (t.behind flag)) := by
  intro t done
  cases done
  refine ⟨?_, fun _ => rfl⟩
  rw [keeps]
  exact List.Subset.refl _

theorem bind {next : Reading → Except ε Reading} (first : Indifferent flag s alone led)
    (later : ∀ t, Indifferent flag t (next t) (next (t.behind flag))) :
    Indifferent flag s (alone >>= next) (led >>= next) := by
  intro t done
  obtain ⟨middle, begun, done⟩ := bind_eq_ok.mp done
  obtain ⟨kept, same⟩ := first middle begun
  obtain ⟨kept', same'⟩ := later middle t done
  refine ⟨List.Subset.trans kept kept', fun absent => ?_⟩
  rw [same fun present => absent (kept' present)]
  exact same' absent

theorem mapError (indifferent : Indifferent flag s alone led) (change : ε → δ) :
    Indifferent flag s (alone.mapError change) (led.mapError change) := by
  intro t done
  obtain ⟨kept, same⟩ := indifferent t (mapError_eq_ok.mp done)
  exact ⟨kept, fun absent => mapError_eq_ok.mpr (same absent)⟩

end Indifferent

variable {flag : Flag} (s : Reading)

theorem indifferent_note (other : Flag) : Indifferent flag s (s.note other) ((s.behind flag).note other) := by
  intro t noted
  unfold note at noted ⊢
  split at noted
  · cases noted
  next unseen =>
    cases noted
    refine ⟨List.subset_append_left _ _, fun absent => ?_⟩
    have apart : other ≠ flag := by
      rintro rfl
      exact absent (List.mem_append_right _ List.mem_cons_self)
    have fresh : other ∉ (s.behind flag).given := List.not_mem_cons_of_ne_of_not_mem apart unseen
    rw [if_neg fresh]
    rfl

theorem indifferent_assign (other : Flag) (value : String) :
    Indifferent flag s (s.assign other value) ((s.behind flag).assign other value) := by
  unfold assign
  refine (s.indifferent_note other).bind fun t => ?_
  cases other with
  | trace =>
    dsimp only
    split
    · exact .stop _
    · exact .go rfl
  | revision =>
    dsimp only
    cases Revision.ofText value with
    | error cause => exact .stop _
    | ok revision => exact .go rfl
  | verbose | pump | quiet | dump | help | version => exact .go rfl

theorem indifferent_settle : Indifferent flag s s.settle (s.behind flag).settle := by
  have kept : (s.behind flag).pending = s.pending := rfl
  unfold settle
  rw [kept]
  cases s.pending with
  | none => exact .go rfl
  | some waiting =>
    obtain ⟨other, value⟩ := waiting
    cases value with
    | none => exact .stop _
    | some value => exact indifferent_assign { s with pending := none } other value

theorem indifferent_raise (other : Flag) : Indifferent flag s (s.raise other) ((s.behind flag).raise other) := by
  unfold raise
  refine (s.indifferent_settle.mapError _).bind fun t => ?_
  cases other with
  | help | version => exact .stop _
  | trace | revision | verbose | pump | quiet | dump => exact (t.indifferent_note _).mapError _

theorem indifferent_accept (other : Flag) (value : Option String) :
    Indifferent flag s (s.accept other value) ((s.behind flag).accept other value) := by
  unfold accept
  refine (s.indifferent_settle.bind fun t => ?_).mapError _
  cases value with
  | none => exact .go rfl
  | some value => exact t.indifferent_assign other value

theorem indifferent_long (other : Flag) (value : Option String) :
    Indifferent flag s (s.long other value) ((s.behind flag).long other value) := by
  unfold long
  split
  · exact s.indifferent_accept other _
  · exact .stop _
  · exact s.indifferent_raise other

theorem indifferent_cluster (letters : List Char) :
    Indifferent flag s (s.cluster letters) ((s.behind flag).cluster letters) := by
  induction letters generalizing s with
  | nil => exact .go rfl
  | cons c rest ih =>
    unfold cluster
    cases Flag.ofLetter? c with
    | none => exact .go rfl
    | some other =>
      dsimp only
      split
      · exact s.indifferent_accept other _
      · exact (s.indifferent_raise other).bind fun t => ih t

/-- The same of a step that may leave its argument to the words. -/
def IndifferentIfTaken (flag : Flag) (s : Reading) (alone led : Except ε (Option Reading)) : Prop :=
  ∀ t?, alone = .ok t? →
    (∀ t ∈ t?, s.given ⊆ t.given) ∧ ((∀ t ∈ t?, flag ∉ t.given) → led = .ok (t?.map (behind flag)))

theorem Indifferent.taken {ε : Type} {s : Reading} {alone led : Except ε Reading}
    (indifferent : Indifferent flag s alone led) : IndifferentIfTaken flag s (alone.map some) (led.map some) := by
  intro t? taken
  obtain ⟨t, done, rfl⟩ := map_eq_ok.mp taken
  obtain ⟨kept, same⟩ := indifferent t done
  refine ⟨fun _ here => Option.mem_some.mp here ▸ kept, fun absent => ?_⟩
  rw [same (absent t rfl)]
  rfl

theorem indifferent_take? (argument : String) :
    IndifferentIfTaken flag s (s.take? argument) ((s.behind flag).take? argument) := by
  -- a value for the flag that waits, or the first of the words
  have plain : IndifferentIfTaken (ε := Stop) flag s
      (.ok (s.waiting?.map fun other => { s with pending := some (other, some argument) }))
      (.ok ((s.behind flag).waiting?.map fun other =>
        { s.behind flag with pending := some (other, some argument) })) := by
    have kept : (s.behind flag).waiting? = s.waiting? := rfl
    intro t? done
    cases done
    rw [kept]
    cases s.waiting? with
    | none => exact ⟨fun _ here => absurd here (Option.not_mem_none _), fun _ => rfl⟩
    | some other =>
      refine ⟨fun t here => ?_, fun _ => rfl⟩
      cases here
      exact List.Subset.refl _
  unfold take?
  cases Argument.of argument with
  | long name value =>
    dsimp only
    cases Flag.ofName? name with
    | none => exact plain
    | some other => exact (s.indifferent_long other value).taken
  | short first rest =>
    dsimp only
    split
    · exact (s.indifferent_cluster (first :: rest)).taken
    · exact plain
  | word | separator => exact plain

/-- Arguments are read behind a flag as they are without, if they do not give it again. -/
theorem read_behind {s t : Reading} {arguments words : List String} (done : s.read arguments = .ok (t, words)) :
    s.given ⊆ t.given ∧ (flag ∉ t.given → (s.behind flag).read arguments = .ok (t.behind flag, words)) := by
  induction arguments generalizing s with
  | nil =>
    cases done
    exact ⟨List.Subset.refl _, fun _ => rfl⟩
  | cons argument rest ih =>
    unfold read at done ⊢
    split at done
    next separates =>
      cases done
      exact ⟨List.Subset.refl _, fun _ => if_pos separates⟩
    next continues =>
      obtain ⟨t?, taken, done⟩ := bind_eq_ok.mp done
      have indifferent : IndifferentIfTaken flag s _ _ := s.indifferent_take? argument
      obtain ⟨kept, same⟩ := indifferent t? taken
      rw [if_neg continues]
      cases t? with
      | none =>
        cases done
        refine ⟨List.Subset.refl _, fun _ => ?_⟩
        rw [same fun _ here => absurd here (Option.not_mem_none _)]
        rfl
      | some middle =>
        obtain ⟨kept', same'⟩ := ih done
        refine ⟨List.Subset.trans (kept middle rfl) kept', fun absent => ?_⟩
        rw [same fun _ here => Option.mem_some.mp here ▸ fun present => absent (kept' present)]
        exact same' absent

end Reading

/-- Whether a flag was given, if it is one that says no more than that. -/
def Options.asks (options : Options) : Flag → Option Bool
  | .verbose => options.verbose
  | .pump => options.pump
  | .quiet => options.quiet
  | .dump => options.dump
  | .trace | .revision | .help | .version => none

/-- The options with such a flag given as well. -/
def Options.raise (options : Options) : Flag → Options
  | .verbose => { options with verbose := true }
  | .pump => { options with pump := true }
  | .quiet => { options with quiet := true }
  | .dump => { options with dump := true }
  | .trace | .revision | .help | .version => options

/-- The last look at the arguments, behind a flag. -/
theorem Reading.finish_behind {flag : Flag} {s : Reading} {words : List String} {options : Options}
    (done : s.finish words = .ok options) (absent : options.asks flag = some false) :
    flag ∉ s.given ∧ (s.behind flag).finish words = .ok (options.raise flag) := by
  obtain ⟨t, settled, done⟩ := bind_eq_ok.mp done
  have indifferent : Indifferent flag s _ _ := s.indifferent_settle
  obtain ⟨kept, same⟩ := indifferent t settled
  dsimp only at done
  cases found : t.trace? with
  | none =>
    rw [found] at done
    cases done
  | some trace =>
    rw [found] at done
    cases done
    have missing : flag ∉ t.given := by
      cases flag <;> simp_all [Options.asks]
    refine ⟨fun present => missing (kept present), ?_⟩
    have traced : (t.behind flag).trace? = some trace := found
    unfold finish
    rw [same missing]
    simp only [bind, Except.bind, traced]
    cases flag <;> simp_all [Options.asks, Options.raise, behind, pure, Except.pure]

/-- To give such a flag before all other arguments changes nothing but that it is given. -/
theorem Options.ofArguments_long {flag : Flag} {arguments : List String} {options : Options}
    (parsed : ofArguments arguments = .ok options) (absent : options.asks flag = some false) :
    ofArguments (flag.long :: arguments) = .ok (options.raise flag) := by
  obtain ⟨⟨s, words⟩, done, finished⟩ := bind_eq_ok.mp parsed
  obtain ⟨missing, led⟩ := Reading.finish_behind (mapError_eq_ok.mp finished) absent
  have rest := (Reading.read_behind done).2 missing
  have first : Reading.start.read (flag.long :: arguments) = (Reading.start.behind flag).read arguments := by
    cases flag with
    | verbose | pump | quiet | dump => rfl
    | trace | revision | help | version => cases absent
  rw [ofArguments, first, rest]
  exact mapError_eq_ok.mpr led

end Replay

end NanAdapter
