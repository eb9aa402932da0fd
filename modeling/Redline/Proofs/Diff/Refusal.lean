import Redline.Proofs.Diff.Repeats

set_option autoImplicit false
set_option relaxedAutoImplicit false

/-!
Hunks that are refused. When hunks do not apply, there is a first one that fails: it is empty, has no
place, or has a body with a stray line or with a line for which no old line is left. With the places of
hunks this says of any list of them when it applies, to what, and how it fails otherwise.
-/

namespace Redline.Diff

/-- Whether a line of a body stands for an old line with the given text. -/
def StandsFor (l t : Line) : Prop := l = '-' :: t ∨ l = ' ' :: t ∨ (l = [] ∧ t = [])

theorem StandsFor.isBodyLine {l t : Line} (stands : StandsFor l t) : IsBodyLine l := by
  rcases stands with rfl | rfl | ⟨rfl, -⟩ <;> simp [IsBodyLine]

private theorem StandsFor.startsWith_eq_false {l t : Line} (stands : StandsFor l t) :
    Text.startsWith l ['+'] = false := by
  rcases stands with rfl | rfl | ⟨rfl, -⟩ <;> rfl

/-- How a body whose first line has number `n` can fail to be replayed. -/
inductive BodyFault (n : Int) (ls : List Line) : PatchError → Prop
  | strayLine {k : Nat} {l : Line} : ls[k]? = some l → ¬ IsBodyLine l →
      (∀ j < k, ∀ m ∈ ls[j]?, IsBodyLine m) → BodyFault n ls (.strayLine (n + k) l)
  | pastEnd {k : Nat} {l t : Line} : ls[k]? = some l → StandsFor l t →
      BodyFault n ls (.pastEnd (n + k) t)

inductive Hunk.Refuses (h : Hunk) : PatchError → Prop
  | emptyHunk : h.lines = [] → h.Refuses (.emptyHunk h.headerLine)
  | anchorMissing {l a : Line} : h.lines.find? (fun l => !Text.startsWith l ['+']) = some l →
      StandsFor l a → h.Refuses (.anchorMissing h.headerLine a)
  | body {e : PatchError} : BodyFault (h.headerLine + 1) h.lines e → h.Refuses e

namespace BodyFault

variable {n : Int} {l t : Line} {ls rest : List Line} {e : PatchError}

private theorem cons (fault : BodyFault (n + 1) ls e) (valid : IsBodyLine l) : BodyFault n (l :: ls) e := by
  cases fault with
  | @strayLine k m found invalid before =>
    have number : n + 1 + k = n + (k + 1 : Nat) := by omega
    rw [number]
    refine .strayLine (by simpa using found) invalid fun j lt => ?_
    cases j with
    | zero => simpa using valid
    | succ j => simpa using before j (by omega)
  | @pastEnd k m t found stands =>
    have number : n + 1 + k = n + (k + 1 : Nat) := by omega
    rw [number]
    exact .pastEnd (by simpa using found) stands

private theorem head_stray (invalid : ¬ IsBodyLine l) : BodyFault n (l :: ls) (.strayLine n l) := by
  have first : BodyFault n (l :: ls) (.strayLine (n + (0 : Nat)) l) := .strayLine rfl invalid (by simp)
  simpa using first

private theorem head_pastEnd (stands : StandsFor l t) : BodyFault n (l :: ls) (.pastEnd n t) := by
  have first : BodyFault n (l :: ls) (.pastEnd (n + (0 : Nat)) t) := .pastEnd rfl stands
  simpa using first

end BodyFault

private theorem standsFor_of_source? {last : Bool} {l t : Line}
    (source : (BodyLine.ofLine last l).source? = some t) : StandsFor l t := by
  revert source
  fun_cases BodyLine.ofLine last l <;> simp_all [BodyLine.source?, StandsFor]

private theorem eq_of_ofLine_stray {last : Bool} {l m : Line} (stray : BodyLine.ofLine last l = .stray m) :
    m = l := by
  revert stray
  fun_cases BodyLine.ofLine last l <;> simp_all

private theorem startsWith_of_ofLine_add {last : Bool} {l t : Line}
    (add : BodyLine.ofLine last l = .add t) : Text.startsWith l ['+'] = true := by
  revert add
  fun_cases BodyLine.ofLine last l <;> simp_all [Text.startsWith]

private theorem isBodyLine_of_ofLine {last : Bool} {l : Line} {b : BodyLine}
    (meaning : BodyLine.ofLine last l = b) (clear : b.isStray = false) : IsBodyLine l :=
  (BodyLine.isStray_ofLine last l).mp (meaning ▸ clear)

private theorem not_isBodyLine_of_ofLine {last : Bool} {l m : Line}
    (meaning : BodyLine.ofLine last l = .stray m) : ¬ IsBodyLine l := by
  rw [← BodyLine.isStray_ofLine last, meaning]
  simp [BodyLine.isStray]

private theorem replay_cons_eq_error {n : Int} {b : BodyLine} {bs : List BodyLine} {rest : List Line}
    {e : PatchError} (fails : replay n rest (b :: bs) = .error e) :
    (∃ t, b.source? = some t ∧ e = .pastEnd n t) ∨ (∃ l, b = .stray l ∧ e = .strayLine n l) ∨
      (b.isStray = false ∧ ∃ rest', replay (n + 1) rest' bs = .error e) := by
  cases b with
  | add t =>
    simp only [replay, bind_eq_error_iff, pure, Except.pure, reduceCtorEq, and_false, exists_false,
      or_false] at fails
    exact .inr (.inr ⟨rfl, rest, fails⟩)
  | delete t =>
    cases rest with
    | nil => exact .inl ⟨t, rfl, (Except.error.inj fails).symm⟩
    | cons r rest => exact .inr (.inr ⟨rfl, rest, fails⟩)
  | keep t =>
    cases rest with
    | nil => exact .inl ⟨t, rfl, (Except.error.inj fails).symm⟩
    | cons r rest =>
      simp only [replay, bind_eq_error_iff, pure, Except.pure, reduceCtorEq, and_false, exists_false,
        or_false] at fails
      exact .inr (.inr ⟨rfl, rest, fails⟩)
  | padding =>
    rw [replay] at fails
    exact .inr (.inr ⟨rfl, rest, fails⟩)
  | stray l =>
    rw [replay] at fails
    exact .inr (.inl ⟨l, rfl, (Except.error.inj fails).symm⟩)

private theorem bodyFault_of_replay {n : Int} {ls rest : List Line} {e : PatchError}
    (fails : replay n rest (BodyLine.ofLines ls) = .error e) : BodyFault n ls e := by
  induction ls generalizing n rest with
  | nil => simp [BodyLine.ofLines, replay] at fails
  | cons l ls ih =>
    rw [BodyLine.ofLines_cons] at fails
    obtain ⟨t, source, rfl⟩ | ⟨m, stray, rfl⟩ | ⟨clear, rest', fails⟩ := replay_cons_eq_error fails
    · exact .head_pastEnd (standsFor_of_source? source)
    · obtain rfl := eq_of_ofLine_stray stray
      exact .head_stray (not_isBodyLine_of_ofLine stray)
    · exact (ih fails).cons ((BodyLine.isStray_ofLine _ l).mp clear)

private theorem bodyFault_of_anchor? {n : Int} {ls : List Line} {e : PatchError}
    (fails : anchor? n (BodyLine.ofLines ls) = .error e) : BodyFault n ls e := by
  induction ls generalizing n with
  | nil => simp [BodyLine.ofLines, anchor?] at fails
  | cons l ls ih =>
    rw [BodyLine.ofLines_cons] at fails
    cases meaning : BodyLine.ofLine ls.isEmpty l with
    | add t =>
      rw [meaning, anchor?] at fails
      exact (ih fails).cons (isBodyLine_of_ofLine meaning rfl)
    | delete t => simp [meaning, anchor?] at fails
    | keep t => simp [meaning, anchor?] at fails
    | padding => simp [meaning, anchor?] at fails
    | stray m =>
      obtain rfl := eq_of_ofLine_stray meaning
      rw [meaning, anchor?] at fails
      obtain rfl := Except.error.inj fails
      exact .head_stray (not_isBodyLine_of_ofLine meaning)

private theorem exists_of_anchor? {n : Int} {ls : List Line} {a : Line}
    (found : anchor? n (BodyLine.ofLines ls) = .ok (some a)) :
    ∃ l, ls.find? (fun l => !Text.startsWith l ['+']) = some l ∧ StandsFor l a := by
  induction ls generalizing n with
  | nil => simp [BodyLine.ofLines, anchor?] at found
  | cons l ls ih =>
    have here {t : Line} (stands : StandsFor l t) (eq : t = a) :
        ∃ m, (l :: ls).find? (fun l => !Text.startsWith l ['+']) = some m ∧ StandsFor m a := by
      subst eq
      exact ⟨l, List.find?_cons_of_pos (by simp [stands.startsWith_eq_false]), stands⟩
    rw [BodyLine.ofLines_cons] at found
    cases meaning : BodyLine.ofLine ls.isEmpty l with
    | add t =>
      rw [meaning, anchor?] at found
      obtain ⟨m, first, stands⟩ := ih found
      have skip := startsWith_of_ofLine_add meaning
      exact ⟨m, by rw [List.find?_cons_of_neg (by simp [skip]), first], stands⟩
    | delete t =>
      exact here (standsFor_of_source? (by rw [meaning]; rfl)) (by simpa [meaning, anchor?] using found)
    | keep t =>
      exact here (standsFor_of_source? (by rw [meaning]; rfl)) (by simpa [meaning, anchor?] using found)
    | padding => simp [meaning, anchor?] at found
    | stray m => simp [meaning, anchor?] at found

private theorem refuses_of_locate {h : Hunk} {c : Nat} {rest : List Line} {e : PatchError}
    (fails : h.locate c rest = .error e) : h.Refuses e := by
  unfold Hunk.locate at fails
  split at fails
  · rename_i empty
    obtain rfl := Except.error.inj fails
    exact .emptyHunk (List.isEmpty_iff.mp empty)
  · split at fails
    · rename_i stray
      obtain rfl := Except.error.inj fails
      exact .body (bodyFault_of_anchor? stray)
    · simp at fails
    · rename_i found
      split at fails
      · simp at fails
      · obtain rfl := Except.error.inj fails
        obtain ⟨l, first, stands⟩ := exists_of_anchor? found
        exact .anchorMissing first stands

theorem exists_refuses_of_emit {dedupe : Bool} {last : Option Line} {c : Nat} {rest : List Line}
    {hs : List Hunk} {e : PatchError} (fails : emit dedupe last c rest hs = .error e) :
    ∃ done h todo, hs = done ++ h :: todo ∧ (∃ es, emit dedupe last c rest done = .ok es) ∧
      emit dedupe last c rest (done ++ [h]) = .error e ∧ h.Refuses e := by
  induction hs generalizing last c rest with
  | nil => simp [emit] at fails
  | cons h hs ih =>
    rw [emit_cons] at fails
    cases located : h.locate c rest with
    | error e' =>
      obtain rfl : e' = e := by simpa [located] using fails
      exact ⟨[], h, hs, rfl, ⟨_, rfl⟩, by simp [emit_cons, located], refuses_of_locate located⟩
    | ok found =>
      obtain ⟨before, here⟩ := found
      cases replayed : replay (h.headerLine + 1) here h.body with
      | error e' =>
        obtain rfl : e' = e := by simpa [located, replayed] using fails
        exact ⟨[], h, hs, rfl, ⟨_, rfl⟩, by simp [emit_cons, located, replayed],
          .body (bodyFault_of_replay replayed)⟩
      | ok made =>
        obtain ⟨out, left⟩ := made
        simp only [located, replayed, map_eq_error_iff] at fails
        obtain ⟨done, g, todo, rfl, ⟨es, emitted⟩, stops, refuses⟩ := ih fails
        refine ⟨h :: done, g, todo, rfl, ?_, ?_, refuses⟩
        · exact ⟨_, by simp only [emit_cons, located, replayed, emitted]; rfl⟩
        · simp only [List.cons_append, emit_cons, located, replayed, stops]
          rfl

private theorem Hunk.Refuses.exists_of_told? {h : Hunk} {e : PatchError} (refuses : h.Refuses e) {n : Int}
    (told : e.told? = some n) : ∃ k : Nat, k ≤ h.lines.length ∧ n = h.headerLine + k := by
  cases refuses with
  | emptyHunk empty =>
    obtain rfl := Option.some.inj told
    exact ⟨0, Nat.zero_le _, by simp⟩
  | anchorMissing first text =>
    obtain rfl := Option.some.inj told
    exact ⟨0, Nat.zero_le _, by simp⟩
  | body fault =>
    cases fault with
    | strayLine found invalid before => cases told
    | @pastEnd k l t found text =>
      obtain rfl := Option.some.inj told
      obtain ⟨inside, -⟩ := List.getElem?_eq_some_iff.mp found
      exact ⟨k + 1, inside, by omega⟩

private theorem exists_of_isLong {hs : List Hunk} {dedupe : Bool} {old : Text} {e : PatchError}
    (fails : applyHunks dedupe old hs = .error e) (long : e.isLong = true) :
    ∃ h ∈ hs, ∃ k ≤ h.lines.length, Number.isLong (h.headerLine + k) = true := by
  obtain ⟨done, h, todo, rfl, -, -, refuses⟩ := exists_refuses_of_emit (map_eq_error_iff.mp fails)
  cases told : e.told? with
  | none => simp [PatchError.isLong, told] at long
  | some n =>
    obtain ⟨k, below, rfl⟩ := refuses.exists_of_told? told
    exact ⟨h, by simp, k, below, by simpa [PatchError.isLong, told] using long⟩

/--
Hunks apply exactly when each of them is valid, has a place and ends inside the old text; the result
is then the old text with the source of each hunk at its place replaced by its target. Otherwise the
answer is a patch error, unless the line number that its message tells is too long to be written: the
number of a header or of one of the lines below it.
-/
theorem apply_hunks_placement_law (old : Text) (hs : List Hunk) :
    (∀ new, apply false old (.hunks hs) = .ok new ↔
      (∀ h ∈ hs, h.Valid) ∧ ∃ places, Placement old.lines 0 hs places ∧
        EndInside old.lines hs places ∧
        new = Text.unlines (assemble old.lines 0 hs places)) ∧
    ((∃ new, apply false old (.hunks hs) = .ok new) ∨
      ∃ e, applyHunks false old hs = .error e ∧
        apply false old (.hunks hs) = .error (if e.isLong then .longNumber else .patch e) ∧
        (e.isLong = true →
          ∃ h ∈ hs, ∃ k ≤ h.lines.length, Number.isLong (h.headerLine + k) = true)) := by
  have applies : apply false old (.hunks hs) =
      (applyHunks false old hs).mapError (Source.hunks hs).raise := rfl
  rw [applies]
  refine ⟨fun new => ?_, ?_⟩
  · rw [mapError_eq_ok_iff, applyHunks_eq_ok_iff_placement]
  · cases result : applyHunks false old hs with
    | ok new => exact .inl ⟨new, rfl⟩
    | error e => exact .inr ⟨e, rfl, rfl, exists_of_isLong result⟩

/-- A hunk whose second line finds no old line, and has the first number that is too long. -/
def longHunk : Hunk := ⟨0, 2, 0, 0, ["-a", "-b"], Nat.pow 10 Number.maxDigits - 2⟩

/-- The hunk has its place and ends outside the old text, but the answer is no patch error. -/
theorem apply_of_longHunk :
    applyHunks false ("a" : Text) [longHunk] = .error (.pastEnd (Nat.pow 10 Number.maxDigits) "b") ∧
      apply false ("a" : Text) (.hunks [longHunk]) = .error .longNumber := by
  decide +kernel

/-- A hunk without source lines goes to the start, even if it is declared before it. -/
example : apply false ("a\nb" : Text) (.hunks [⟨-7, 3, 0, 0, ["+x"], 0⟩]) =
    .ok ("x\na\nb" : Text) := by
  rfl

end Redline.Diff
