import Redline.Proofs.Diff.Origins

set_option autoImplicit false
set_option relaxedAutoImplicit false

/-!
Hunks in one go or in two rounds. A second round starts again at the top of the new text, but if every
hunk of it has a source line and the first one's anchor occurs in nothing that the first round has
copied or written, it gets past all that and goes on where the first round has stopped.
-/

namespace Redline.Diff

private theorem exists_emit_append {dedupe : Bool} {last : Option Line} {c : Nat} {rest : List Line}
    {hs : List Hunk} {es : List Emitted} (emits : emit dedupe last c rest hs = .ok es) :
    ∃ done left last' c', es = done ++ left.map (⟨.leftOver, ·⟩) ∧
      (∀ e ∈ done, e.origin ≠ .leftOver) ∧
      ∀ gs, emit dedupe last c rest (hs ++ gs) =
        (emit dedupe last' c' left gs).map (done ++ ·) := by
  induction hs generalizing last c rest es with
  | nil =>
    obtain rfl := Except.ok.inj emits
    refine ⟨[], rest, last, c, rfl, by simp, fun gs => ?_⟩
    rw [List.nil_append]
    cases emit dedupe last c rest gs <;> rfl
  | cons h hs ih =>
    obtain ⟨before, here, out, left, more, located, replayed, moreEmits, rfl⟩ :=
      emit_cons_eq_ok_iff.mp emits
    obtain ⟨done, left', last', c', rfl, carried, goesOn⟩ := ih moreEmits
    refine ⟨(copyLines dedupe last before).map (⟨.copied, ·⟩) ++ out.map (⟨.written, ·⟩) ++ done,
      left', last', c', by simp, ?_, fun gs => ?_⟩
    · intro e mem
      simp only [List.mem_append, List.mem_map] at mem
      obtain (⟨l, -, rfl⟩ | ⟨l, -, rfl⟩) | mem := mem
      · simp
      · simp
      · exact carried e mem
    · rw [List.cons_append, emit, located]
      simp only [bind, Except.bind, replayed, goesOn]
      cases emit dedupe last' c' left' gs with
      | error e => rfl
      | ok es => simp [Except.map, pure, Except.pure]

private theorem locate_append {h : Hunk} (ahead : List Line) (source : h.source ≠ [])
    (clear : ∀ a ∈ h.source.head?, a ∉ ahead) (c c' : Nat) (rest : List Line) :
    h.locate c (ahead ++ rest) = (h.locate c' rest).map fun p => (ahead ++ p.1, p.2) := by
  have nonempty : h.lines.isEmpty = false := by
    cases lines : h.lines with
    | nil => simp [Hunk.source, lines, sourceLines] at source
    | cons l ls => rfl
  simp only [Hunk.locate, nonempty, Bool.false_eq_true, ↓reduceIte]
  cases found : anchor? (h.headerLine + 1) h.body with
  | error e => rfl
  | ok anchor =>
    have head : h.source.head? = anchor := head?_sourceLines_of_anchor? found
    cases anchor with
    | none => exact absurd (List.head?_eq_none_iff.mp head) source
    | some a =>
      have passed : a ∉ ahead := clear a head
      have past : ∀ l ∈ ahead, (l != a) = true := by
        intro l mem
        simpa using fun eq : l = a => passed (eq ▸ mem)
      by_cases mem : a ∈ rest
      · simp [mem, List.takeWhile_append_of_pos past, List.dropWhile_append_of_pos past, Except.map]
      · simp [mem, passed, Except.map]

private theorem emit_eq_of_source {gs : List Hunk} (sources : ∀ g ∈ gs, g.source ≠ [])
    (last last' : Option Line) (c c' : Nat) (rest : List Line) :
    emit false last c rest gs = emit false last' c' rest gs := by
  induction gs generalizing last last' c c' rest with
  | nil => rfl
  | cons g gs ih =>
    obtain ⟨first, others⟩ := List.forall_mem_cons.mp sources
    have same : g.locate c rest = g.locate c' rest := by
      have found := locate_append [] first (by simp) c c' rest
      rw [List.nil_append] at found
      rw [found]
      cases g.locate c' rest <;> rfl
    rw [emit_cons, emit_cons, same]
    cases g.locate c' rest with
    | error e => rfl
    | ok found =>
      obtain ⟨before, here⟩ := found
      simp only
      cases replay (g.headerLine + 1) here g.body with
      | error e => rfl
      | ok made =>
        obtain ⟨out, left⟩ := made
        -- Nothing is dropped, so what is copied does not depend on the line before it.
        simp only [copyLines_false]
        rw [ih others]

private theorem map_emit_append {gs : List Hunk} (sources : ∀ g ∈ gs, g.source ≠ []) {ahead : List Line}
    (clear : ∀ g ∈ gs.head?, ∀ a ∈ g.source.head?, a ∉ ahead) (last last' : Option Line) (c c' : Nat)
    (rest : List Line) :
    (emit false last c (ahead ++ rest) gs).map (List.map Emitted.line) =
      (emit false last' c' rest gs).map fun es => ahead ++ es.map Emitted.line := by
  cases gs with
  | nil => simp [emit, Except.map, Function.comp_def]
  | cons g gs =>
    obtain ⟨first, others⟩ := List.forall_mem_cons.mp sources
    rw [emit_cons, emit_cons, locate_append ahead first (clear g rfl) c c' rest]
    cases g.locate c' rest with
    | error e => rfl
    | ok found =>
      obtain ⟨before, here⟩ := found
      simp only [Except.map]
      cases replay (g.headerLine + 1) here g.body with
      | error e => rfl
      | ok made =>
        obtain ⟨out, left⟩ := made
        simp only [copyLines_false]
        rw [emit_eq_of_source others _ (lastAfter last' (before ++ out)) _
          (c' + (rest.length - left.length))]
        cases emit false (lastAfter last' (before ++ out)) (c' + (rest.length - left.length)) left gs with
        | error e => rfl
        | ok more => simp [Function.comp_def]

private theorem lines_textOf {es : List Emitted} (some : es ≠ [])
    (free : ∀ l ∈ es.map Emitted.line, '\n' ∉ l) : Text.lines (textOf es) = es.map Emitted.line :=
  Text.lines_unlines (by simpa using some) free

private theorem map_textOf (x : Except PatchError (List Emitted)) :
    x.map textOf = (x.map (List.map Emitted.line)).map Text.unlines := by
  cases x <;> rfl

private theorem applyHunks_append {old : Text} {hs gs : List Hunk} {es : List Emitted}
    (free : ∀ h ∈ hs, ∀ l ∈ h.lines, '\n' ∉ l)
    (emits : emitted false old (.hunks hs) = .ok es) (some : es ≠ [])
    (sources : ∀ g ∈ gs, g.source ≠ [])
    (clear : ∀ g ∈ gs.head?, ∀ a ∈ g.source.head?, ∀ e ∈ es, e.origin ≠ .leftOver → e.line ≠ a) :
    applyHunks false old (hs ++ gs) = applyHunks false (textOf es) gs := by
  have fromOld : emit false none 0 old.lines hs = .ok es := mapError_eq_ok_iff.mp emits
  obtain ⟨done, left, last, c, rfl, carried, goesOn⟩ := exists_emit_append fromOld
  have lines : Text.lines (textOf (done ++ left.map (⟨.leftOver, ·⟩))) =
      done.map Emitted.line ++ left := by
    have whole : (Source.hunks hs).IsFeedFree := free
    rw [lines_textOf some (feed_not_mem_of_emitted whole emits)]
    simp [Function.comp_def]
  have passed : ∀ g ∈ gs.head?, ∀ a ∈ g.source.head?, a ∉ done.map Emitted.line := by
    intro g first a anchor mem
    obtain ⟨e, inDone, line⟩ := List.mem_map.mp mem
    exact clear g first a anchor e (List.mem_append_left _ inDone) (carried e inDone) line
  have again := map_emit_append sources passed none last 0 c left
  rw [applyHunks, applyHunks, goesOn, lines, map_textOf, map_textOf, again]
  cases emit false last c left gs with
  | error e => rfl
  | ok more => simp [Except.map]

/--
Applying hunks in one go or in two rounds comes to the same, in success and in failure, if every hunk of
the second round has a source line and the first anchor occurs in no line that the first round has copied
or written.
-/
theorem apply_in_rounds {old : Text} {hs gs : List Hunk} {es : List Emitted}
    (free : ∀ h ∈ hs, ∀ l ∈ h.lines, '\n' ∉ l)
    (emits : emitted false old (.hunks hs) = .ok es) (some : es ≠ [])
    (sources : ∀ g ∈ gs, g.source ≠ [])
    (clear : ∀ g ∈ gs.head?, ∀ a ∈ g.source.head?, ∀ e ∈ es, e.origin ≠ .leftOver → e.line ≠ a) :
    apply false old (.hunks hs) = .ok (textOf es) ∧
      ((∃ new, apply false old (.hunks (hs ++ gs)) = .ok new ∧
          apply false (textOf es) (.hunks gs) = .ok new) ∨
        ∃ e : PatchError, applyHunks false old (hs ++ gs) = .error e ∧
          apply false old (.hunks (hs ++ gs)) =
            .error (if e.isLong then .longNumber else .patch e) ∧
          apply false (textOf es) (.hunks gs) =
            .error (if e.isLong then .longNumber else .patch e)) := by
  have same := applyHunks_append free emits some sources clear
  refine ⟨by rw [apply_eq_map_emitted, emits]; rfl, ?_⟩
  simp only [apply, Source.toHunks, same]
  cases applyHunks false (textOf es) gs with
  | ok new => exact .inl ⟨new, rfl, rfl⟩
  | error e => exact .inr ⟨e, rfl, rfl, rfl⟩

def firstRound : List Hunk := [⟨0, 1, 0, 1, ["-b", "+x"], 1⟩]

/-- A second round of two hunks, the second of which finds no old line for its last line. -/
def secondRound : List Hunk := [⟨9, 1, 9, 2, [" c", "+y"], 4⟩, ⟨0, 2, 0, 1, ["-d", "-e"], 7⟩]

/-- Both ways the last line of the second round is blamed. -/
theorem apply_in_rounds_overrun :
    emitted false ("a\nb\nc\nd" : Text) (.hunks firstRound) =
        .ok [⟨.copied, "a"⟩, ⟨.written, "x"⟩, ⟨.leftOver, "c"⟩, ⟨.leftOver, "d"⟩] ∧
      (∀ g ∈ secondRound, g.source ≠ []) ∧
      apply false ("a\nb\nc\nd" : Text) (.hunks firstRound) = .ok ("a\nx\nc\nd" : Text) ∧
      apply false ("a\nb\nc\nd" : Text) (.hunks (firstRound ++ secondRound)) =
        .error (.patch (.pastEnd 9 "e")) ∧
      apply false ("a\nx\nc\nd" : Text) (.hunks secondRound) = .error (.patch (.pastEnd 9 "e")) := by
  have emits : emitted false ("a\nb\nc\nd" : Text) (.hunks firstRound) =
      .ok [⟨.copied, "a"⟩, ⟨.written, "x"⟩, ⟨.leftOver, "c"⟩, ⟨.leftOver, "d"⟩] := by rfl
  have sources : ∀ g ∈ secondRound, g.source ≠ [] := by decide
  have fails : apply false ("a\nb\nc\nd" : Text) (.hunks (firstRound ++ secondRound)) =
      .error (.patch (.pastEnd 9 "e")) := by decide +kernel
  obtain ⟨first, ⟨new, oneGo, -⟩ | ⟨e, -, oneGo, twoRounds⟩⟩ :=
    apply_in_rounds (by decide) emits (by decide) sources (by decide)
  · rw [fails] at oneGo
    simp at oneGo
  · have same := fails.symm.trans oneGo
    exact ⟨emits, sources, first, fails, twoRounds.trans same.symm⟩

/-- A second round whose last line finds no old line and has a number that is too long to be written. -/
def longRound : List Hunk := [⟨0, 2, 0, 0, [" d", "-e"], Nat.pow 10 Number.maxDigits - 2⟩]

/-- Both ways fail in the last line of the second round, and neither says so. -/
theorem apply_of_longRound :
    (∀ g ∈ longRound, g.source ≠ []) ∧
      apply false ("a\nb\nc\nd" : Text) (.hunks firstRound) = .ok ("a\nx\nc\nd" : Text) ∧
      applyHunks false ("a\nb\nc\nd" : Text) (firstRound ++ longRound) =
        .error (.pastEnd (Nat.pow 10 Number.maxDigits) "e") ∧
      apply false ("a\nb\nc\nd" : Text) (.hunks (firstRound ++ longRound)) = .error .longNumber ∧
      apply false ("a\nx\nc\nd" : Text) (.hunks longRound) = .error .longNumber := by
  decide +kernel

end Redline.Diff
