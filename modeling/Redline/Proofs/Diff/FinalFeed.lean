import Redline.Proofs.Diff.Body
import Redline.Proofs.Diff.Repeats
import Redline.Proofs.Text.Lines

set_option autoImplicit false
set_option relaxedAutoImplicit false

/-!
The line feed at the end of a diff. It adds an empty last line, which belongs to the last body unless the
header of a file ends that body above it. There it is padding: it is no anchor, writes nothing and stands
for no old line. So a final line feed makes no difference to a diff, unless the line above it is empty and
would become a source line, or begins with the marker and would get a body.
-/

namespace Redline.Diff

/-- The hunk with an empty line more below its last. -/
def Hunk.padded (h : Hunk) : Hunk := { h with lines := h.lines ++ [[]] }

def EndFilled (ls : List Line) : Prop := ∃ l, ls.getLast? = some l ∧ l ≠ []

/-- Whether hunks become others when the last one may be padded, below a line that is not empty. -/
inductive Pads : List Hunk → List Hunk → Prop
  | same (hs : List Hunk) : Pads hs hs
  | last {h : Hunk} : EndFilled h.lines → Pads [h] [h.padded]
  | under (h : Hunk) {hs hs' : List Hunk} : Pads hs hs' → Pads (h :: hs) (h :: hs')

/-- What an empty line at the end makes of the lines above the first hunk and of the hunks. -/
inductive PadsScan : List Line × List Hunk → List Line × List Hunk → Prop
  | body {ls : List Line} : EndFilled ls → PadsScan (ls, []) (ls ++ [[]], [])
  | hunks (body : List Line) {hs hs' : List Hunk} : Pads hs hs' → PadsScan (body, hs) (body, hs')

private theorem EndFilled.cons (l : Line) {ls : List Line} (filled : EndFilled ls) :
    EndFilled (l :: ls) := by
  obtain ⟨last, ends, nonempty⟩ := filled
  exact ⟨last, by simp [List.getLast?_cons, ends], nonempty⟩

namespace BodyLine

private theorem ofLine_of_ne_nil (last last' : Bool) {l : Line} (nonempty : l ≠ []) :
    ofLine last l = ofLine last' l := by
  fun_cases ofLine last l <;> simp_all [ofLine]

private theorem ofLines_append_empty {ls : List Line} (filled : EndFilled ls) :
    ofLines (ls ++ [[]]) = ofLines ls ++ [.padding] := by
  induction ls with
  | nil => simp [EndFilled] at filled
  | cons l ls ih =>
    cases ls with
    | nil =>
      have nonempty : l ≠ [] := by simpa [EndFilled] using filled
      exact congrArg (· :: [.padding]) (ofLine_of_ne_nil false true nonempty)
    | cons m ms =>
      have below : EndFilled (m :: ms) := by simpa [EndFilled, List.getLast?_cons_cons] using filled
      rw [List.cons_append, ofLines_cons, ih below, ofLines_cons l]
      rfl

end BodyLine

private theorem anchor?_append_padding (n : Int) (bs : List BodyLine) :
    anchor? n (bs ++ [.padding]) = anchor? n bs := by
  induction bs generalizing n with
  | nil => rfl
  | cons b bs ih =>
    cases b with
    | add t => exact ih (n + 1)
    | delete t => rfl
    | keep t => rfl
    | padding => rfl
    | stray l => rfl

private theorem replay_append_padding (n : Int) (rest : List Line) (bs : List BodyLine) :
    replay n rest (bs ++ [.padding]) = replay n rest bs := by
  induction bs generalizing n rest with
  | nil => rfl
  | cons b bs ih =>
    cases b with
    | add t => simp only [List.cons_append, replay, ih]
    | delete t => cases rest <;> simp only [List.cons_append, replay, ih]
    | keep t => cases rest <;> simp only [List.cons_append, replay, ih]
    | padding => simp only [List.cons_append, replay, ih]
    | stray l => rfl

namespace Hunk

variable {h : Hunk}

private theorem body_padded (filled : EndFilled h.lines) : h.padded.body = h.body ++ [.padding] :=
  BodyLine.ofLines_append_empty filled

private theorem locate_padded (filled : EndFilled h.lines) (cursor : Nat) (rest : List Line) :
    h.padded.locate cursor rest = h.locate cursor rest := by
  have some : h.lines.isEmpty = false := by
    obtain ⟨l, ends, -⟩ := filled
    cases lines : h.lines <;> simp_all
  have more : h.padded.lines.isEmpty = false := by simp [padded]
  simp only [locate, some, more, body_padded filled, anchor?_append_padding]
  rfl

end Hunk

private theorem emit_of_pads {hs hs' : List Hunk} (pads : Pads hs hs') (dedupe : Bool) (last : Option Line)
    (cursor : Nat) (rest : List Line) :
    emit dedupe last cursor rest hs' = emit dedupe last cursor rest hs := by
  induction pads generalizing last cursor rest with
  | same hs => rfl
  | @last h filled =>
    have number : h.padded.headerLine = h.headerLine := rfl
    simp only [emit_cons, h.locate_padded filled, h.body_padded filled, replay_append_padding, number]
  | under h _ ih => simp only [emit_cons, ih]

namespace PadsScan

variable {p p' : List Line × List Hunk}

private theorem below_header (pads : PadsScan p p') (h : Hunk) :
    PadsScan ([], { h with lines := p.1 } :: p.2) ([], { h with lines := p'.1 } :: p'.2) := by
  cases pads with
  | body filled => exact .hunks [] (.last filled)
  | hunks body pads => exact .hunks [] (.under _ pads)

private theorem below_line (pads : PadsScan p p') (l : Line) :
    PadsScan (if isFileHeader l then [] else l :: p.1, p.2)
      (if isFileHeader l then [] else l :: p'.1, p'.2) := by
  cases pads with
  | body filled =>
    split
    · exact .hunks [] (.same [])
    · exact .body (filled.cons l)
  | hunks body pads => exact .hunks _ pads

end PadsScan

private theorem scanHunks_cons_pads {n : Nat} {ls ls' : List Line} (l : Line)
    (below : Concur PadsScan (scanHunks (n + 1) ls) (scanHunks (n + 1) ls')) :
    Concur PadsScan (scanHunks n (l :: ls)) (scanHunks n (l :: ls')) := by
  rw [scanHunks, scanHunks]
  cases isMarker l with
  | true =>
    refine (Concur.of_eq (Eq.refl (Hunk.ofHeader n l))).bind fun h h' same => ?_
    subst same
    exact below.bind fun p p' pads => .ok (pads.below_header h)
  | false => exact below.bind fun p p' pads => .ok (pads.below_line l)

private theorem scanHunks_append_empty {ls : List Line} {l : Line} (ends : ls.getLast? = some l)
    (nonempty : l ≠ []) (plain : isMarker l = false) (n : Nat) :
    Concur PadsScan (scanHunks n ls) (scanHunks n (ls ++ [[]])) := by
  induction ls generalizing n with
  | nil => simp at ends
  | cons m ls ih =>
    cases ls with
    | nil =>
      obtain rfl : m = l := by simpa using ends
      have empty : scanHunks (n + 1) [[]] = .ok ([[]], []) := rfl
      simp only [List.singleton_append, scanHunks.eq_2 n m, plain, empty]
      cases isFileHeader m with
      | true => exact .ok (.hunks [] (.same []))
      | false => exact .ok (.body ⟨m, rfl, nonempty⟩)
    | cons k ks =>
      have endsBelow : (k :: ks).getLast? = some l := by simpa [List.getLast?_cons_cons] using ends
      exact scanHunks_cons_pads m (ih endsBelow (n + 1))

private theorem parse_append_feed {diff : Text} {l : Line} (ends : diff.lines.getLast? = some l)
    (nonempty : l ≠ []) (plain : isMarker l = false) :
    Concur Pads (parse diff) (parse (diff ++ ['\n'])) := by
  have lines : Text.lines (diff ++ ['\n']) = diff.lines ++ [[]] := Text.lines_append_cons_feed diff []
  rw [parse, parse, lines]
  refine (scanHunks_append_empty ends nonempty plain 1).map fun p p' pads => ?_
  cases pads with
  | body _ => exact .same []
  | hunks _ pads => exact pads

/--
The final line feed of a diff is invisible: unless the last line is empty or begins with the marker, a
diff with a line feed more at its end gives the same text, or fails with the same error about the same
line.
-/
theorem apply_append_feed (dedupe : Bool) (old : Text) {diff : Text} {l : Line}
    (ends : diff.lines.getLast? = some l) (nonempty : l ≠ []) (plain : isMarker l = false) :
    apply dedupe old (.text (diff ++ ['\n'])) = apply dedupe old (.text diff) := by
  have parsed := parse_append_feed ends nonempty plain
  simp only [apply, Source.toHunks]
  generalize parse diff = x, parse (diff ++ ['\n']) = y at parsed ⊢
  cases parsed with
  | error e => rfl
  | ok pads =>
    simp only [applyHunks, emit_of_pads pads]
    -- An error about a text is raised in the same way whatever the text is.
    rfl

/-- A diff that keeps an empty line and whose body ends in a line that is deleted. -/
def blankContextDiff : Text := "@@ -1,3 +1,2 @@\n a\n\n-b"

/-- The line feed adds a second empty line to the body, which is not kept as the first one is. -/
theorem apply_append_feed_blank :
    blankContextDiff.lines.getLast? = some ("-b" : Text) ∧ ("-b" : Text) ≠ [] ∧
      isMarker ("-b" : Text) = false ∧
      apply true ("a\n\nb\nc" : Text) (.text (blankContextDiff ++ ['\n'])) =
        apply true ("a\n\nb\nc" : Text) (.text blankContextDiff) ∧
      apply true ("a\n\nb\nc" : Text) (.text blankContextDiff) = .ok ("a\n\nc" : Text) := by
  have ends : blankContextDiff.lines.getLast? = some ("-b" : Text) := by rfl
  exact ⟨ends, by decide, by decide, apply_append_feed true _ ends (by decide) (by decide), by rfl⟩

/-- Below a header the line feed makes a body, and below an empty line it makes that one a source line. -/
example :
    apply true ("a" : Text) (.text ("@@ -1 +1 @@" : Text)) = .error (.patch (.emptyHunk 1)) ∧
    apply true ("a" : Text) (.text ("@@ -1 +1 @@\n" : Text)) = .ok ("a" : Text) ∧
    apply true ("a" : Text) (.text ("@@ -1 +1 @@\n-a\n" : Text)) = .ok [] ∧
    apply true ("a" : Text) (.text ("@@ -1 +1 @@\n-a\n\n" : Text)) = .error (.patch (.pastEnd 3 [])) :=
  ⟨by rfl, by rfl, by rfl, by rfl⟩

end Redline.Diff
