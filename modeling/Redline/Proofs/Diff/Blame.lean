import Redline.Diff.Report
import Redline.Proofs.Diff.Partition
import Redline.Proofs.Diff.Refusal

set_option autoImplicit false
set_option relaxedAutoImplicit false

/-!
The line that a patch error blames. When a diff text does not apply, there is a first hunk at which it
fails, and the error names a line of the text: the header of that hunk if the hunk is empty or has no
place, the first line that is no body line, or a line for which no old line is left.
-/

namespace Redline.Diff

inductive Fault where
  | emptyHunk
  | anchorMissing
  | strayLine
  | pastEnd
  deriving Repr, DecidableEq

def PatchError.fault : PatchError → Fault
  | .emptyHunk _ => .emptyHunk
  | .anchorMissing _ _ => .anchorMissing
  | .strayLine _ _ => .strayLine
  | .pastEnd _ _ => .pastEnd

/-- Whether the number and the line of an error point at a fault of a hunk, in a diff of these lines. -/
def Fault.Blames (ls : List Line) (h : Hunk) (e : PatchError) : Fault → Prop
  | .emptyHunk => e.lineNumber = h.headerLine ∧ h.lines = []
  | .anchorMissing => e.lineNumber = h.headerLine ∧
      ∃ l, h.lines.find? (fun l => !Text.startsWith l ['+']) = some l ∧ StandsFor l e.line
  | .strayLine => ∃ i k : Nat, e.lineNumber = i + 1 ∧ ls[i]? = some e.line ∧ ¬ IsBodyLine e.line ∧
      e.lineNumber = h.headerLine + 1 + k ∧ h.lines[k]? = some e.line ∧
      ∀ j < k, ∀ m ∈ h.lines[j]?, IsBodyLine m
  | .pastEnd => ∃ (i : Nat) (l : Line), e.lineNumber = i + 1 ∧ ls[i]? = some l ∧ StandsFor l e.line ∧
      h.headerLine < e.lineNumber ∧ e.lineNumber ≤ h.headerLine + h.lines.length

section

variable {ls : List Line} {i : Nat} {h : Hunk} {e : PatchError}

private theorem blames_of_refuses (stands : h.StandsIn ls i) (refuses : h.Refuses e) :
    e.fault.Blames ls h e := by
  have header := stands.headerLine
  cases refuses with
  | emptyHunk empty => exact ⟨rfl, empty⟩
  | anchorMissing first text => exact ⟨rfl, _, first, text⟩
  | body fault =>
    cases fault with
    | @strayLine k l found invalid before =>
      have number : h.headerLine + 1 + k = (i + 1 + k : Nat) + 1 := by omega
      exact ⟨i + 1 + k, k, number, stands.getElem?_of_lines found, invalid, rfl, found, before⟩
    | @pastEnd k l t found text =>
      have number : h.headerLine + 1 + k = (i + 1 + k : Nat) + 1 := by omega
      have inside : k < h.lines.length := (List.getElem?_eq_some_iff.mp found).1
      refine ⟨i + 1 + k, l, number, stands.getElem?_of_lines found, text, ?_, ?_⟩
      · change h.headerLine < h.headerLine + 1 + k
        omega
      · change h.headerLine + 1 + k ≤ h.headerLine + h.lines.length
        omega

private theorem below_header_of_strayLine (blames : Fault.strayLine.Blames ls h e) :
    h.headerLine < e.lineNumber := by
  obtain ⟨_, k, -, -, -, number, -, -⟩ := blames
  omega

private theorem not_anchorMissing_of_emptyHunk (empty : Fault.emptyHunk.Blames ls h e) :
    ¬ Fault.anchorMissing.Blames ls h e := by
  rintro ⟨-, l, first, -⟩
  rw [empty.2] at first
  simp at first

private theorem not_pastEnd_of_strayLine (stray : Fault.strayLine.Blames ls h e) :
    ¬ Fault.pastEnd.Blames ls h e := by
  obtain ⟨i, _, numberI, foundI, invalid, -, -, -⟩ := stray
  rintro ⟨k, l, numberK, foundK, text, -, -⟩
  obtain rfl : i = k := by omega
  obtain rfl := Option.some.inj (foundI.symm.trans foundK)
  exact invalid text.isBodyLine

def Fault.isInBody : Fault → Bool
  | .strayLine | .pastEnd => true
  | _ => false

private theorem Fault.Blames.isInBody_iff {fault : Fault} (blames : fault.Blames ls h e) :
    fault.isInBody = true ↔ h.headerLine < e.lineNumber := by
  cases fault with
  | emptyHunk =>
    have same := blames.1
    simp [Fault.isInBody, same]
  | anchorMissing =>
    have same := blames.1
    simp [Fault.isInBody, same]
  | strayLine => simpa [Fault.isInBody] using below_header_of_strayLine blames
  | pastEnd =>
    obtain ⟨_, _, -, -, -, below, -⟩ := blames
    simpa [Fault.isInBody] using below

private theorem Fault.Blames.unique {a b : Fault} (first : a.Blames ls h e) (second : b.Blames ls h e) :
    a = b := by
  have place : a.isInBody = b.isInBody :=
    Bool.eq_iff_iff.mpr (first.isInBody_iff.trans second.isInBody_iff.symm)
  match a, b, first, second with
  | .emptyHunk, .emptyHunk, _, _ => rfl
  | .anchorMissing, .anchorMissing, _, _ => rfl
  | .strayLine, .strayLine, _, _ => rfl
  | .pastEnd, .pastEnd, _, _ => rfl
  | .emptyHunk, .anchorMissing, empty, missing =>
    exact absurd missing (not_anchorMissing_of_emptyHunk empty)
  | .anchorMissing, .emptyHunk, missing, empty =>
    exact absurd missing (not_anchorMissing_of_emptyHunk empty)
  | .strayLine, .pastEnd, stray, past => exact absurd past (not_pastEnd_of_strayLine stray)
  | .pastEnd, .strayLine, past, stray => exact absurd past (not_pastEnd_of_strayLine stray)

end

/--
If a diff text is read but does not apply, the hunks before some hunk apply, that hunk does not, and the
error blames it for one fault: it names the header of an empty hunk or of one that has no place, and
otherwise the very line of the text that is stray or for which no old line is left.
-/
theorem patch_error_blames_line {dedupe : Bool} {old diff : Text} {hs : List Hunk} {e : PatchError}
    (parsed : parse diff = .ok hs) (fails : apply dedupe old (.text diff) = .error (.patch e)) :
    ∃ done h todo i, hs = done ++ h :: todo ∧
      (∃ new, apply dedupe old (.hunks done) = .ok new) ∧
      applyHunks dedupe old (done ++ [h]) = .error e ∧
      h.StandsIn diff.lines i ∧ ∀ fault : Fault, fault.Blames diff.lines h e ↔ fault = e.fault := by
  have stops : emit dedupe none 0 old.lines hs = .error e := by
    simpa [apply, Source.toHunks, parsed, applyHunks, Source.raise, mapError_eq_error_iff,
      map_eq_error_iff] using fails
  obtain ⟨done, h, todo, rfl, ⟨es, emitted⟩, stopsThere, refuses⟩ := exists_refuses_of_emit stops
  obtain ⟨i, stands⟩ := (layout_of_parse parsed).stands h (by simp)
  have blames := blames_of_refuses stands refuses
  refine ⟨done, h, todo, i, rfl, ⟨textOf es, ?_⟩, ?_, stands, fun fault => ?_⟩
  · simp only [apply, Source.toHunks, applyHunks, emitted]
    rfl
  · simp only [applyHunks, stopsThere]
    rfl
  · exact ⟨fun other => other.unique blames, fun eq => eq ▸ blames⟩

/-- A diff whose second hunk keeps an empty line after the last line of a text of two lines. -/
def overrunDiff : Text := "@@ -1 +1 @@\n-a\n+A\n@@ -2 +2 @@\n b\n\nc"

def overrunHunks : List Hunk := [⟨0, 1, 0, 1, ["-a", "+A"], 1⟩, ⟨1, 1, 1, 1, [" b", "", "c"], 4⟩]

/-- The sixth line is blamed, for which no old line is left, and not the stray one below it. -/
theorem patch_error_blames_overrun :
    parse overrunDiff = .ok overrunHunks ∧
      apply true ("a\nb" : Text) (.text overrunDiff) = .error (.patch (.pastEnd 6 [])) ∧
      ∃ done h todo i, overrunHunks = done ++ h :: todo ∧
        (∃ new, apply true ("a\nb" : Text) (.hunks done) = .ok new) ∧
        h.StandsIn overrunDiff.lines i ∧
        ∀ fault : Fault, fault.Blames overrunDiff.lines h (.pastEnd 6 []) ↔ fault = .pastEnd := by
  have parsed : parse overrunDiff = .ok overrunHunks := by rfl
  have fails : apply true ("a\nb" : Text) (.text overrunDiff) = .error (.patch (.pastEnd 6 [])) := by
    rfl
  obtain ⟨done, h, todo, i, split, applied, -, stands, blames⟩ := patch_error_blames_line parsed fails
  exact ⟨parsed, fails, done, h, todo, i, split, applied, stands, blames⟩

end Redline.Diff
