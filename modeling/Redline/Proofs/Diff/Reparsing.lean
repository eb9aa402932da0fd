import Mathlib.Data.List.TakeWhile
import Redline.Proofs.Diff.Rendering
import Redline.Proofs.Number.Decimal

set_option autoImplicit false
set_option relaxedAutoImplicit false

/-!
Hunks that are written out and parsed again. A header gives back the numbers that it was written with,
and each hunk is found at the line where it stands. A body comes back up to its first line that looks
like the header of a file: a deleted line that begins with two minus signs, or an added one that begins
with two plus signs, ends the hunk.
-/

namespace Redline.Diff

open Number (maxDigits showInt showNat)
open Text (digitsValue)

namespace Hunk

/-- A hunk as it is written: both counts are spelled out, and nothing follows the closing marker. -/
def block (h : Hunk) : Block where
  old := ⟨showInt (h.oldStart + 1), some (showInt h.oldCount)⟩
  new := ⟨showInt (h.newStart + 1), some (showInt h.newCount)⟩
  remark := []
  body := h.lines

def written (h : Hunk) : List Line := h.block.lines

/-- A line with one of the three signs that begin a body line. -/
def IsSigned (l : Line) : Prop := l.head? ∈ [some '+', some '-', some ' ']

instance : DecidablePred IsSigned := fun l =>
  inferInstanceAs (Decidable (l.head? ∈ [some '+', some '-', some ' ']))

/-- Whether a number can be written into a header and read from it. -/
def IsHeaderNumber (n : Int) : Prop := 0 ≤ n ∧ n.toNat < 10 ^ maxDigits

/-- Whether a hunk can be written. Its counts need not agree with its body. -/
structure IsWritable (h : Hunk) : Prop where
  oldStart : IsHeaderNumber (h.oldStart + 1)
  oldCount : IsHeaderNumber h.oldCount
  newStart : IsHeaderNumber (h.newStart + 1)
  newCount : IsHeaderNumber h.newCount
  signed : ∀ l ∈ h.lines, IsSigned l
  free : ∀ l ∈ h.lines, '\n' ∉ l

def readAt (lineNumber : Nat) (h : Hunk) : Hunk :=
  { h with lines := h.lines.takeWhile fun l => !isFileHeader l, headerLine := lineNumber }

end Hunk

def writtenText (hs : List Hunk) : Text := Text.unlines (hs.flatMap Hunk.written)

/-- What is read of hunks written one below the other, from the given line on. -/
def readFrom (lineNumber : Nat) : List Hunk → List Hunk
  | [] => []
  | h :: hs => h.readAt lineNumber :: readFrom (lineNumber + h.written.length) hs

private theorem showInt_of_nonneg {n : Int} (nonneg : 0 ≤ n) : showInt n = showNat n.toNat := by
  obtain ⟨m, rfl⟩ := Int.eq_ofNat_of_zero_le nonneg
  rfl

namespace Hunk

private theorem IsHeaderNumber.isNumberText {n : Int} (number : IsHeaderNumber n) :
    IsNumberText (showInt n) := by
  rw [showInt_of_nonneg number.1]
  exact ⟨Number.showNat_ne_nil _, fun _ mem => Number.isDigit_of_mem_showNat mem,
    Number.length_showNat_le (by decide) number.2⟩

private theorem IsHeaderNumber.digitsValue {n : Int} (number : IsHeaderNumber n) :
    (digitsValue (showInt n) : Int) = n := by
  rw [showInt_of_nonneg number.1, Number.digitsValue_showNat]
  exact Int.toNat_of_nonneg number.1

private theorem isMarker_of_isSigned {l : Line} (signed : IsSigned l) : isMarker l = false := by
  cases l with
  | nil => rfl
  | cons c t =>
    have sign : c = '+' ∨ c = '-' ∨ c = ' ' := by simpa [IsSigned] using signed
    rcases sign with rfl | rfl | rfl <;> rfl

variable {h : Hunk}

private theorem IsWritable.wellFormed_bare (writable : h.IsWritable) :
    ({ h.block with body := [] } : Block).WellFormed where
  old := ⟨writable.oldStart.isNumberText, by
    rintro _ ⟨⟩
    exact writable.oldCount.isNumberText⟩
  new := ⟨writable.newStart.isNumberText, by
    rintro _ ⟨⟩
    exact writable.newCount.isNumberText⟩
  remark := List.not_mem_nil
  body := by simp

private theorem IsWritable.ofHeader_header (writable : h.IsWritable) (n : Nat) :
    Hunk.ofHeader n h.block.header = .ok { h with lines := [], headerLine := n } := by
  have read := Diff.ofHeader_header writable.wellFormed_bare n
  have header : h.block.header = ({ h.block with body := [] } : Block).header := rfl
  have oldStart := writable.oldStart.digitsValue
  have oldCount := writable.oldCount.digitsValue
  have newStart := writable.newStart.digitsValue
  have newCount := writable.newCount.digitsValue
  rw [header, read]
  simp [Block.hunk, block, RangeText.size, oldStart, oldCount, newStart, newCount]

private theorem IsWritable.feed_not_mem (writable : h.IsWritable) : ∀ l ∈ h.written, '\n' ∉ l := by
  intro l mem
  rcases List.mem_cons.mp mem with rfl | mem
  · exact writable.wellFormed_bare.feed_not_mem_header
  · exact writable.free l mem

end Hunk

private theorem scanHunks_append_of_not_marker {ls rest : List Line} {n : Nat} {hs : List Hunk}
    (plain : ∀ l ∈ ls, isMarker l = false)
    (scanned : scanHunks (n + ls.length) rest = .ok ([], hs)) :
    scanHunks n (ls ++ rest) = .ok (ls.takeWhile fun l => !isFileHeader l, hs) := by
  induction ls generalizing n with
  | nil => exact scanned
  | cons l ls ih =>
    obtain ⟨first, others⟩ := List.forall_mem_cons.mp plain
    have number : n + 1 + ls.length = n + (l :: ls).length := by
      rw [List.length_cons]
      omega
    have inner := ih others (number ▸ scanned)
    rw [List.cons_append, scanHunks, first, inner]
    cases ends : isFileHeader l <;>
      simp [ends, bind, Except.bind, pure, Except.pure]

private theorem scanHunks_flatMap_written {hs : List Hunk} (writable : ∀ h ∈ hs, h.IsWritable) (n : Nat) :
    scanHunks n (hs.flatMap Hunk.written) = .ok ([], readFrom n hs) := by
  induction hs generalizing n with
  | nil => rfl
  | cons h hs ih =>
    obtain ⟨first, others⟩ := List.forall_mem_cons.mp writable
    have number : n + 1 + h.lines.length = n + h.written.length := by
      simp only [Hunk.written, Block.lines, Hunk.block, List.length_cons]
      omega
    have below := ih others (n + h.written.length)
    rw [← number] at below
    have body := scanHunks_append_of_not_marker
      (fun l mem => Hunk.isMarker_of_isSigned (first.signed l mem)) below
    have split : (h :: hs).flatMap Hunk.written =
        h.block.header :: (h.lines ++ hs.flatMap Hunk.written) := rfl
    rw [split, scanHunks, isMarker_header, first.ofHeader_header, body, number]
    rfl

private theorem parse_writtenText {hs : List Hunk} (writable : ∀ h ∈ hs, h.IsWritable) :
    parse (writtenText hs) = .ok (readFrom 1 hs) := by
  have scanned := scanHunks_flatMap_written writable 1
  cases hs with
  | nil => rfl
  | cons h hs =>
    have some : (h :: hs).flatMap Hunk.written ≠ [] := List.cons_ne_nil _ _
    have free : ∀ l ∈ (h :: hs).flatMap Hunk.written, '\n' ∉ l := by
      intro l mem
      obtain ⟨g, inHunks, inLines⟩ := List.mem_flatMap.mp mem
      exact (writable g inHunks).feed_not_mem l inLines
    rw [parse, writtenText, Text.lines_unlines some free, scanned]
    rfl

private theorem readFrom_append_cons (n : Nat) (above : List Hunk) (h : Hunk) (below : List Hunk) :
    (readFrom n (above ++ h :: below))[above.length]? =
      some (h.readAt (n + (above.flatMap Hunk.written).length)) := by
  induction above generalizing n with
  | nil => rfl
  | cons g above ih =>
    have step := ih (n + g.written.length)
    simpa [readFrom, Nat.add_assoc] using step

private theorem length_readFrom (n : Nat) (hs : List Hunk) : (readFrom n hs).length = hs.length := by
  induction hs generalizing n with
  | nil => rfl
  | cons h hs ih => simp [readFrom, ih]

private theorem map_lines_readFrom (n : Nat) (hs : List Hunk) : (readFrom n hs).map Hunk.lines =
    hs.map fun h => h.lines.takeWhile fun l => !isFileHeader l := by
  induction hs generalizing n with
  | nil => rfl
  | cons h hs ih => simp [readFrom, Hunk.readAt, ih]

/--
Hunks that are written one below the other are parsed as hunks with the same numbers, each at the line
of its header and with its body up to the first line that looks like the header of a file; so the bodies
come back whole exactly if no line of them does.
-/
theorem parse_written_hunks {hs : List Hunk} (writable : ∀ h ∈ hs, h.IsWritable) :
    ∃ read, parse (writtenText hs) = .ok read ∧ read.length = hs.length ∧
      (∀ above h below, hs = above ++ h :: below → read[above.length]? =
        some (h.readAt ((above.flatMap Hunk.written).length + 1))) ∧
      (read.map Hunk.lines = hs.map Hunk.lines ↔
        ∀ h ∈ hs, ∀ l ∈ h.lines, isFileHeader l = false) := by
  refine ⟨readFrom 1 hs, parse_writtenText writable, length_readFrom 1 hs, ?_, ?_⟩
  · rintro above h below rfl
    rw [readFrom_append_cons, Nat.add_comm]
  · rw [map_lines_readFrom, List.map_inj_left]
    simp only [List.takeWhile_eq_self_iff, Bool.not_eq_true']

/-- A hunk that deletes a line, which begins with two minus signs. -/
def deletedComment : Hunk := ⟨0, 1, -1, 0, ["--- old"], 1⟩

/-- A hunk that inserts a line, which looks like the header of a hunk. -/
def addedMarker : Hunk := ⟨8, 0, 7, 1, ["+@@"], 3⟩

private theorem isHeaderNumber_of_le {n : Int} (nonneg : 0 ≤ n) (small : n.toNat ≤ maxDigits) :
    Hunk.IsHeaderNumber n :=
  ⟨nonneg, Nat.lt_of_le_of_lt small (Nat.lt_pow_self (by decide))⟩

private theorem isWritable_deletedComment : deletedComment.IsWritable where
  oldStart := isHeaderNumber_of_le (by decide) (by decide)
  oldCount := isHeaderNumber_of_le (by decide) (by decide)
  newStart := isHeaderNumber_of_le (by decide) (by decide)
  newCount := isHeaderNumber_of_le (by decide) (by decide)
  signed := by decide
  free := by decide

private theorem isWritable_addedMarker : addedMarker.IsWritable where
  oldStart := isHeaderNumber_of_le (by decide) (by decide)
  oldCount := isHeaderNumber_of_le (by decide) (by decide)
  newStart := isHeaderNumber_of_le (by decide) (by decide)
  newCount := isHeaderNumber_of_le (by decide) (by decide)
  signed := by decide
  free := by decide

/-- The added line comes back, in the third line of the text; the deleted one does not. -/
theorem parse_written_hunks_comment :
    (∀ h ∈ [deletedComment, addedMarker], h.IsWritable) ∧
      ∃ read, parse (writtenText [deletedComment, addedMarker]) = .ok read ∧
        read[1]? = some addedMarker ∧ read.map Hunk.lines ≠ [deletedComment.lines, addedMarker.lines] := by
  have writable : ∀ h ∈ [deletedComment, addedMarker], h.IsWritable :=
    List.forall_mem_cons.mpr
      ⟨isWritable_deletedComment, List.forall_mem_singleton.mpr isWritable_addedMarker⟩
  obtain ⟨read, parsed, -, place, whole⟩ := parse_written_hunks writable
  refine ⟨writable, read, parsed, place [deletedComment] addedMarker [] rfl, fun same => ?_⟩
  exact absurd (whole.mp same) (by decide)

/--
A hunk whose counts agree with its body does not come back: its deleted line begins with two minus
signs.
-/
theorem parse_written_comment_lost :
    deletedComment.IsWritable ∧ deletedComment.oldCount = deletedComment.deletions ∧
      deletedComment.newCount = deletedComment.additions ∧
      parse (writtenText [deletedComment]) = .ok [{ deletedComment with lines := [] }] ∧
      parse (writtenText [deletedComment]) ≠ .ok [deletedComment] := by
  have parsed : parse (writtenText [deletedComment]) = .ok [{ deletedComment with lines := [] }] :=
    parse_writtenText (List.forall_mem_singleton.mpr isWritable_deletedComment)
  refine ⟨isWritable_deletedComment, rfl, rfl, parsed, ?_⟩
  rw [parsed]
  decide

end Redline.Diff
