import Redline.Diff.Hunk
import Redline.Proofs.Outcome
import Redline.Proofs.Text.Lines

set_option autoImplicit false
set_option relaxedAutoImplicit false

/-!
Hunks as text. A block is a header line with its two ranges and the body lines below it. Parsing the
lines of blocks, after lines that begin no hunk, gives one hunk for each block, with the numbers that
its header writes and its body lines as they stand.
-/

namespace Redline.Diff

open Text (isDigit digitsValue)

/-- A run of at least one digit. -/
structure IsDigits (ds : Text) : Prop where
  ne_nil : ds ≠ []
  isDigit : ∀ c ∈ ds, isDigit c = true

/-- A run of digits that is read as a number. -/
structure IsNumberText (ds : Text) : Prop where
  ne_nil : ds ≠ []
  isDigit : ∀ c ∈ ds, isDigit c = true
  length_le : ds.length ≤ Number.maxDigits

private theorem isNumberText_iff {ds : Text} :
    IsNumberText ds ↔ ds ≠ [] ∧ ds.all isDigit = true ∧ ds.length ≤ Number.maxDigits := by
  rw [List.all_eq_true]
  exact ⟨fun ⟨ne, digits, short⟩ => ⟨ne, digits, short⟩, fun ⟨ne, digits, short⟩ => ⟨ne, digits, short⟩⟩

instance (ds : Text) : Decidable (IsNumberText ds) := decidable_of_iff' _ isNumberText_iff

private theorem IsNumberText.isDigits {ds : Text} (number : IsNumberText ds) : IsDigits ds :=
  ⟨number.ne_nil, number.isDigit⟩

namespace RangeText

def text (r : RangeText) : Text :=
  match r.count with
  | none => r.start
  | some ds => r.start ++ ',' :: ds

/-- A range whose numbers are written in digits, however many. -/
structure IsWritten (r : RangeText) : Prop where
  start : IsDigits r.start
  count : ∀ ds ∈ r.count, IsDigits ds

structure WellFormed (r : RangeText) : Prop where
  start : IsNumberText r.start
  count : ∀ ds ∈ r.count, IsNumberText ds

instance (r : RangeText) : Decidable r.WellFormed :=
  decidable_of_iff (IsNumberText r.start ∧ ∀ ds ∈ r.count, IsNumberText ds)
    ⟨fun ⟨start, count⟩ => ⟨start, count⟩, fun ⟨start, count⟩ => ⟨start, count⟩⟩

private theorem WellFormed.isWritten {r : RangeText} (wf : r.WellFormed) : r.IsWritten :=
  ⟨wf.start.isDigits, fun ds mem => (wf.count ds mem).isDigits⟩

/-- The number of lines of a range; one that is not written is one. -/
def size (r : RangeText) : Nat := (r.count.map digitsValue).getD 1

end RangeText

def endsHunk (l : Line) : Bool := isMarker l || isFileHeader l

/-- A hunk as it is written. -/
structure Block where
  old : RangeText
  new : RangeText
  /-- What follows the closing marker of the header. -/
  remark : Line
  body : List Line

namespace Block

def header (b : Block) : Line :=
  ['@', '@', ' ', '-'] ++ (b.old.text ++ ([' ', '+'] ++ (b.new.text ++ ([' ', '@', '@'] ++ b.remark))))

def lines (b : Block) : List Line := b.header :: b.body

/-- A block whose header is read and whose body runs to its end. -/
structure WellFormed (b : Block) : Prop where
  old : b.old.WellFormed
  new : b.new.WellFormed
  remark : '\n' ∉ b.remark
  body : ∀ l ∈ b.body, '\n' ∉ l ∧ endsHunk l = false

/-- The hunk that a block writes, when its header stands in the given line. -/
def hunk (lineNumber : Nat) (b : Block) : Hunk where
  oldStart := (digitsValue b.old.start : Int) - 1
  oldCount := b.old.size
  newStart := (digitsValue b.new.start : Int) - 1
  newCount := b.new.size
  lines := b.body
  headerLine := lineNumber

end Block

/-- The hunks that blocks write one below the other, from the given line on. -/
def hunksFrom (lineNumber : Nat) : List Block → List Hunk
  | [] => []
  | b :: bs => b.hunk lineNumber :: hunksFrom (lineNumber + b.lines.length) bs

private theorem readDigits_append {ds : Text} (digits : IsDigits ds) {c : Char} (stop : isDigit c = false)
    (rest : Text) : readDigits (ds ++ c :: rest) = some (ds, c :: rest) := by
  have takes : (ds ++ c :: rest).takeWhile isDigit = ds := by
    rw [List.takeWhile_append_of_pos digits.isDigit]
    simp [stop]
  have drops : (ds ++ c :: rest).dropWhile isDigit = c :: rest := by
    rw [List.dropWhile_append_of_pos digits.isDigit]
    simp [stop]
  have nonempty : ds.isEmpty = false := by simpa using digits.ne_nil
  simp [readDigits, takes, drops, nonempty]

private theorem readRange_text_append {r : RangeText} (written : r.IsWritten) (rest : Text) :
    readRange (r.text ++ ' ' :: rest) = some (r, ' ' :: rest) := by
  have space : isDigit ' ' = false := by decide
  have comma : isDigit ',' = false := by decide
  obtain ⟨start, count⟩ := r
  cases count with
  | none => simp [readRange, RangeText.text, readDigits_append written.start space]
  | some ds =>
    have digits : IsDigits ds := written.count ds rfl
    simp [readRange, RangeText.text, readDigits_append written.start comma,
      readDigits_append digits space]

theorem readHeader_header {b : Block} (old : b.old.IsWritten) (new : b.new.IsWritten) :
    readHeader b.header = some (b.old, b.new) := by
  simp [readHeader, Block.header, readRange_text_append old, readRange_text_append new]

private theorem readNumber_eq_ok {ds : Text} (number : IsNumberText ds) :
    readNumber ds = .ok (digitsValue ds) := by
  have short : ¬ Number.maxDigits < ds.length := Nat.not_lt.mpr number.length_le
  simp [readNumber, short]

private theorem readCount_eq_ok {r : RangeText} (wf : r.WellFormed) : readCount r.count = .ok r.size := by
  cases count : r.count with
  | none => simp [readCount, RangeText.size, count]
  | some ds => simp [readCount, RangeText.size, count, readNumber_eq_ok (wf.count ds count)]

theorem ofHeader_header {b : Block} (wf : b.WellFormed) (n : Nat) :
    Hunk.ofHeader n b.header = .ok { b.hunk n with lines := [] } := by
  simp [Hunk.ofHeader, readHeader_header wf.old.isWritten wf.new.isWritten, readNumber_eq_ok wf.old.start,
    readNumber_eq_ok wf.new.start, readCount_eq_ok wf.old, readCount_eq_ok wf.new, bind, Except.bind,
    pure, Except.pure, Block.hunk]

theorem isMarker_header (b : Block) : isMarker b.header = true := rfl

private theorem scanHunks_append {ls : List Line} (keeps : ∀ l ∈ ls, endsHunk l = false) (n : Nat)
    (rest : List Line) :
    scanHunks n (ls ++ rest) =
      (scanHunks (n + ls.length) rest).map fun p => (ls ++ p.1, p.2) := by
  induction ls generalizing n with
  | nil =>
    simp only [List.nil_append, List.length_nil, Nat.add_zero]
    cases scanHunks n rest with
    | error e => rfl
    | ok p => rfl
  | cons l ls ih =>
    obtain ⟨marker, header⟩ := Bool.or_eq_false_iff.mp (keeps l (by simp))
    have inner := ih (fun m mem => keeps m (List.mem_cons_of_mem l mem)) (n + 1)
    have number : n + (l :: ls).length = n + 1 + ls.length := by
      rw [List.length_cons]
      omega
    simp only [List.cons_append, scanHunks, marker, header, inner, number, Bool.false_eq_true,
      ↓reduceIte]
    cases scanHunks (n + 1 + ls.length) rest with
    | error e => rfl
    | ok p => rfl

private theorem scanHunks_append_snd {ls : List Line} (lead : ∀ l ∈ ls, isMarker l = false) (n : Nat)
    (rest : List Line) :
    (scanHunks n (ls ++ rest)).map Prod.snd = (scanHunks (n + ls.length) rest).map Prod.snd := by
  induction ls generalizing n with
  | nil => rfl
  | cons l ls ih =>
    have marker := lead l (by simp)
    have inner := ih (fun m mem => lead m (List.mem_cons_of_mem l mem)) (n + 1)
    have number : n + (l :: ls).length = n + 1 + ls.length := by
      rw [List.length_cons]
      omega
    rw [number, ← inner]
    simp only [List.cons_append, scanHunks, marker, Bool.false_eq_true, ↓reduceIte]
    cases scanHunks (n + 1) (ls ++ rest) with
    | error e => rfl
    | ok p => rfl

private theorem scanHunks_flatMap_lines {bs : List Block} (wf : ∀ b ∈ bs, b.WellFormed) (n : Nat) :
    scanHunks n (bs.flatMap Block.lines) = .ok ([], hunksFrom n bs) := by
  induction bs generalizing n with
  | nil => rfl
  | cons b bs ih =>
    have first := wf b (by simp)
    have others := ih (fun c mem => wf c (List.mem_cons_of_mem b mem)) (n + b.lines.length)
    have number : n + 1 + b.body.length = n + b.lines.length := by
      rw [Block.lines, List.length_cons]
      omega
    have body := scanHunks_append (fun l mem => (first.body l mem).2) (n + 1)
      (bs.flatMap Block.lines)
    rw [number, others] at body
    simp only [List.flatMap_cons, Block.lines, List.cons_append, scanHunks, isMarker_header,
      ↓reduceIte, ofHeader_header first, body]
    simp [bind, Except.bind, pure, Except.pure, Except.map, hunksFrom, Block.lines, Block.hunk]

theorem Block.WellFormed.feed_not_mem_header {b : Block} (wf : b.WellFormed) : '\n' ∉ b.header := by
  have digits {ds : Text} (number : IsNumberText ds) : '\n' ∉ ds := fun mem =>
    absurd (number.isDigit _ mem) (by decide)
  have range {r : RangeText} (wf : r.WellFormed) : '\n' ∉ r.text := by
    obtain ⟨start, count⟩ := r
    cases count with
    | none => exact digits wf.start
    | some ds => simpa [RangeText.text] using ⟨digits wf.start, digits (wf.count ds rfl)⟩
  simpa [Block.header] using ⟨range wf.old, range wf.new, wf.remark⟩

private theorem Block.WellFormed.feed_not_mem {b : Block} (wf : b.WellFormed) :
    ∀ l ∈ b.lines, '\n' ∉ l := by
  intro l mem
  rcases List.mem_cons.mp mem with rfl | mem
  · exact wf.feed_not_mem_header
  · exact (wf.body l mem).1

theorem parse_unlines_append {lead : List Line} {bs : List Block}
    (leads : ∀ l ∈ lead, '\n' ∉ l ∧ isMarker l = false) (wf : ∀ b ∈ bs, b.WellFormed) :
    parse (Text.unlines (lead ++ bs.flatMap Block.lines)) = .ok (hunksFrom (lead.length + 1) bs) := by
  have scanned : (scanHunks 1 (lead ++ bs.flatMap Block.lines)).map Prod.snd =
      .ok (hunksFrom (lead.length + 1) bs) := by
    rw [scanHunks_append_snd (fun l mem => (leads l mem).2), scanHunks_flatMap_lines wf,
      Nat.add_comm]
    rfl
  by_cases empty : lead ++ bs.flatMap Block.lines = []
  · -- No line at all is written as the empty text, which has one empty line.
    rw [empty] at scanned ⊢
    rw [← scanned]
    rfl
  · have free : ∀ l ∈ lead ++ bs.flatMap Block.lines, '\n' ∉ l := by
      intro l mem
      rcases List.mem_append.mp mem with mem | mem
      · exact (leads l mem).1
      · obtain ⟨b, inBlocks, inLines⟩ := List.mem_flatMap.mp mem
        exact (wf b inBlocks).feed_not_mem l inLines
    rw [parse, Text.lines_unlines empty free, scanned]

end Redline.Diff
