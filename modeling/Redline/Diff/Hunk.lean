import Redline.Number.Decimal

set_option autoImplicit false
set_option relaxedAutoImplicit false

/-!
Hunks of a unified diff. A hunk begins at a header line and runs up to the next line that begins
with `@@`, `---` or `+++`; lines outside hunks are ignored. The header grammar is
`@@ -A[,B] +C[,D] @@`, with digits of any script.
-/

namespace Redline.Diff

/-- One contiguous edit region. Starts count from zero; the header line counts from one. -/
structure Hunk where
  oldStart : Int
  oldCount : Int
  newStart : Int
  newCount : Int
  lines : List Line
  headerLine : Int
  deriving Repr, DecidableEq

namespace Hunk

def additions (h : Hunk) : Nat := h.lines.countP fun l => Text.startsWith l ['+']

/-- How many body lines begin with a minus. -/
def deletions (h : Hunk) : Nat := h.lines.countP fun l => Text.startsWith l ['-']

end Hunk

/-- Why a diff text has no hunks to give. -/
inductive ParseError where
  /-- A line begins with `@@` but is no header. -/
  | badHeader (lineNumber : Nat) (line : Line)
  /-- A header holds a number with this many digits, which is more than are read. -/
  | longNumber (digits : Nat)
  deriving Repr, DecidableEq

/-- A line that begins a hunk, or would if it were well formed. -/
def isMarker (l : Line) : Bool := Text.startsWith l ['@', '@']

def isFileHeader (l : Line) : Bool :=
  Text.startsWith l ['-', '-', '-'] || Text.startsWith l ['+', '+', '+']

/-- A range of lines as a header writes it: a start and, optionally, a count. -/
structure RangeText where
  start : Text
  count : Option Text
  deriving Repr, DecidableEq

def readDigits (t : Text) : Option (Text × Text) :=
  if (t.takeWhile Text.isDigit).isEmpty then none
  else some (t.takeWhile Text.isDigit, t.dropWhile Text.isDigit)

def readRange (t : Text) : Option (RangeText × Text) :=
  match readDigits t with
  | none => none
  | some (start, ',' :: r) => (readDigits r).map fun p => (⟨start, some p.1⟩, p.2)
  | some (start, r) => some (⟨start, none⟩, r)

/-- The two ranges of a header line. What follows the closing marker is ignored. -/
def readHeader (l : Line) : Option (RangeText × RangeText) :=
  match l with
  | '@' :: '@' :: ' ' :: '-' :: t =>
    match readRange t with
    | some (old, ' ' :: '+' :: t) =>
      match readRange t with
      | some (new, ' ' :: '@' :: '@' :: _) => some (old, new)
      | _ => none
    | _ => none
  | _ => none

/-- The number that digits write, unless they are too many. -/
def readNumber (ds : Text) : Except ParseError Nat :=
  if Number.maxDigits < ds.length then .error (.longNumber ds.length)
  else .ok (Text.digitsValue ds)

def readCount : Option Text → Except ParseError Nat
  | none => .ok 1
  | some ds => readNumber ds

/-- The hunk, still without lines, whose header is the given line. -/
def Hunk.ofHeader (lineNumber : Nat) (l : Line) : Except ParseError Hunk :=
  match readHeader l with
  | none => .error (.badHeader lineNumber l)
  | some (old, new) => do
    let oldStart ← readNumber old.start
    let oldCount ← readCount old.count
    let newStart ← readNumber new.start
    let newCount ← readCount new.count
    return { oldStart := (oldStart : Int) - 1, oldCount
             newStart := (newStart : Int) - 1, newCount
             lines := [], headerLine := lineNumber }

/--
The lines before the first line that ends a hunk, and the hunks that begin in these lines. The
first line has the given number.
-/
def scanHunks (lineNumber : Nat) : List Line → Except ParseError (List Line × List Hunk)
  | [] => .ok ([], [])
  | l :: ls =>
    if isMarker l then do
      let h ← Hunk.ofHeader lineNumber l
      let (body, hunks) ← scanHunks (lineNumber + 1) ls
      return ([], { h with lines := body } :: hunks)
    else do
      let (body, hunks) ← scanHunks (lineNumber + 1) ls
      return (if isFileHeader l then [] else l :: body, hunks)

def parse (diff : Text) : Except ParseError (List Hunk) :=
  (scanHunks 1 diff.lines).map Prod.snd

end Redline.Diff
