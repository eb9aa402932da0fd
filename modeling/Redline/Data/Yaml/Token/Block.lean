import Redline.Data.Yaml.Cursor
import Redline.Text.Wording

set_option autoImplicit false
set_option relaxedAutoImplicit false

/-!
Block scalars: indented lines after a header. The header may say how many line breaks at the end are
kept and how far the lines are indented; else the first line that is not blank decides. A folded
scalar joins neighbouring lines that do not begin with a blank.
-/

namespace Redline.Data.Yaml

/-- How a block scalar treats the line breaks at its end. -/
inductive Chomping where
  | clip
  | strip
  | keep
  deriving Repr, DecidableEq

def chompingOf? : Char → Option Chomping
  | '+' => some .keep
  | '-' => some .strip
  | _ => none

def digitOf? (c : Char) : Option Nat :=
  if decide ('0' ≤ c) && decide (c ≤ '9') then some (c.toNat - 48) else none

/-- The meaning of the next character, if it has one, and the position after it. -/
def readMark {α : Type} (meaning : Char → Option α) (c : Cursor) :
    Except Fault (Option α × Cursor) := do
  match (← c.peek).bind meaning with
  | some a => return (some a, ← c.move 1)
  | none => return (none, c)

/-- The signs of a header in either order, and the position of the lines after it. -/
def readHeader (c : Cursor) : Except Fault (Chomping × Option Nat × Cursor) := do
  let (before, c) ← readMark chompingOf? c
  let (indent, c) ← readMark digitOf? c
  if indent = some 0 then throw .malformed
  let (after, c) ←
    if before.isNone && indent.isSome then readMark chompingOf? c else pure (none, c)
  if !endsLabel (← c.peek) then throw .malformed
  return ((before.or after).getD .clip, indent, ← c.passLine)

/-- The widest of the blank beginnings of lines up to the first line that is not blank. -/
def readWidest (widest : Nat) : Nat → Cursor → Except Fault Nat
  | 0, _ => .ok widest
  | fuel + 1, c => do
    let c ← c.pass (· == ' ')
    let widest := max widest c.column
    if ← c.nextIs isBreak then readWidest widest fuel (← c.move 1) else return widest

/-- The position after the blanks that lead up to a column. -/
def passIndent (indent : Nat) : Nat → Cursor → Except Fault Cursor
  | 0, c => .ok c
  | fuel + 1, c => do
    if decide (c.column < indent) && (← c.nextIs (· == ' ')) then
      passIndent indent fuel (← c.move 1)
    else return c

/-- The line breaks before the next line that is not empty, and where it begins. -/
def readEmptyLines (indent : Nat) : Nat → Cursor → Except Fault (Text × Cursor)
  | 0, c => .ok ([], c)
  | fuel + 1, c => do
    let c ← passIndent indent indent c
    match ← c.peek with
    | none => return ([], c)
    | some ch =>
      if isBreak ch then
        let (more, d) ← readEmptyLines indent fuel (← c.move 1)
        return (breakChar ch :: more, d)
      else return ([], c)

/-- Whether a line of a block scalar begins at a position. -/
def atLine (indent : Nat) (c : Cursor) : Except Fault Bool := do
  return c.column == indent && (← c.peek).isSome

def readBreak (c : Cursor) : Except Fault (Text × Cursor) := do
  match ← c.peek with
  | none => return ([], c)
  | some ch => if isBreak ch then return ([breakChar ch], ← c.move 1) else return ([], c)

/-- What joins two lines of a block scalar, given the line break and the empty lines between them. -/
def joinLines (folded : Bool) (lineBreak empty : Text) : Text :=
  if folded && lineBreak == ['\n'] then if empty.isEmpty then [' '] else [] else lineBreak

/-- What is left of the line breaks at the end of a block scalar. -/
def chomp (chomping : Chomping) (lineBreak empty : Text) : Text :=
  match chomping with
  | .strip => []
  | .clip => lineBreak
  | .keep => lineBreak ++ empty

/-- The lines of a block scalar from one that is not empty on, and the position after them. -/
def readLines (folded : Bool) (chomping : Chomping) (indent : Nat) :
    Nat → Cursor → Except Fault (Text × Cursor)
  | 0, c => .ok ([], c)
  | fuel + 1, c => do
    let startsBlank ← c.nextIs isBlank
    let (line, c) ← c.span fun ch => !isBreak ch
    let (lineBreak, c) ← readBreak c
    let (empty, c) ← readEmptyLines indent c.left.succ c
    if ← atLine indent c then
      let fold := folded && !startsBlank && !(← c.nextIs isBlank)
      let (more, d) ← readLines folded chomping indent fuel c
      return (line ++ joinLines fold lineBreak empty ++ empty ++ more, d)
    else return (line ++ chomp chomping lineBreak empty, c)

/-- A block scalar after its mark, inside a block with a margin, and the position after it. -/
def readBlock (folded : Bool) (margin : Nat) (c : Cursor) : Except Fault (Wording × Cursor) := do
  let (chomping, given, c) ← readHeader c
  let least := max margin 1
  let indent ←
    match given with
    | some n => pure (least + n - 1)
    | none => (readWidest 0 c.left.succ c).map (max least)
  let (empty, c) ← readEmptyLines indent c.left.succ c
  if ← atLine indent c then
    let (t, c) ← readLines folded chomping indent c.left.succ c
    return (.text (empty ++ t), c)
  else return (.text (chomp chomping [] empty), c)

end Redline.Data.Yaml
