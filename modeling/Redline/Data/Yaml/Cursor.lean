import Redline.Data.Yaml.Source

set_option autoImplicit false
set_option relaxedAutoImplicit false

/-!
Reading positions in a document. A position knows its line and column; to move over characters
includes a look at the one that comes next. A look past what can be read gives the fault that ends the
text, or else finds its end.
-/

namespace Redline.Data.Yaml

def isBreak (c : Char) : Bool :=
  Text.inRanges [(0x0A, 0x0A), (0x85, 0x85), (0x2028, 0x2029)] c.toNat

def isBlank (c : Char) : Bool := c == ' ' || c == '\t'

def isGap (c : Char) : Bool := isBlank c || isBreak c

def endsWord : Option Char → Bool
  | none => true
  | some c => isGap c

def endsLabel : Option Char → Bool
  | none => true
  | some c => c == ' ' || isBreak c

/-- What a character that ends a line stands for inside a scalar. -/
def breakChar (c : Char) : Char := if c == '\x85' then '\n' else c

/-- A reading position. -/
structure Cursor where
  rest : Text
  /-- The fault that ends the text, if one does. -/
  cut : Option Fault
  /-- The number of characters in the rest. -/
  left : Nat
  /-- The number of characters before the position. -/
  index : Nat
  line : Nat
  column : Nat
  deriving Repr, DecidableEq

namespace Cursor

def start (s : Source) : Cursor := ⟨s.text, s.cut, s.text.length, 0, 0, 0⟩

/-- The position after a character. A byte order mark has no column. -/
def after (c : Cursor) (ch : Char) (rest : Text) : Cursor :=
  let next := { c with rest, left := c.left - 1, index := c.index + 1 }
  if isBreak ch then { next with line := c.line + 1, column := 0 }
  else if ch == '\uFEFF' then next
  else { next with column := c.column + 1 }

/-- What holds at the end of the text, unless a fault ends it. -/
def ended {α : Type} (c : Cursor) (a : α) : Except Fault α :=
  match c.cut with
  | some f => .error f
  | none => .ok a

def peekAt (c : Cursor) (n : Nat) : Except Fault (Option Char) :=
  match c.rest.drop n with
  | ch :: _ => .ok (some ch)
  | [] => c.ended none

def peek (c : Cursor) : Except Fault (Option Char) := c.peekAt 0

def nextIs (c : Cursor) (p : Char → Bool) : Except Fault Bool := c.peek.map fun o => o.any p

def move : Nat → Cursor → Except Fault Cursor
  | 0, c => c.peek.map fun _ => c
  | n + 1, c =>
    match c.rest with
    | [] => c.ended c
    | ch :: t => move n (c.after ch t)

/-- The characters of a text at a position that satisfy a condition, and the position after them. -/
def spanOf (p : Char → Bool) (c : Cursor) : Text → Except Fault (Text × Cursor)
  | [] => c.ended ([], c)
  | ch :: t =>
    if p ch then (spanOf p (c.after ch t) t).map fun r => (ch :: r.1, r.2) else .ok ([], c)

/-- The characters from a position on that satisfy a condition, and the position after them. -/
def span (c : Cursor) (p : Char → Bool) : Except Fault (Text × Cursor) := spanOf p c c.rest

/-- The position after the characters that satisfy a condition. -/
def pass (c : Cursor) (p : Char → Bool) : Except Fault Cursor := (c.span p).map Prod.snd

/-- Whether a document marker stands at the start of a line. -/
def atMarker (c : Cursor) : Except Fault Bool :=
  match c.rest with
  | x :: y :: z :: _ =>
    if [x, y, z] = ['-', '-', '-'] ∨ [x, y, z] = ['.', '.', '.'] then
      (c.peekAt 3).map endsWord
    else .ok false
  | _ => c.ended false

/-- The position after blanks, a comment, and the end of the line, where nothing else may stand. -/
def passLine (c : Cursor) : Except Fault Cursor := do
  let c ← c.pass (· == ' ')
  let c ← if ← c.nextIs (· == '#') then c.pass fun ch => !isBreak ch else pure c
  match ← c.peek with
  | none => return c
  | some ch => if isBreak ch then c.move 1 else throw .malformed

end Cursor

end Redline.Data.Yaml
