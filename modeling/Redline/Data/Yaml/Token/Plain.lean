import Redline.Data.Yaml.Token.Quoted

set_option autoImplicit false
set_option relaxedAutoImplicit false

/-!
Plain scalars: words without quotes. A plain scalar goes on over blanks and over line breaks as long as
its lines are indented enough; a colon before a gap and a number sign after one end it.
-/

namespace Redline.Data.Yaml

/-- The marks that end a word inside brackets. -/
def flowMarks : Text := ",[]\x7b\x7d"

def startMarks : Text := "-?:,[]\x7b\x7d#&*!|>'\"%@\x60"

/-- Whether a plain scalar begins at a position, before a character that is there. -/
def startsPlain (inFlow : Bool) (c : Cursor) (ch : Char) : Except Fault Bool := do
  if isGap ch then return false
  else if !startMarks.elem ch then return true
  else return !endsWord (← c.peekAt 1) && (ch == '-' || (!inFlow && (ch == '?' || ch == ':')))

def endsAtColon (inFlow : Bool) (next : Option Char) : Bool :=
  endsWord next || (inFlow && next.any flowMarks.elem)

/-- A word of a plain scalar and the position after it; the fuel bounds its length. -/
def readWord (inFlow : Bool) : Nat → Cursor → Except Fault (Text × Cursor)
  | 0, c => .ok ([], c)
  | fuel + 1, c => do
    match ← c.peek with
    | none => return ([], c)
    | some ch =>
      if isGap ch || (inFlow && (ch == '?' || flowMarks.elem ch)) then return ([], c)
      if ch == ':' then
        if endsAtColon inFlow (← c.peekAt 1) then return ([], c)
      let (more, d) ← readWord inFlow fuel (← c.move 1)
      return (ch :: more, d)

/-- What stands between two words of a plain scalar. -/
structure PlainGap where
  /-- What the gap stands for; where nothing may follow it is empty. -/
  text : Text
  /-- Whether a line ends in the gap. -/
  later : Bool
  after : Cursor

/-- The line breaks before the next word, unless a document marker comes first, and its position. -/
def readPlainBreaks : Nat → Cursor → Except Fault (Option Text × Cursor)
  | 0, c => .ok (none, c)
  | fuel + 1, c => do
    if ← c.atMarker then return (none, c)
    let c ← c.pass (· == ' ')
    match ← c.peek with
    | none => return (some [], c)
    | some ch =>
      if isBreak ch then
        let (more, d) ← readPlainBreaks fuel (← c.move 1)
        return (more.map (breakChar ch :: ·), d)
      else return (some [], c)

def readPlainGap (c : Cursor) : Except Fault PlainGap := do
  let (blanks, c) ← c.span (· == ' ')
  match ← c.peek with
  | none => return ⟨blanks, false, c⟩
  | some ch =>
    if isBreak ch then
      let d ← c.move 1
      let (more, d) ← readPlainBreaks d.left.succ d
      return ⟨(more.map (joinBreaks (breakChar ch))).getD [], true, d⟩
    else return ⟨blanks, false, c⟩

/--
A plain scalar, the position after it and its gap, and whether a line ends in that gap. Inside a block
its later lines stand at the margin or to the right of it.
-/
def readPlainWithin (inFlow : Bool) (margin : Nat) : Nat → Cursor → Except Fault (Text × Bool × Cursor)
  | 0, c => .ok ([], false, c)
  | fuel + 1, c => do
    let (word, d) ← readWord inFlow c.left.succ c
    if word.isEmpty then return ([], false, c)
    let gap ← readPlainGap d
    if gap.text.isEmpty || (← gap.after.nextIs (· == '#')) ||
        (!inFlow && decide (gap.after.column < margin)) then
      return (word, gap.later, gap.after)
    else
      let (more, later, e) ← readPlainWithin inFlow margin fuel gap.after
      if more.isEmpty then return (word, gap.later, gap.after)
      else return (word ++ gap.text ++ more, later, e)

/-- A plain scalar, whether a line ends after it, and the position of what follows. -/
def readPlain (inFlow : Bool) (margin : Nat) (c : Cursor) :
    Except Fault (Wording × Bool × Cursor) :=
  (readPlainWithin inFlow margin c.left.succ c).map fun r => (.text r.1, r.2)

end Redline.Data.Yaml
