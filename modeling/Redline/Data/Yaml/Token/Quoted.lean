import Redline.Data.Yaml.Cursor
import Redline.Number.Based
import Redline.Text.Wording

set_option autoImplicit false
set_option relaxedAutoImplicit false

/-!
Quoted scalars. Inside quotes lines are joined: one line feed becomes a blank, and of several the first
is dropped. Between double quotes a backslash escapes characters, also by number.
-/

namespace Redline.Data.Yaml

def joinBreaks (first : Char) (more : Text) : Text :=
  if first != '\n' then first :: more else if more.isEmpty then [' '] else more

def unitsOf (t : Text) : List Nat := t.map Char.toNat

/-- The characters for which a letter stands after a backslash. -/
def escapes : List (Char × Nat) := [
  ('0', 0), ('a', 7), ('b', 8), ('t', 9), ('\t', 9), ('n', 10), ('v', 11), ('f', 12), ('r', 13),
  ('e', 27), (' ', 32), ('"', 34), ('/', 47), ('\\', 92), ('N', 0x85), ('_', 0xA0), ('L', 0x2028),
  ('P', 0x2029)]

/-- How many hexadecimal digits follow a letter after a backslash. -/
def escapeWidths : List (Char × Nat) := [('x', 2), ('u', 4), ('U', 8)]

/-- The number that the next hexadecimal digits write, from a place on and after a number so far. -/
def hexAt (c : Cursor) (place n : Nat) : Nat → Except Fault Nat
  | 0 => .ok n
  | width + 1 => do
    match (← c.peekAt place).bind (Number.baseDigit? 16) with
    | some d => hexAt c (place + 1) (n * 16 + d) width
    | none => throw .malformed

def unitOf (n : Nat) : Except Fault Nat :=
  if n < 0x110000 then .ok n
  else if n < 0x80000000 then .error .noCharacter
  else .error .greatCharacter

/--
The line breaks from the start of a line up to the next character inside quotes, and its position.
Blanks are passed over; a document marker may not begin a line.
-/
def readBreaks : Nat → Cursor → Except Fault (Text × Cursor)
  | 0, c => .ok ([], c)
  | fuel + 1, c => do
    if ← c.atMarker then throw .malformed
    let c ← c.pass isBlank
    match ← c.peek with
    | none => return ([], c)
    | some ch =>
      if isBreak ch then
        let (more, d) ← readBreaks fuel (← c.move 1)
        return (breakChar ch :: more, d)
      else return ([], c)

/-- What a backslash and what follows it stand for, and the position after them. -/
def readEscape (c : Cursor) : Except Fault (List Nat × Cursor) := do
  match ← c.peek with
  | none => throw .malformed
  | some e =>
    match escapes.lookup e, escapeWidths.lookup e with
    | some n, _ => return ([n], ← c.move 1)
    | none, some width =>
      let d ← c.move 1
      let n ← unitOf (← hexAt d 0 0 width)
      return ([n], ← d.move width)
    | none, none =>
      if !isBreak e then throw .malformed
      let d ← c.move 1
      let (breaks, d) ← readBreaks d.left.succ d
      return (unitsOf breaks, d)

/-- What a gap inside quotes stands for, and the position after it. -/
def readQuotedGap (c : Cursor) : Except Fault (Text × Cursor) := do
  let (blanks, c) ← c.span isBlank
  match ← c.peek with
  | none => throw .malformed
  | some ch =>
    if isBreak ch then
      let d ← c.move 1
      let (more, d) ← readBreaks d.left.succ d
      return (joinBreaks (breakChar ch) more, d)
    else return (blanks, c)

/-- What is read of a scalar between double quotes, up to its end, and the position after that. -/
def readDoubleWithin : Nat → Cursor → Except Fault (List Nat × Cursor)
  | 0, _ => .error .malformed
  | fuel + 1, c => do
    match ← c.peek with
    | none => throw .malformed
    | some ch =>
      if ch == '"' then return ([], ← c.move 1)
      let (read, d) ←
        if ch == '\\' then readEscape (← c.move 1)
        else if isGap ch then (readQuotedGap c).map fun r => (unitsOf r.1, r.2)
        else (c.move 1).map ([ch.toNat], ·)
      let (more, d) ← readDoubleWithin fuel d
      return (read ++ more, d)

/-- What is read of a scalar between single quotes, up to its end, and the position after that. -/
def readSingleWithin : Nat → Cursor → Except Fault (Text × Cursor)
  | 0, _ => .error .malformed
  | fuel + 1, c => do
    match ← c.peek with
    | none => throw .malformed
    | some ch =>
      if ch == '\'' && (← c.peekAt 1) != some '\'' then return ([], ← c.move 1)
      let (read, d) ←
        if ch == '\'' then (c.move 2).map (([ch] : Text), ·)
        else if isGap ch then readQuotedGap c
        else (c.move 1).map (([ch] : Text), ·)
      let (more, d) ← readSingleWithin fuel d
      return (read ++ more, d)

/-- A scalar between double quotes, after the first of them, and the position after it. -/
def readDouble (c : Cursor) : Except Fault (Wording × Cursor) :=
  (readDoubleWithin c.left.succ c).map fun r => (.ofUnits r.1, r.2)

/-- A scalar between single quotes, after the first of them, and the position after it. -/
def readSingle (c : Cursor) : Except Fault (Wording × Cursor) :=
  (readSingleWithin c.left.succ c).map fun r => (.text r.1, r.2)

end Redline.Data.Yaml
