import Redline.Data.Yaml.Cursor
import Redline.Data.Yaml.Token
import Redline.Number.Based

set_option autoImplicit false
set_option relaxedAutoImplicit false

/-!
Labels: the names of anchors and aliases, tags and directives. What may follow a label differs from
kind to kind.
-/

namespace Redline.Data.Yaml

open Text.Utf8 (Bytes)

def isNameChar (c : Char) : Bool := c.isAlphanum || c == '-' || c == '_'

def readName (c : Cursor) : Except Fault (Text × Cursor) := do
  let (name, c) ← c.span isNameChar
  if name.isEmpty then throw .malformed
  return (name, c)

def anchorEnds : Text := "?:,]\x7d%@\x60"

/-- The name of an anchor or alias, after its mark, and the position after it. -/
def readAnchor (c : Cursor) : Except Fault (Text × Cursor) := do
  let (name, c) ← readName c
  let next ← c.peek
  if endsWord next || next.any anchorEnds.elem then return (name, c) else throw .malformed

def tagMarks : Text := "-;/?:@&=+$,_.!~*'()[]"

def isTagChar (c : Char) : Bool := c.isAlphanum || tagMarks.elem c

/-- The byte that two digits after a percent sign write, and the position after them. -/
def readByte (c : Cursor) : Except Fault (UInt8 × Cursor) := do
  let some high := (← c.peek).bind (Number.baseDigit? 16) | throw .malformed
  let some low := (← c.peekAt 1).bind (Number.baseDigit? 16) | throw .malformed
  return (UInt8.ofNat (high * 16 + low), ← c.move 2)

/-- The bytes that percent signs introduce, and the position after them; the fuel bounds their number. -/
def readBytes : Nat → Cursor → Except Fault (Bytes × Cursor)
  | 0, c => .ok ([], c)
  | fuel + 1, c => do
    if ← c.nextIs (· == '%') then
      let (b, c) ← readByte (← c.move 1)
      let (bs, c) ← readBytes fuel c
      return (b :: bs, c)
    else return ([], c)

/-- The text of a tag and the position after it; the fuel bounds how often bytes are given in it. -/
def readTagTextWithin : Nat → Cursor → Except Fault (Text × Cursor)
  | 0, c => .ok ([], c)
  | fuel + 1, c => do
    let (t, c) ← c.span isTagChar
    let (bs, c) ← readBytes c.left c
    if bs.isEmpty then return (t, c)
    match Text.Utf8.decode bs with
    | .error _ => throw .malformed
    | .ok u =>
      let (v, c) ← readTagTextWithin fuel c
      return (t ++ u ++ v, c)

def readTagText (c : Cursor) : Except Fault (Text × Cursor) := do
  let (t, c) ← readTagTextWithin (c.left + 1) c
  if t.isEmpty then throw .malformed
  return (t, c)

/-- The handle of a tag from its first mark on, and the position after it. -/
def readHandle (c : Cursor) : Except Fault (Text × Cursor) := do
  if !(← c.nextIs (· == '!')) then throw .malformed
  let c ← c.move 1
  if ← c.nextIs (· == ' ') then return (['!'], c)
  let (name, c) ← c.span isNameChar
  if !(← c.nextIs (· == '!')) then throw .malformed
  return ('!' :: name ++ ['!'], ← c.move 1)

/-- Whether another mark stands in the word after a tag's first mark. -/
def hasHandle (c : Cursor) : Except Fault Bool := do
  let c ← c.pass fun ch => !(ch == ' ' || isBreak ch || ch == '!')
  c.nextIs (· == '!')

/-- The handle and the text of a tag from its first mark on, and the position after them. -/
def readTagParts (c : Cursor) : Except Fault (Option Text × Text × Cursor) := do
  let next ← c.peekAt 1
  if next = some '<' then
    let (t, c) ← readTagText (← c.move 2)
    if !(← c.nextIs (· == '>')) then throw .malformed
    return (none, t, ← c.move 1)
  else if endsWord next then return (none, ['!'], ← c.move 1)
  else if ← hasHandle (← c.move 1) then
    let (handle, c) ← readHandle c
    let (t, c) ← readTagText c
    return (some handle, t, c)
  else
    let (t, c) ← readTagText (← c.move 1)
    return (some ['!'], t, c)

def readTag (c : Cursor) : Except Fault (Token × Cursor) := do
  let (handle, t, c) ← readTagParts c
  if endsLabel (← c.peek) then return (.tag handle t, c) else throw .malformed

def readVersionNumber (c : Cursor) : Except Fault (Nat × Cursor) := do
  let (ds, d) ← c.span Number.isAsciiDigit
  if ds.isEmpty then throw .malformed
  match Number.ofDigits ds with
  | .ok n => return (n, d)
  | .error e => throw (.numeral e)

def readVersion (c : Cursor) : Except Fault (Directive × Cursor) := do
  let (major, c) ← readVersionNumber (← c.pass (· == ' '))
  if !(← c.nextIs (· == '.')) then throw .malformed
  let (_, c) ← readVersionNumber (← c.move 1)
  if endsLabel (← c.peek) then return (.version major, c) else throw .malformed

def readHandleDirective (c : Cursor) : Except Fault (Directive × Cursor) := do
  let (name, c) ← readHandle (← c.pass (· == ' '))
  if !(← c.nextIs (· == ' ')) then throw .malformed
  let (start, c) ← readTagText (← c.pass (· == ' '))
  if endsLabel (← c.peek) then return (.handle name start, c) else throw .malformed

/-- A directive, after its mark, and the position after its line. -/
def readDirective (c : Cursor) : Except Fault (Directive × Cursor) := do
  let (name, c) ← readName c
  if !endsLabel (← c.peek) then throw .malformed
  let (d, c) ←
    if name = ("YAML" : Text) then readVersion c
    else if name = ("TAG" : Text) then readHandleDirective c
    else (c.pass fun ch => !isBreak ch).map (Directive.other, ·)
  return (d, ← c.passLine)

end Redline.Data.Yaml
