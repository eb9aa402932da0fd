import Redline.Text.Casing

set_option autoImplicit false
set_option relaxedAutoImplicit false

/-!
Lower case of a whole text. Two letters need more than their table entry: the dotted capital I
keeps its dot as a mark of its own, and a capital sigma at the end of a word becomes the final
small sigma.
-/

namespace Redline.Text

/-- The small counterpart of a single character, or the character itself. -/
def lowerChar (c : Char) : Char :=
  let n := c.toNat
  if n < 0x80 then
    if decide (0x41 ≤ n) && decide (n ≤ 0x5A) then Char.ofNat (n + 32) else c
  else
    match capitalRuns.find? fun r =>
        decide (r.1 ≤ n) && decide (n ≤ r.2.1) && (n - r.1) % r.2.2.1 == 0 with
    | some r => Char.ofNat (Int.toNat (n + r.2.2.2))
    | none => c

/-- Whether the nearest character that case rules do not look through is a letter with case. -/
def meetsCased : Text → Bool
  | [] => false
  | c :: t =>
    if inRanges caseIgnorableRanges c.toNat then meetsCased t
    else inRanges casedRanges c.toNat

/-- Lower case of the text that follows `before`, which is kept in reverse. -/
def lowerAfter (before : Text) : Text → Text
  | [] => []
  | c :: t =>
    let small : Text :=
      if c == '\u03A3' then
        if meetsCased before && !meetsCased t then ['\u03C2'] else ['\u03C3']
      else if c == '\u0130' then ['i', '\u0307']
      else [lowerChar c]
    small ++ lowerAfter (c :: before) t

def lower (t : Text) : Text := lowerAfter [] t

end Redline.Text
