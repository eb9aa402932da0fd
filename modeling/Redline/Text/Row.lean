import Redline.Text.Basic

set_option autoImplicit false
set_option relaxedAutoImplicit false

/-!
Rows: the lines of a text as a screen shows them. A row ends at any of the characters that break
a line, and a carriage return followed by a line feed counts as one break.
-/

namespace Redline.Text

def isRowBreak (c : Char) : Bool :=
  inRanges [(0x0A, 0x0D), (0x1C, 0x1E), (0x85, 0x85), (0x2028, 0x2029)] c.toNat

/-- The rows of a text, each with the break that ends it; joined they give the text again. -/
def rowsWithBreaks : Text → List Text
  | [] => []
  | '\r' :: '\n' :: t => ['\r', '\n'] :: rowsWithBreaks t
  | c :: t =>
    if isRowBreak c then [c] :: rowsWithBreaks t
    else match rowsWithBreaks t with
      | [] => [[c]]
      | r :: rs => (c :: r) :: rs

def rows (t : Text) : List Text :=
  (rowsWithBreaks t).map fun r => r.filter fun c => !isRowBreak c

end Redline.Text
