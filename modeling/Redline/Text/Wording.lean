import Redline.Text.Quoted

set_option autoImplicit false
set_option relaxedAutoImplicit false

/-!
Wordings: what escapes by number can spell. A wording is a text, unless one half of a pair of units
stands in it without the other; such a wording has a quoted form but no bytes.
-/

namespace Redline

namespace Text

/-- Whether a number is that of half a pair of units and of no character. -/
def isHalf (n : Nat) : Bool := decide (0xD800 ≤ n) && decide (n < 0xE000)

def quoteUnit (mark : Char) (n : Nat) : Text :=
  if isHalf n then '\\' :: 'u' :: hex 4 n else quoteChar mark (Char.ofNat n)

def quotedUnits (ns : List Nat) : Text :=
  let mark := if ns.elem '\''.toNat && !ns.elem '"'.toNat then '"' else '\''
  mark :: (ns.flatMap (quoteUnit mark) ++ [mark])

end Text

/-- A text, or units of which some are halves that stand alone. -/
inductive Wording where
  | text (t : Text)
  | broken (units : List Nat)
  deriving Repr, DecidableEq, Inhabited

namespace Wording

instance : Coe Text Wording := ⟨.text⟩

def ofUnits (ns : List Nat) : Wording :=
  if ns.any Text.isHalf then .broken ns else .text (ns.map Char.ofNat)

end Wording

end Redline
