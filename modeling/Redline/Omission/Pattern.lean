import Redline.Text.Basic

set_option autoImplicit false
set_option relaxedAutoImplicit false

/-!
Patterns of marks: fixed words with stretches of blanks between them. No word begins with a blank,
so a stretch of blanks is always taken whole.
-/

namespace Redline.Omission

inductive Piece where
  /-- Any number of blanks, also none. -/
  | blanks
  | word (w : Text)
  deriving Repr, DecidableEq

abbrev Pattern := List Piece

def beginsWith : Pattern → Text → Bool
  | [], _ => true
  | .blanks :: ps, t => beginsWith ps (t.dropWhile Text.isBlank)
  | .word w :: ps, t => w.isPrefixOf t && beginsWith ps (t.drop w.length)

def occursIn (p : Pattern) : Text → Bool
  | [] => beginsWith p []
  | c :: t => beginsWith p (c :: t) || occursIn p t

end Redline.Omission
