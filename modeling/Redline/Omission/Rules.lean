import Redline.Omission.Pattern
import Redline.Text.Lower

set_option autoImplicit false
set_option relaxedAutoImplicit false

/-!
The vocabulary of the omission scan: how comments begin, which phrases in a comment suggest that
code was left out, and which marks are suspicious anywhere.
-/

namespace Redline.Omission

/-- The tables that drive the scan. -/
structure Rules where
  comments : List Pattern
  phrases : List Text
  suspicious : List Pattern
  deriving Repr, DecidableEq

def commentMark (w : Text) : Pattern := [.blanks, .word w]

def defaultComments : List Pattern := [
  commentMark "//", commentMark "#", commentMark "/*", commentMark "*", commentMark "*/",
  [.blanks, .word "\x7b", .blanks, .word "/*"],
  commentMark "<!--", commentMark "--", commentMark ";", commentMark "%", commentMark "///"]

def defaultPhrases : List Text := [
  "remain", "remains", "unchanged", "rest", "previous", "existing", "...",
  "placeholder implementation", "previous implementation", "rest of", "same as before",
  "as above", "similar to", "etc", "and so on"]

def defaultSuspicious : List Pattern := [
  [.word "/*", .blanks, .word "...", .blanks, .word "*/"],
  [.word "//", .blanks, .word "..."],
  [.word "#", .blanks, .word "..."],
  [.word "<!--", .blanks, .word "...", .blanks, .word "-->"],
  [.word "(", .blanks, .word "...", .blanks, .word ")"]]

/-- The rules that hold unless others are given. -/
def defaultRules : Rules := ⟨defaultComments, defaultPhrases, defaultSuspicious⟩

/-- The form in which a phrase is added to a list: trimmed and in lower case; blank ones are not. -/
def addable? (known : List Text) (phrase : Text) : Option Text :=
  let p := Text.trim phrase
  if p.isEmpty || known.elem (Text.lower p) then none else some (Text.lower p)

def Rules.extended (r : Rules) (extra : List Text) : Rules :=
  { r with phrases := r.phrases ++ extra.filterMap (addable? r.phrases) }

end Redline.Omission
