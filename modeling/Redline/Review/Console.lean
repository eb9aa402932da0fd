import Redline.Review.Coloring
import Redline.Review.Decision
import Redline.Number.Decimal
import Redline.Text.Lower

set_option autoImplicit false
set_option relaxedAutoImplicit false

/-!
The review on a console: the change is printed, and the approver's lines are read until one is not
blank. Where the lines end, the change is rejected.
-/

namespace Redline.Review

structure Change where
  path : Text
  /-- The unified diff; nothing when the texts are equal. -/
  diff : Option Text
  /-- Whether there was no text before. -/
  isNew : Bool
  new : Text
  deriving Repr, DecidableEq

def Change.rowCount (c : Change) : Nat := c.new.rows.length

/-- The lines that a reader finds in its input: a final line feed ends the last one. -/
def inputLines (input : Text) : List Line :=
  let ls := input.lines
  if ls.getLast? = some [] then ls.dropLast else ls

def rule : Text := List.replicate 60 '='

def announcement (c : Change) : Text :=
  let content : Text :=
    if c.isNew then "\n  New file (" ++ Number.showNat c.rowCount ++ " lines)\n"
    else match c.diff with
      | some d => terminalDiff d ++ "\n"
      | none => "\n  (no changes)\n"
  "\n" ++ rule ++ "\n  DIFF REVIEW — " ++ c.path ++ "\n" ++ rule ++ "\n" ++ content ++
    "\n" ++ rule ++ "\n  [A]pprove  |  [R]eject  |  or type feedback\n\n"

/-- The decision in a line of input; a blank line holds none. -/
def lineDecision? (l : Line) : Option Decision :=
  let choice := Text.trim l
  let small := Text.lower choice
  if small = ("a" : Text) ∨ small = ("approve" : Text) then some .approve
  else if small = ("r" : Text) ∨ small = ("reject" : Text) then some .reject
  else if choice.isEmpty then none
  else some (.feedback (some choice))

def question : Text := "  Your choice: "

def retry : Text := "  Invalid choice. Use A, R, or type feedback.\n"

/-- An exchange with the approver: the decision, what was printed, and the lines left unread. -/
structure Exchange where
  decision : Decision
  printed : Text
  unread : List Line
  deriving Repr, DecidableEq

def ask : List Line → Exchange
  | [] => ⟨.reject, question, []⟩
  | l :: ls =>
    match lineDecision? l with
    | some d => ⟨d, question, ls⟩
    | none =>
      let e := ask ls
      { e with printed := question ++ retry ++ e.printed }

def consoleReview (c : Change) (input : List Line) : Exchange :=
  let e := ask input
  { e with printed := announcement c ++ e.printed }

end Redline.Review
