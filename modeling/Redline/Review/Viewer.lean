import Redline.Review.Console

set_option autoImplicit false
set_option relaxedAutoImplicit false

/-!
The full-screen viewer: what it shows, and what it makes of the approver's events. A rejection stands
until an event puts another decision in its place and asks to exit. How events come to the viewer is up
to the loop of the toolkit.
-/

namespace Redline.Review

/-- The parts of the screen that show something. -/
inductive Widget where
  | label (name : Option Text) (text : Text)
  | input (name placeholder : Text)
  | button (name text : Text)
  | footer
  deriving Repr, DecidableEq

inductive Event where
  /-- A button is pressed. -/
  | press (button : Text)
  /-- A line of feedback is entered. -/
  | submit (text : Text)
  | key (name : Text)
  deriving Repr, DecidableEq

/-- The middle of the screen: the size of a new file, or the change. -/
def viewerContent (c : Change) : Text :=
  if c.isNew then
    "  [green]+ " ++ c.path ++ "[/green]  (" ++ Number.showNat c.rowCount ++ " lines)"
  else match c.diff with
    | some d => markupDiff d
    | none => "  (no changes)"

def screen (c : Change) : List Widget := [
  .label (some "title-bar")
    (" ━━  " ++ (if c.isNew then "New file" else "Diff Review" : String).toList ++ " — " ++
      c.path ++ "  ━━ "),
  .label none (viewerContent c),
  .input "feedback" "Type feedback and press Enter to reject with a message",
  .button "approve-btn" "✔ Approve",
  .button "reject-btn" "✕ Reject",
  .footer]

structure Viewer where
  decision : Decision
  /-- Whether it has asked to exit. -/
  exiting : Bool
  deriving Repr, DecidableEq

namespace Viewer

def start : Viewer := ⟨.reject, false⟩

/-- Puts a decision in the place of the one before and asks to exit. -/
def settle (v : Viewer) (d : Decision) : Viewer := { v with decision := d, exiting := true }

def press (v : Viewer) (button : Text) : Viewer :=
  if button = ("approve-btn" : Text) then v.settle .approve
  else if button = ("reject-btn" : Text) then v.settle .reject
  else v

/-- What a line of feedback does; a blank one does nothing. -/
def submit (v : Viewer) (text : Text) : Viewer :=
  if (Text.trim text).isEmpty then v else v.settle (.feedback (some (Text.trim text)))

def bindings : List (Text × Decision) := [("ctrl+s", .approve), ("escape", .reject)]

def key (v : Viewer) (name : Text) : Viewer :=
  match bindings.lookup name with
  | some d => v.settle d
  | none => v

def handle (v : Viewer) : Event → Viewer
  | .press button => v.press button
  | .submit text => v.submit text
  | .key name => v.key name

end Viewer

/-- A loop of events: the viewer that it leaves when these events come. -/
abbrev Loop := Viewer → List Event → Viewer

def Loop.decision (loop : Loop) (events : List Event) : Decision := (loop .start events).decision

end Redline.Review
