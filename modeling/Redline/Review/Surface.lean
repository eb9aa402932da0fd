import Redline.Diff.Unified
import Redline.Log
import Redline.Review.Viewer

set_option autoImplicit false
set_option relaxedAutoImplicit false

/-!
The surfaces on which a change is reviewed: the console, the full-screen viewer, and none at all,
where every change is approved and its diff goes to the log.
-/

namespace Redline.Review

/-- Where a change is reviewed. -/
inductive Surface where
  | console
  | viewer
  | unattended
  deriving Repr, DecidableEq

/-- The surface of a name; unknown names mean the console. -/
def Surface.ofName (name : Text) : Surface :=
  if name = ("auto" : Text) then .unattended
  else if name = ("textual" : Text) then .viewer
  else .console

/-- A finished review. -/
structure Outcome where
  decision : Decision
  printed : Text
  unread : List Line
  /-- The screen of the viewer, when it was used. -/
  screen : Option (List Widget)
  notes : List Log.Record
  deriving Repr, DecidableEq

def Change.between (path old new : Text) : Change :=
  ⟨path, Diff.unified? path old new, old.isEmpty, new⟩

/-- Reviews a change on a surface, with the approver's lines and events. -/
def review (loop : Loop) (surface : Surface) (path old new : Text) (input : List Line)
    (events : List Event) : Outcome :=
  let c := Change.between path old new
  match surface with
  | .unattended =>
    let notes : List Log.Record :=
      match c.diff with
      | some d => [⟨.info, .command, "[auto] Diff for " ++ path ++ ":\n" ++ d⟩]
      | none => []
    ⟨.approve, [], input, none, notes⟩
  | .viewer => ⟨loop.decision events, [], input, some (screen c), []⟩
  | .console =>
    let e := consoleReview c input
    ⟨e.decision, e.printed, e.unread, none, []⟩

end Redline.Review
