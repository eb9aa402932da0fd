import Redline.Text.Basic

set_option autoImplicit false
set_option relaxedAutoImplicit false

/-!
Decisions about a proposed change. Anything that is neither an approval nor feedback is a
rejection.
-/

namespace Redline.Review

inductive Decision where
  | approve
  | reject
  | feedback (text : Option Text)
  deriving Repr, DecidableEq

namespace Decision

def ofResponse (response : Text) (text : Option Text) : Decision :=
  if response = ("approve" : Text) then .approve
  else if response = ("feedback" : Text) then .feedback text
  else .reject

def response : Decision → Text
  | .approve => "approve"
  | .reject => "reject"
  | .feedback _ => "feedback"

def text? : Decision → Option Text
  | .feedback t => t
  | _ => none

end Decision

end Redline.Review
