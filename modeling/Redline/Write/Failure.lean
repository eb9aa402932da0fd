import Redline.Diff.Report
import Redline.Syntax.Check

set_option autoImplicit false
set_option relaxedAutoImplicit false

/-!
Why a write fails. Most failures become the answer to the request; using a preview that has nothing
to show is a mistake in the use of the library and reaches the caller, and so does a lack of room for
calls in each other.
-/

namespace Redline.Write

/-- What kind of failure an approver raises. -/
inductive ApproverFault where
  | value
  | system
  | state
  | parse
  | patch
  deriving Repr, DecidableEq

/-- The name under which an approver's failure is counted. -/
def ApproverFault.name : ApproverFault → Text
  | .value => "ValueError"
  | .system => "OSError"
  | .state => "RuntimeError"
  | .parse => "parse"
  | .patch => "patch"

/-- Why a write, or a step of one, fails. -/
inductive Failure where
  | missingPath
  /-- A file that exists is changed by a diff only. -/
  | missingDiff
  /-- A new file is written from full content only. -/
  | missingContent
  | diff (e : Diff.ApplyError)
  | disk (e : Disk.Failure)
  /-- The file is not text. -/
  | encoding (f : Text.Utf8.Fault)
  | previewClosed
  | nothingToSave
  /-- The check of a saved text comes to no verdict. -/
  | syntaxCheck (f : Syntax.Fault)
  /-- The approver fails with words of its own. -/
  | approver (fault : ApproverFault) (text : Text)
  deriving Repr, DecidableEq

namespace Failure

def message : Failure → Text
  | .missingPath => "Missing required parameter 'path'"
  | .missingDiff => "File exists, but 'udiff' parameter is missing"
  | .missingContent => "File does not exist, but 'content' parameter is missing"
  | .diff e => e.message
  | .disk e => e.message
  | .encoding f => f.message
  | .previewClosed => "Preview is not open"
  | .nothingToSave => "Nothing to save"
  | .syntaxCheck f => f.message
  | .approver _ text => text

def kind : Failure → Text
  | .missingPath => "ValueError"
  | .missingDiff => "ValueError"
  | .missingContent => "ValueError"
  | .diff e => e.kind
  | .disk e => e.kind
  | .encoding _ => "UnicodeDecodeError"
  | .previewClosed => "RuntimeError"
  | .nothingToSave => "RuntimeError"
  | .syntaxCheck f => f.kind
  | .approver fault _ => fault.name

def isAnswered : Failure → Bool
  | .disk .tooDeep => false
  | .previewClosed => false
  | .nothingToSave => false
  | .syntaxCheck .tooDeep => false
  | .approver .state _ => false
  | _ => true

end Failure

end Redline.Write
