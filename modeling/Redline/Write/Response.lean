import Redline.Omission.Scan
import Redline.Review.Decision
import Redline.Write.Failure

set_option autoImplicit false
set_option relaxedAutoImplicit false

/-!
Write requests and the answers to them. The wording of an answer follows from what became of the
request: saved as proposed, saved with the user's edits, turned down, or failed.
-/

namespace Redline.Write

/-- A request: a diff for a file that exists, or the full content of a new one. -/
structure Request where
  path : Text
  content : Option Text
  diff : Option Text
  deriving Repr, DecidableEq

/-- The name of the way in which a request gives its text. -/
def Request.mode (r : Request) : Text := if r.diff.isSome then "udiff" else "content"

/-- What became of a request. -/
inductive Status where
  | success
  | rejected
  | feedback
  | failure
  deriving Repr, DecidableEq

def Status.name : Status → Text
  | .success => "success"
  | .rejected => "rejected"
  | .feedback => "feedback"
  | .failure => "error"

/-- The answer to a request. -/
structure Response where
  status : Status
  message : Text
  /-- The omission scan of what was saved as proposed. -/
  omission : Option Omission.Report
  /-- What keeps the saved text from parsing. -/
  syntaxFault : Option Text
  deriving Repr, DecidableEq

def Response.hasOmission (r : Response) : Bool := (r.omission.map (·.hasOmission)).getD false

/-- What a save has put into the file, and the edits that the user made to it. -/
structure Saved where
  content : Text
  userEdits : Option Text
  deriving Repr, DecidableEq

/-- What the surface of a preview reports in the stead of the plain save. -/
structure Edits where
  content : Option Text
  userEdits : Option Text
  deriving Repr, DecidableEq

def Edits.none : Edits := ⟨.none, .none⟩

def Edits.amend (e : Edits) (s : Saved) : Saved :=
  ⟨e.content.getD s.content, e.userEdits.or s.userEdits⟩

def forwardSlashes (path : Text) : Text := path.map fun c => if c == '\\' then '/' else c

/-- What is said after a save that looks truncated. -/
def omissionAdvice : Text :=
  "but it appears that some code may have been omitted. In case you didn't " ++
  "write the entire content and included some placeholders or omitted " ++
  "critical parts, please try again with the full output of the code " ++
  "without any omissions / truncations; anything similar to \"remain\", " ++
  "\"remains\", \"unchanged\", \"rest\", \"previous\", \"existing\", \"...\" " ++
  "should be avoided.\nYou don't need to read the file again as the content " ++
  "has been updated to your previous tool request content."

/-- The answer to a request that was saved with the user's edits. -/
def editedResponse (path edits : Text) : Response :=
  { status := .success
    message := "The user made the following updates to your content:\n\n" ++ edits ++
      "\n\nThe updated content has been successfully saved to " ++ forwardSlashes path ++
      ". (Note: you don't need to re-write the file with these changes.)"
    omission := none, syntaxFault := none }

def syntaxNote : Option Text → Text
  | some fault => "\nNote: the saved file may not parse (" ++ fault ++ ")."
  | none => []

def savedResponse (path : Text) (report : Omission.Report) (fault : Option Text) : Response :=
  { status := .success
    message := "The content was successfully saved to " ++ forwardSlashes path ++
      (if report.hasOmission then ", " ++ omissionAdvice
        else ". Do not read the file again unless you forgot the content.") ++
      syntaxNote fault
    omission := some report, syntaxFault := fault }

def plainDenial : Text := "The user denied this operation."

def feedbackText : Option Text → Text
  | some (c :: t) => c :: t
  | _ => plainDenial

/-- The answer to a request that was turned down with feedback. -/
def feedbackResponse (text : Option Text) : Response :=
  ⟨.feedback, feedbackText text, none, none⟩

/-- The answer to a request that was turned down. -/
def rejectedResponse : Response :=
  ⟨.rejected, "Write operation cancelled by user.", none, none⟩

def failedResponse (e : Failure) : Response :=
  ⟨.failure, "Write to File Error With:" ++ e.message, none, none⟩

end Redline.Write
