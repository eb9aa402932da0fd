import Redline.Omission.Rules
import Redline.Text.Quoted
import Redline.Number.Decimal
import Redline.Log

set_option autoImplicit false
set_option relaxedAutoImplicit false

/-!
The omission scan. Three passes go over the candidate's lines: comments with a telling phrase,
ellipses, and suspicious marks. Comments that the old text already has are passed over, and an
old text with an ellipsis of its own switches the second pass off. The verdict is advisory.
-/

namespace Redline.Omission

/-- A line that caught a pass's attention, with the keyword that did it. -/
structure Finding where
  line : Line
  keyword : Text
  /-- Counted from one in the candidate. -/
  lineNumber : Nat
  deriving Repr, DecidableEq

/-- The findings of the three passes. -/
structure Report where
  findings : List Finding
  deriving Repr, DecidableEq

def Report.hasOmission (r : Report) : Bool := !r.findings.isEmpty

def pass (keyword? : Line → Option Text) (lineNumber : Nat) : List Line → List Finding
  | [] => []
  | l :: ls =>
    match keyword? l with
    | some k => ⟨l, k, lineNumber⟩ :: pass keyword? (lineNumber + 1) ls
    | none => pass keyword? (lineNumber + 1) ls

def isComment (comments : List Pattern) (l : Line) : Bool := comments.any fun p => beginsWith p l

/-- A line without regard to case and surrounding blanks. -/
def normalized (l : Line) : Text := Text.trim (Text.lower l)

def commentKeyword? (rules : Rules) (known : List Text) (l : Line) : Option Text :=
  if isComment rules.comments l && !known.elem (normalized l) then
    rules.phrases.find? fun p => Text.includes (Text.lower p) (normalized l)
  else none

def ellipsis : Text := "..."

def suspiciousKeyword : Text := "suspicious pattern"

def ellipsisKeyword? (l : Line) : Option Text :=
  if Text.includes ellipsis l then some ellipsis else none

def suspiciousKeyword? (rules : Rules) (l : Line) : Option Text :=
  if rules.suspicious.any fun p => occursIn p l then some suspiciousKeyword else none

/-- Comments that speak of omitted code and that the old text does not have. -/
def commentPass (rules : Rules) (old candidate : List Line) : List Finding :=
  pass (commentKeyword? rules (old.map normalized)) 1 candidate

/-- Lines with an ellipsis, unless the old text has one somewhere. -/
def ellipsisPass (old candidate : List Line) : List Finding :=
  if old.any fun l => Text.includes ellipsis l then [] else pass ellipsisKeyword? 1 candidate

def suspiciousPass (rules : Rules) (candidate : List Line) : List Finding :=
  pass (suspiciousKeyword? rules) 1 candidate

/-- Scans a candidate for signs of omitted code that the old text does not show. -/
def detect (rules : Rules) (old candidate : Text) : Report :=
  { findings := commentPass rules old.lines candidate.lines ++
      ellipsisPass old.lines candidate.lines ++ suspiciousPass rules candidate.lines }

def Report.notes (r : Report) : List Log.Record :=
  match r.findings with
  | [] => []
  | f :: fs =>
    [⟨.debug, .omissions, "[Omission] " ++ Number.showNat (fs.length + 1) ++
      " finding(s), first at line " ++ Number.showNat f.lineNumber ++ " (" ++
      Text.quoted f.keyword ++ ")"⟩]

def showFinding (number : Int) (keyword : Text) (line : Line) : Text :=
  "    line " ++ Text.padLeft 4 (Number.showInt number) ++ "  [" ++ keyword ++ "]  " ++
    Text.trim line ++ "\n"

def showFindings (path : Text) (findings : List (Int × Text × Line)) : Text :=
  "  Possible omissions in " ++ path ++ ":\n" ++
    (findings.map fun f => showFinding f.1 f.2.1 f.2.2).flatten

def Report.show (r : Report) (path : Text) : Text :=
  showFindings path (r.findings.map fun f => ((f.lineNumber : Int), f.keyword, f.line))

end Redline.Omission
