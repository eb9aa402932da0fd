import Redline.Review.Surface
import Redline.Write.Framing
import Redline.Write.Session

set_option autoImplicit false
set_option relaxedAutoImplicit false

/-!
Finishing a request. The new text is worked out and shown in the preview, the approver is asked, and
only an approval saves the preview. Every answer gets an entry in the write log; a failure that is
no answer goes to the caller and gets none.
-/

namespace Redline.Write

open Data (Value)
open Review (Decision)
open Session (requestNote)

/-- Who decides about changes. An approver may act on the session before deciding. -/
structure Approver where
  decide : Question → Session → After Decision
  /-- What the surface reports of the user's edits. -/
  edits : Edits

def Approver.scripted (w : Writer) (script : Question → List Action × Decision) (edits : Edits) :
    Approver where
  decide q s :=
    match performAll w s (script q).1 with
    | (.error e, s) => (.error e, s)
    | (.ok (), s) => (.ok (script q).2, s)
  edits := edits

def Question.review (q : Question) (loop : Review.Loop) (surface : Review.Surface)
    (input : List Line) (events : List Review.Event) : Review.Outcome :=
  Review.review loop surface q.path q.old q.new input events

def Approver.atSurface (loop : Review.Loop) (surface : Review.Surface) (input : List Line)
    (events : List Review.Event) : Approver where
  decide q s :=
    let outcome := q.review loop surface input events
    (.ok outcome.decision, s.noted outcome.notes)
  edits := Edits.none

structure Proposal where
  /-- The text of the file; empty for a new one. -/
  old : Text
  /-- The text that is shown and saved. -/
  new : Text
  /-- The text as the request means it, in which omissions are looked for. -/
  intended : Text
  deriving Repr, DecidableEq

def proposeChange (w : Writer) (disk : Disk.Tree) (r : Request) : Except Failure Proposal :=
  match r.diff with
  | none => .error .missingDiff
  | some diff =>
    match w.store.read disk r.path with
    | .error e => .error e
    | .ok old =>
      match Diff.apply w.dedupe old (.text diff) with
      | .error e => .error (.diff e)
      | .ok new => .ok ⟨old, new, new⟩

def proposeNew (r : Request) : Except Failure Proposal :=
  match r.content with
  | none => .error .missingContent
  | some content => .ok ⟨[], unframe content, content⟩

def propose (w : Writer) (disk : Disk.Tree) (r : Request) : Except Failure Proposal :=
  if r.path.isEmpty then .error .missingPath
  else if w.store.has disk r.path then proposeChange w disk r
  else proposeNew r

/-- The records that working out a proposal leaves: those of applying a diff. -/
def proposalNotes (w : Writer) (disk : Disk.Tree) (r : Request) : List Log.Record :=
  if r.path.isEmpty || !w.store.has disk r.path then []
  else
    match r.diff, w.store.read disk r.path with
    | some diff, .ok old => Diff.applyNotes w.dedupe old (.text diff)
    | _, _ => []

def showFinal (s : Session) (path content : Text) : After Unit :=
  (s.ensureOpen path).updatePreview content true

def syntaxFault (w : Writer) (path content : Text) : Except Syntax.Fault (Option Text) :=
  if w.checkSyntax then Syntax.check w.searchRoom w.parsers path content else .ok none

def assessmentNotes (w : Writer) (path content : Text) (report : Omission.Report) :
    List Log.Record :=
  report.notes ++
    (if w.checkSyntax then Syntax.checkNotes w.searchRoom w.parsers path content else []) ++
    (if report.hasOmission then
      [requestNote .warning ("Truncated content detected in " ++ path ++ " (" ++
        Number.showNat report.findings.length ++ " finding(s))")]
    else [])

def answerSaved (w : Writer) (s : Session) (path : Text) (p : Proposal) (saved : Saved) :
    After Response :=
  match saved.userEdits with
  | some (c :: edits) => (.ok (editedResponse path (c :: edits)), s)
  | _ =>
    let report := Omission.detect w.rules p.old p.intended
    match syntaxFault w path saved.content with
    | .error f => (.error (.syntaxCheck f), s.noted report.notes)
    | .ok fault =>
      (.ok (savedResponse path report fault),
        s.noted (assessmentNotes w path saved.content report))

def conclude (w : Writer) (s : Session) (path : Text) (p : Proposal) (edits : Edits) :
    Decision → After Response
  | .approve =>
    match s.savePreview w.store with
    | (.error e, s) => (.error e, s)
    | (.ok saved, s) => answerSaved w s path p (edits.amend saved)
  | .reject =>
    (.ok rejectedResponse,
      s.revertPreview.noted [requestNote .info ("Write to " ++ path ++ " rejected")])
  | .feedback text =>
    (.ok (feedbackResponse text),
      s.revertPreview.noted
        [requestNote .info ("User feedback for " ++ path ++ ": " ++ feedbackText text)])

/-- Shows a proposal, asks the approver and carries the decision out. -/
def review (w : Writer) (s : Session) (path : Text) (p : Proposal) (approver : Approver) :
    After Response :=
  match showFinal s path p.new with
  | (.error e, s) => (.error e, s)
  | (.ok (), s) =>
    let q : Question := ⟨path, p.old, p.new⟩
    match approver.decide q (s.asking q) with
    | (.error e, s) => (.error e, s)
    | (.ok decision, s) => conclude w s path p approver.edits decision

def process (w : Writer) (s : Session) (r : Request) (approver : Approver) : After Response :=
  let noted := s.noted (proposalNotes w s.disk r)
  match propose w s.disk r with
  | .error e => (.error e, noted)
  | .ok p => review w noted r.path p approver

def journalEntry (r : Request) (answer : Response) (errorKind : Text) : List (Text × Value) := [
  ("path", .text r.path), ("mode", .text r.mode), ("status", .text answer.status.name),
  ("has_omission", .bool answer.hasOmission),
  ("syntax_error", .bool answer.syntaxFault.isSome),
  ("error_kind", .text errorKind)]

def enter (w : Writer) (s : Session) (r : Request) (answer : Response) (errorKind : Text) :
    After Unit :=
  match w.journalRoot with
  | none => (.ok (), s)
  | some root =>
    match Metrics.record w.journalRoom s.disk root w.today (journalEntry r answer errorKind) with
    | (.error e, disk) => (.error (.disk e), { s with disk })
    | (.ok notes, disk) => (.ok (), { s with disk }.noted notes)

def respond (w : Writer) (s : Session) (r : Request) (answer : Response) (errorKind : Text) :
    After Response :=
  match enter w s r answer errorKind with
  | (.error e, s) => (.error e, { s with finishing := false })
  | (.ok (), s) => (.ok answer, { s with finishing := false })

def failureNote (r : Request) (e : Failure) : Log.Record :=
  requestNote .failure ("Write to " ++ r.path ++ " failed: " ++ e.message)

def givenUp (s : Session) (r : Request) (e : Failure) : Session :=
  (s.noted [failureNote r e]).revertPreview

def execute (w : Writer) (s : Session) (r : Request) (approver : Approver) : After Response :=
  match process w { s with finishing := true } r approver with
  | (.ok answer, s) => respond w s r answer []
  | (.error e, s) =>
    if e.isAnswered then respond w (givenUp s r e) r (failedResponse e) e.kind
    else (.error e, { s with finishing := false })

/-- The interval of a number of milliseconds in seconds, unless that is too great for a float. -/
def intervalOf? (milliseconds : Int) : Option Float :=
  let x := Number.floatOfDecimal (decide (milliseconds < 0)) milliseconds.natAbs 0
  if x.isInf then none else some (x / 1000)

end Redline.Write
