import Redline.Proofs.Write.Accounting
import Redline.Proofs.Write.Agreement
import Redline.Proofs.Write.Streaming

set_option autoImplicit false
set_option relaxedAutoImplicit false

/-!
Advice and the write log do not interfere. Two writers that differ in their rules for omissions, in
whether and how they check syntax, and in whether they keep a write log, take the same steps to the same
ends: the same questions, the same preview, the same disk outside of the folder of the log, and answers
that differ only in what is said after a save.
-/

namespace Redline.Write

open Disk (Tree Place Shuns)
open Review (Decision)

/-- Whether two answers say the same, but for what is said after a save. -/
structure Response.SameButAdvice (x y : Response) : Prop where
  status : y.status = x.status
  message : x.status ≠ .success → y.message = x.message

private theorem Response.SameButAdvice.refl (x : Response) : x.SameButAdvice x := ⟨rfl, fun _ => rfl⟩

/--
Whether two writers differ only in the advice that they give and in whether they keep a write log, which
would be below a root at some place and which their store shuns.
-/
structure Writer.SameButAdvice (root : Text) (home : Place) (w v : Writer) : Prop where
  core : w.SameCore v
  apart : Shuns home Metrics.folderName w.store.root
  logs : w.LogsAt root
  logs' : v.LogsAt root

/-- Whether an approver decides and acts by the question and by what is the same in sessions that agree. -/
def Approver.IsBlind (root : Text) (home : Place) (a : Approver) : Prop :=
  ∀ q s t, Session.Agrees root home s t → EndAlike (· = ·) root home (a.decide q s) (a.decide q t)

/-- Whether the check of what is saved, if the approver of a request approves, comes to a verdict. -/
def Approver.SavesTold (w : Writer) (s : Session) (r : Request) (a : Approver) : Prop :=
  ∀ p t content, propose w s.disk r = .ok p →
    a.decide (r.question p) (s.consulting w r p) = (.ok .approve, t) →
    t.preview.pending = some content → w.Tells r.path (a.edits.content.getD content)

variable {root : Text} {home : Place} {w v : Writer} {s t : Session} {r : Request} {a : Approver}
  {p : Proposal}

/-! Approvers. -/

private theorem Approver.isBlind_scripted (apart : Shuns home Metrics.folderName w.store.root)
    {script : Question → List Action × Decision}
    (avoid : ∀ q, ∀ x ∈ (script q).1, x.AvoidsLog) (edits : Edits) :
    (Approver.scripted w script edits).IsBlind root home := by
  intro q s t agrees
  obtain ⟨result, session⟩ := performAll_alike apart agrees (avoid q)
  rw [decide_scripted, decide_scripted]
  refine ⟨?_, session⟩
  generalize (performAll w s (script q).1).1 = x, (performAll w t (script q).1).1 = y at result
  cases result with
  | error e => exact .error e
  | ok _ => exact .ok rfl

/-! From a request to its proposal. -/

private theorem propose_eq (same : w.SameButAdvice root home v) (agrees : s.Agrees root home t)
    (avoids : Avoids r.path) : propose v t.disk r = propose w s.disk r := by
  have shuns := Session.Agrees.shuns same.apart avoids
  have has := Store.has_eq shuns agrees.disk
  have read := Store.read_eq shuns agrees.disk
  unfold propose proposeChange
  rw [same.core.store, same.core.dedupe, has, read]

private theorem Session.Agrees.consulting (agrees : s.Agrees root home t) (avoids : Avoids r.path)
    (p : Proposal) : (s.consulting w r p).Agrees root home (t.consulting v r p) :=
  ((((agrees.finish true).noted _ _).showFinal avoids p.new).session).asking _

/-! From a decision to the answer. -/

private theorem answerSaved_alike (agrees : s.Agrees root home t) {path : Text} (p : Proposal)
    {saved : Saved}
    (tells : w.Tells path saved.content) (tells' : v.Tells path saved.content) :
    EndAlike Response.SameButAdvice root home (answerSaved w s path p saved)
      (answerSaved v t path p saved) := by
  obtain ⟨fault, checked⟩ := exists_syntaxFault tells
  obtain ⟨fault', checked'⟩ := exists_syntaxFault tells'
  unfold answerSaved
  split
  · exact ⟨.ok (.refl _), agrees⟩
  · simp only [checked, checked']
    exact ⟨.ok ⟨rfl, fun other => absurd rfl other⟩, agrees.noted _ _⟩

private theorem conclude_alike (same : w.SameButAdvice root home v) (agrees : s.Agrees root home t)
    {path : Text} (p : Proposal) {edits : Edits} {decision : Decision}
    (tells : ∀ content, decision = .approve → s.preview.pending = some content →
      w.Tells path (edits.content.getD content) ∧ v.Tells path (edits.content.getD content)) :
    EndAlike Response.SameButAdvice root home (conclude w s path p edits decision)
      (conclude v t path p edits decision) := by
  cases decision with
  | reject => exact ⟨.ok (.refl _), agrees.revertPreview.noted _ _⟩
  | feedback text => exact ⟨.ok (.refl _), agrees.revertPreview.noted _ _⟩
  | approve =>
    have saves := agrees.savePreview same.apart
    have shows (saved : Saved) (closed : Session) (save : s.savePreview w.store = (.ok saved, closed)) :
        s.preview.pending = some saved.content := by
      obtain ⟨openFor, opened⟩ := Session.savePreview_eq_ok save
      exact opened.pending
    simp only [conclude, same.core.store]
    generalize s.savePreview w.store = x, t.savePreview w.store = y at saves shows
    obtain ⟨result, s'⟩ := x
    obtain ⟨result', t'⟩ := y
    obtain ⟨result, closed⟩ := saves
    cases result with
    | error e => exact ⟨.error e, closed⟩
    | @ok saved _ eq =>
      obtain rfl := eq
      obtain ⟨here, there⟩ := tells saved.content rfl (shows saved s' rfl)
      exact answerSaved_alike closed p here there

private theorem process_alike (same : w.SameButAdvice root home v) (agrees : s.Agrees root home t)
    (avoids : Avoids r.path) (blind : a.IsBlind root home) (told : a.SavesTold w s r)
    (told' : a.SavesTold v t r) :
    EndAlike Response.SameButAdvice root home (process w { s with finishing := true } r a)
      (process v { t with finishing := true } r a) := by
  have proposals := propose_eq same agrees avoids
  rcases refused_or_proposed w s.disk r with ⟨e, refused⟩ | ⟨p, proposed⟩
  · have refused' : Refused v t.disk r e :=
      refused_iff.mpr (proposals.trans (refused_iff.mp refused))
    rw [process_of_refused refused, process_of_refused refused']
    exact ⟨.error e, (agrees.finish true).noted _ _⟩
  · rw [process_of_proposed proposed, process_of_proposed (proposals.trans proposed)]
    have decides := blind (r.question p) _ _ (agrees.consulting (w := w) (v := v) avoids p)
    have tells := fun u content => told p u content proposed
    have tells' := fun u content => told' p u content (proposals.trans proposed)
    generalize a.decide _ _ = x, a.decide _ (t.consulting v r p) = y at decides tells tells'
    obtain ⟨result, s'⟩ := x
    obtain ⟨result', t'⟩ := y
    obtain ⟨result, decided⟩ := decides
    cases result with
    | error e => exact ⟨.error e, decided⟩
    | @ok decision _ eq =>
      obtain rfl := eq
      refine conclude_alike same decided p fun content approves pending => ?_
      obtain rfl := approves
      exact ⟨tells s' content rfl pending, tells' t' content rfl (decided.preview ▸ pending)⟩

/-! The entry in the write log. -/

private theorem Session.Agrees.enter_left (agrees : s.Agrees root home t) (logs : w.LogsAt root)
    (r : Request) (answer : Response) (errorKind : Text) :
    (enter w s r answer errorKind).1 = .ok () ∧
      (enter w s r answer errorKind).2.Agrees root home t := by
  have roomy : w.HasLogRoom s.disk := fun own logged =>
    logs own logged ▸ agrees.leads.hasRoom Metrics.isName_folderName w.journalRoom
  refine ⟨enter_of_hasLogRoom logs agrees.leads.clean roomy r answer errorKind, ?_⟩
  unfold enter
  split
  · exact agrees
  · rename_i own logged
    obtain rfl := logs own logged
    have confined := Metrics.record_confined w.journalRoom agrees.leads w.today
      (journalEntry r answer errorKind)
    have grows := (Metrics.record_frame w.journalRoom s.disk own w.today
      (journalEntry r answer errorKind)).1
    have next := agrees.withDisk (confined.symm.trans agrees.disk) grows (.refl t.disk)
    split <;> rename_i recorded <;> rw [recorded] at next <;> exact { next with }

private theorem respond_alike (same : w.SameButAdvice root home v) (agrees : s.Agrees root home t)
    {answer answer' : Response} (alike : answer.SameButAdvice answer') (errorKind : Text) :
    EndAlike Response.SameButAdvice root home (respond w s r answer errorKind)
      (respond v t r answer' errorKind) := by
  obtain ⟨entered, left⟩ := agrees.enter_left same.logs r answer errorKind
  obtain ⟨entered', right⟩ := left.symm.enter_left same.logs' r answer' errorKind
  rw [respond_eq, respond_eq, entered, entered']
  exact ⟨.ok alike, right.symm.finish false⟩

private theorem wrapUp_alike (same : w.SameButAdvice root home v) {x y : After Response}
    (alike : EndAlike Response.SameButAdvice root home x y) :
    EndAlike Response.SameButAdvice root home (wrapUp w r x) (wrapUp v r y) := by
  obtain ⟨result, s⟩ := x
  obtain ⟨result', t⟩ := y
  obtain ⟨result, agrees⟩ := alike
  cases result with
  | ok answers => exact respond_alike same agrees answers []
  | error e =>
    simp only [wrapUp]
    split
    · exact respond_alike same (agrees.noted _ _).revertPreview (.refl _) e.kind
    · exact ⟨.error e, agrees.finish false⟩

private theorem execute_alike (same : w.SameButAdvice root home v) (agrees : s.Agrees root home t)
    (avoids : Avoids r.path) (blind : a.IsBlind root home) (told : a.SavesTold w s r)
    (told' : a.SavesTold v t r) :
    EndAlike Response.SameButAdvice root home (execute w s r a) (execute v t r a) := by
  rw [execute_eq_wrapUp, execute_eq_wrapUp]
  exact wrapUp_alike same (process_alike same agrees avoids blind told told')

/-! Runs. -/

private theorem Writer.SameButAdvice.atMoment (same : w.SameButAdvice root home v) (today : Moment) :
    (w.atMoment today).SameButAdvice root home (v.atMoment today) where
  core := ⟨same.core.store, same.core.dedupe, same.core.interval⟩
  apart := same.apart
  logs := same.logs
  logs' := same.logs'

/-- Whether a step avoids the write log and has, if it is a request, a blind approver. -/
def Step.AvoidsLog (root : Text) (home : Place) : Step → Prop
  | .act x => x.AvoidsLog
  | .request _ r a => Avoids r.path ∧ a.IsBlind root home

/-- Whether the check of what a step saves, if it is a request, comes to a verdict. -/
def Step.SavesTold (w : Writer) (s : Session) : Step → Prop
  | .act _ => True
  | .request today r a => a.SavesTold (w.atMoment today) s r

/-- Whether all checks of a run come to verdicts. -/
def Writer.TellsAll (w : Writer) : Session → List Step → Prop
  | _, [] => True
  | s, step :: steps => step.SavesTold w s ∧ w.TellsAll (step.next w s) steps

private theorem Step.next_agrees (same : w.SameButAdvice root home v) (agrees : s.Agrees root home t)
    {step : Step} (avoids : step.AvoidsLog root home) (told : step.SavesTold w s)
    (told' : step.SavesTold v t) : (step.next w s).Agrees root home (step.next v t) := by
  cases step with
  | act x => exact (x.perform_alike same.core same.apart agrees avoids).session
  | request today r a =>
    exact (execute_alike (same.atMoment today) agrees avoids.1 avoids.2 told told').session

private theorem Session.after_agrees (same : w.SameButAdvice root home v) (agrees : s.Agrees root home t)
    {steps : List Step} (avoid : ∀ step ∈ steps, step.AvoidsLog root home)
    (told : w.TellsAll s steps) (told' : v.TellsAll t steps) :
    (s.after w steps).Agrees root home (t.after v steps) := by
  induction steps generalizing s t with
  | nil => exact agrees
  | cons step steps ih =>
    obtain ⟨first, rest⟩ := List.forall_mem_cons.mp avoid
    rw [Session.after_cons, Session.after_cons]
    exact ih (step.next_agrees same agrees first told.1 told'.1) rest told.2 told'.2

/--
Two writers that differ in advice and write log only, with the log in a directory that is there, take the
same steps to sessions that agree, if their checks of syntax come to verdicts: with the same questions, the
same preview and the same disk but for the folder of the write log. A request that then comes ends alike
for both, in the same failure or in answers with the same status, and with the same message but after a
save.
-/
theorem advice_does_not_interfere (same : w.SameButAdvice root home v) {disk : Tree}
    (there : disk.LeadsTo root home) {steps : List Step}
    (avoid : ∀ step ∈ steps, step.AvoidsLog root home) (told : w.TellsAll (.start disk) steps)
    (told' : v.TellsAll (.start disk) steps) :
    let s := (Session.start disk).after w steps
    let t := (Session.start disk).after v steps
    s.Agrees root home t ∧ ∀ today r a, Avoids r.path → a.IsBlind root home →
      a.SavesTold (w.atMoment today) s r → a.SavesTold (v.atMoment today) t r →
      EndAlike Response.SameButAdvice root home (execute (w.atMoment today) s r a)
        (execute (v.atMoment today) t r a) := by
  intro s t
  have agrees : s.Agrees root home t := Session.after_agrees same (.start there) avoid told told'
  exact ⟨agrees, fun today r a avoids blind tells tells' =>
    execute_alike (same.atMoment today) agrees avoids blind tells tells'⟩

def faultyTree : Syntax.Tree := .node true false true 0 0 []

/-- A writer with other phrases and a check that finds fault with every text, who keeps a write log. -/
def advisingWriter : Writer := { plainWriter with
  rules := { Omission.defaultRules with phrases := ["draft"] }
  checkSyntax := true
  parsers := fun _ _ => faultyTree
  journalRoot := some "/" }

/-- Content is streamed for a file and then saved; a request for it without a diff comes next. -/
theorem advice_does_not_interfere_draft :
    let steps : List Step := [.act (.stream "a.py" "# dra"),
      .request plainWriter.today ⟨"a.py", some "# draft", none⟩ consent]
    let s := (Session.start ⟨[], []⟩).after plainWriter steps
    let t := (Session.start ⟨[], []⟩).after advisingWriter steps
    s.disk.node? [Metrics.folderName] = none ∧ t.disk.node? [Metrics.folderName] = some .directory ∧
      s.Agrees "/" [] t ∧ EndAlike Response.SameButAdvice "/" []
        (execute (plainWriter.atMoment plainWriter.today) s ⟨"a.py", some "#", none⟩ consent)
        (execute (advisingWriter.atMoment plainWriter.today) t ⟨"a.py", some "#", none⟩ consent) := by
  intro steps s t
  have apart : Shuns [] Metrics.folderName plainWriter.store.root :=
    ⟨rfl, [], [], rfl, List.nil_prefix, List.not_mem_nil⟩
  have same : plainWriter.SameButAdvice "/" [] advisingWriter := by
    refine ⟨⟨rfl, rfl, rfl⟩, apart, ?_, ?_⟩
    · rintro root ⟨⟩
    · rintro root ⟨⟩
      rfl
  have blind : consent.IsBlind "/" [] :=
    Approver.isBlind_scripted apart (fun q x mem => absurd mem List.not_mem_nil) Edits.none
  have avoid : ∀ step ∈ steps, step.AvoidsLog "/" [] := by
    intro step mem
    rcases List.mem_cons.mp mem with rfl | mem
    · show Avoids "a.py"
      decide
    · obtain rfl := List.mem_singleton.mp mem
      exact ⟨by decide, blind⟩
  have plain (path content : Text) : plainWriter.Tells path content := by
    rintro ⟨⟩
  have advising (path content : Text) : advisingWriter.Tells path content := by
    have fits : faultyTree.height ≤ 980 := by decide
    have short : ∀ n ∈ faultyTree.preorder, n.hasLongPoint = false := by decide +kernel
    exact fun _ _ _ => ⟨fits, short⟩
  obtain ⟨agrees, alike⟩ := advice_does_not_interfere same (.slash _) avoid
    ⟨trivial, fun _ _ _ _ _ _ => plain _ _, trivial⟩ ⟨trivial, fun _ _ _ _ _ _ => advising _ _, trivial⟩
  have next := alike plainWriter.today ⟨"a.py", some "#", none⟩ consent (by decide) blind
    (fun _ _ _ _ _ _ => plain _ _) (fun _ _ _ _ _ _ => advising _ _)
  exact ⟨rfl, by decide +kernel, agrees, next⟩

/-- A writer whose parser finds an error in a line with too long a number. -/
def distantWriter : Writer :=
  { writerAt [] with checkSyntax := true, parsers := fun _ _ => Syntax.farTree }

/-- A writer whose files are in the folder of its write log. -/
def nestedWriter : Writer := { writerAt [] with store := ⟨"/.udiff_writer", 980⟩ }

/-- The status of the answer to a request for a new file. -/
def statusOf (w : Writer) (s : Session) (path : Text) : Except Failure Status :=
  (execute w s ⟨path, some "x", none⟩ unattended).1.map Response.status

def refusedBy (w : Writer) : Session :=
  (execute w (.start ⟨[], []⟩) (nameless unattended).request unattended).2

def Writer.unlogged (w : Writer) : Writer := { w with journalRoot := none }

/--
Without a project, the write log makes one; an error that is too deep down, or too far off, keeps a save
from being answered with success; and files in the folder of the write log are not apart from it.
-/
theorem advice_interferes :
    ((refusedBy (writerAt ["gone"]).unlogged).disk.node? ["gone"] = none ∧
      (refusedBy (writerAt ["gone"])).disk.node? ["gone"] = some .directory) ∧
    (statusOf (writerAt []) (.start ⟨[], []⟩) "a.py" = .ok .success ∧
      statusOf delvingWriter (.start ⟨[], []⟩) "a.py" = .error (.syntaxCheck .tooDeep) ∧
      statusOf distantWriter (.start ⟨[], []⟩) "a.py" = .ok .failure) ∧
    statusOf nestedWriter.unlogged (refusedBy nestedWriter.unlogged) Metrics.fileName =
      .ok .success ∧
    statusOf nestedWriter (refusedBy nestedWriter) Metrics.fileName = .ok .failure :=
  ⟨by decide +kernel, by decide +kernel, by decide +kernel⟩

end Redline.Write
