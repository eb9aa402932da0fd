import Redline.Proofs.Disk.Frame
import Redline.Proofs.Outcome
import Redline.Proofs.Write.Approval

set_option autoImplicit false
set_option relaxedAutoImplicit false

/-!
Runs of a session. A run is a list of steps: actions outside of requests, and requests with their
approvers, who may act on the session while they decide. A request takes one of two ways: it has no
proposal and is answered without a question to its approver, or its proposal is shown and the approver
is asked once.
-/

namespace Redline.Write

open Review (Decision)

/-- A writer at a moment, which the entries of the write log then bear. -/
def Writer.atMoment (w : Writer) (today : Moment) : Writer := { w with today }

/-- A step of a session: an action outside of requests, or a request. -/
inductive Step where
  | act (action : Action)
  /-- A request is finished at a moment by the decision of an approver. -/
  | request (today : Moment) (r : Request) (a : Approver)

/-- The session after a step. What a step fails with goes to its caller and ends no run. -/
def Step.next (w : Writer) (s : Session) : Step → Session
  | .act action => (action.perform w s).2
  | .request today r a => (execute (w.atMoment today) s r a).2

def Session.after (w : Writer) (s : Session) (steps : List Step) : Session :=
  steps.foldl (Step.next w) s

/-- Whether an action streams content, or lets time pass before it does. -/
def Action.streams : Action → Bool
  | .wait _ => true
  | .stream _ _ => true
  | _ => false

def Action.streamsOrAborts : Action → Bool
  | .abort => true
  | action => action.streams

/--
Whether an approver does only such things to a session while deciding. What is done may depend on the
question and on the session.
-/
def Approver.ActsWithin (w : Writer) (allowed : Action → Bool) (a : Approver) : Prop :=
  ∀ q s, ∃ actions : List Action, (∀ x ∈ actions, allowed x) ∧
    (a.decide q s).2 = (performAll w s actions).2

/-- Whether a step does only such things outside of requests, and only such things within. -/
def Step.Within (w : Writer) (outside inside : Action → Bool) : Step → Prop
  | .act action => outside action
  | .request _ _ a => a.ActsWithin w inside

/-- Why a request is refused before its approver is asked. -/
inductive Refused (w : Writer) (disk : Disk.Tree) (r : Request) : Failure → Prop
  | noPath : r.path = [] → Refused w disk r .missingPath
  | noDiff : r.path ≠ [] → w.store.has disk r.path → r.diff = none → Refused w disk r .missingDiff
  | noContent : r.path ≠ [] → ¬ w.store.has disk r.path → r.content = none →
      Refused w disk r .missingContent
  /-- The file cannot be read, or is not text. -/
  | unreadable {diff : Text} {e : Failure} : r.path ≠ [] → w.store.has disk r.path →
      r.diff = some diff → w.store.read disk r.path = .error e → Refused w disk r e
  /-- The diff has a malformed header or one with too long a number, or does not apply. -/
  | inapplicable {diff old : Text} {e : Diff.ApplyError} : r.path ≠ [] → w.store.has disk r.path →
      r.diff = some diff → w.store.read disk r.path = .ok old →
      Diff.apply w.dedupe old (.text diff) = .error e → Refused w disk r (.diff e)

variable {w : Writer} {s t : Session} {r : Request} {a : Approver} {p : Proposal} {e : Failure}

theorem refused_iff {disk : Disk.Tree} : Refused w disk r e ↔ propose w disk r = .error e := by
  constructor
  · rintro (empty | ⟨named, has, without⟩ | ⟨named, hasNot, without⟩ | ⟨named, has, given, read⟩ |
      ⟨named, has, given, read, applied⟩)
    · simp [propose, empty]
    · simp [propose, proposeChange, named, has, without]
    · simp [propose, proposeNew, named, hasNot, without]
    · simp [propose, proposeChange, named, has, given, read]
    · simp [propose, proposeChange, named, has, given, read, applied]
  · intro refused
    unfold propose at refused
    split at refused
    · rename_i empty
      obtain rfl := Except.error.inj refused
      exact .noPath (by simpa using empty)
    · rename_i named
      replace named : r.path ≠ [] := by simpa using named
      split at refused
      · rename_i has
        unfold proposeChange at refused
        split at refused
        · rename_i without
          obtain rfl := Except.error.inj refused
          exact .noDiff named has without
        · rename_i diff given
          split at refused
          · rename_i fault read
            obtain rfl := Except.error.inj refused
            exact .unreadable named has given read
          · rename_i old read
            split at refused
            · rename_i fault applied
              obtain rfl := Except.error.inj refused
              exact .inapplicable named has given read applied
            · simp at refused
      · rename_i hasNot
        unfold proposeNew at refused
        split at refused
        · rename_i without
          obtain rfl := Except.error.inj refused
          exact .noContent named hasNot without
        · simp at refused

private theorem Store.isAnswered_of_read {store : Store} {disk : Disk.Tree} {path : Text}
    (read : store.read disk path = .error e) : e.isAnswered = true := by
  unfold Store.read at read
  split at read
  · rename_i e' missing
    obtain rfl := Except.error.inj read
    have shallow := Disk.Tree.ne_tooDeep_of_atTarget missing
    cases e' with
    | tooDeep => exact absurd rfl shallow
    | _ => rfl
  · obtain ⟨fault, -, rfl⟩ := mapError_eq_error_iff.mp read
    rfl

theorem Refused.isAnswered {disk : Disk.Tree} (refused : Refused w disk r e) :
    e.isAnswered = true := by
  cases refused with
  | noPath _ => rfl
  | noDiff _ _ _ => rfl
  | noContent _ _ _ => rfl
  | unreadable _ _ _ read => exact Store.isAnswered_of_read read
  | inapplicable _ _ _ _ _ => rfl

def Request.question (r : Request) (p : Proposal) : Question := ⟨r.path, p.old, p.new⟩

/-- The session in which the approver of a request is asked: the proposal is shown. -/
def Session.consulting (w : Writer) (s : Session) (r : Request) (p : Proposal) : Session :=
  (showFinal ({ s with finishing := true }.noted (proposalNotes w s.disk r)) r.path
    p.new).2.asking (r.question p)

/-- The session that a consultation finds: nothing but the preview and the record of questions is new. -/
structure Consults (s t : Session) (r : Request) (p : Proposal) : Prop where
  disk : t.disk = s.disk
  asked : t.asked = s.asked ++ [r.question p]
  path : t.preview.path = some (s.preview.path.getD r.path)
  pending : t.preview.pending = some p.new
  finishing : t.finishing = true

theorem consults_consulting (w : Writer) (s : Session) (r : Request) (p : Proposal) :
    Consults s (s.consulting w r p) r p := by
  unfold Session.consulting showFinal Session.ensureOpen Preview.isOpen
  cases openFor : s.preview.path with
  | none =>
    constructor <;> simp [Session.updatePreview, Session.openPreview, Session.noted,
      Session.asking, Preview.update, Preview.openFor, openFor]
  | some shown =>
    constructor <;> simp [Session.updatePreview, Session.noted, Session.asking, Preview.update,
      openFor]

/-- Carries out what an approver has decided, unless it has failed. -/
def carryOut (w : Writer) (r : Request) (p : Proposal) (edits : Edits) :
    After Decision → After Response
  | (.error e, s) => (.error e, s)
  | (.ok decision, s) => conclude w s r.path p edits decision

/-- Ends a request: a failure that is answered becomes the answer, and an answer gets its entry. -/
def wrapUp (w : Writer) (r : Request) : After Response → After Response
  | (.ok answer, s) => respond w s r answer []
  | (.error e, s) =>
    if e.isAnswered then respond w (givenUp s r e) r (failedResponse e) e.kind
    else (.error e, { s with finishing := false })

theorem execute_eq_wrapUp (w : Writer) (s : Session) (r : Request) (a : Approver) :
    execute w s r a = wrapUp w r (process w { s with finishing := true } r a) := by
  unfold execute wrapUp
  cases process w { s with finishing := true } r a with
  | mk result s => cases result <;> rfl

theorem process_of_refused (refused : Refused w s.disk r e) (a : Approver) :
    process w { s with finishing := true } r a =
      (.error e, { s with finishing := true }.noted (proposalNotes w s.disk r)) := by
  unfold process
  simp only [refused_iff.mp refused]

theorem process_of_proposed (proposed : propose w s.disk r = .ok p) (a : Approver) :
    process w { s with finishing := true } r a =
      carryOut w r p a.edits (a.decide (r.question p) (s.consulting w r p)) := by
  obtain ⟨shown, shows, -⟩ :=
    exists_showFinal ({ s with finishing := true }.noted (proposalNotes w s.disk r)) r.path p.new
  have consulting : s.consulting w r p = shown.asking (r.question p) := by
    rw [Session.consulting, shows]
  unfold process
  simp only [proposed]
  rw [consulting, review, shows]
  simp only [Request.question]
  cases a.decide ⟨r.path, p.old, p.new⟩ (shown.asking ⟨r.path, p.old, p.new⟩) with
  | mk result s => cases result <;> rfl

theorem execute_of_refused (refused : Refused w s.disk r e) (a : Approver) :
    execute w s r a =
      respond w (givenUp ({ s with finishing := true }.noted (proposalNotes w s.disk r)) r e) r
        (failedResponse e) e.kind := by
  rw [execute_eq_wrapUp, process_of_refused refused]
  simp [wrapUp, refused.isAnswered]

theorem execute_of_proposed (proposed : propose w s.disk r = .ok p) (a : Approver) :
    execute w s r a = wrapUp w r (carryOut w r p a.edits
      (a.decide (r.question p) (s.consulting w r p))) := by
  rw [execute_eq_wrapUp, process_of_proposed proposed]

theorem refused_or_proposed (w : Writer) (disk : Disk.Tree) (r : Request) :
    (∃ e, Refused w disk r e) ∨ ∃ p, propose w disk r = .ok p := by
  cases proposed : propose w disk r with
  | error e => exact .inl ⟨e, refused_iff.mpr proposed⟩
  | ok p => exact .inr ⟨p, rfl⟩

theorem Session.stream_of_idle (idle : s.finishing = false) (due : s.tooEarly w = false)
    (path content : Text) :
    ∃ t, s.stream w path content = (.ok (), t) ∧ t.disk = s.disk ∧ t.asked = s.asked ∧
      t.finishing = s.finishing ∧ t.lastUpdate = s.now ∧
      t.preview = ⟨some (s.preview.path.getD path), some content, s.preview.updates + 1⟩ := by
  unfold Session.stream Session.ensureOpen Preview.isOpen
  rw [idle, due]
  cases openFor : s.preview.path with
  | none =>
    simp [Session.openPreview, Session.updatePreview, Session.noted, Preview.update,
      Preview.openFor, idle]
  | some shown => simp [Session.updatePreview, Session.noted, Preview.update, openFor, idle]

theorem exists_stream (w : Writer) (s : Session) (path content : Text) :
    ∃ t, s.stream w path content = (.ok (), t) ∧ t.disk = s.disk ∧ t.asked = s.asked ∧
      t.finishing = s.finishing ∧ (t.preview = s.preview ∨ s.finishing = false ∧
        t.preview = ⟨some (s.preview.path.getD path), some content, s.preview.updates + 1⟩) := by
  cases finishing : s.finishing with
  | true =>
    unfold Session.stream
    rw [finishing]
    exact ⟨_, rfl, rfl, rfl, finishing, .inl rfl⟩
  | false =>
    cases early : s.tooEarly w with
    | true =>
      unfold Session.stream
      rw [finishing, early]
      exact ⟨_, rfl, rfl, rfl, finishing, .inl rfl⟩
    | false =>
      obtain ⟨t, streamed, disk, asked, still, -, shown⟩ :=
        s.stream_of_idle finishing early path content
      exact ⟨t, streamed, disk, asked, still.trans finishing, .inr ⟨rfl, shown⟩⟩

theorem performAll_keeps {allowed : Action → Bool} {P : Session → Prop}
    (keeps : ∀ x s, allowed x → P s → P (x.perform w s).2) {actions : List Action}
    (acts : ∀ x ∈ actions, allowed x) (start : P s) : P (performAll w s actions).2 := by
  induction actions generalizing s with
  | nil => exact start
  | cons x actions ih =>
    obtain ⟨first, rest⟩ := List.forall_mem_cons.mp acts
    have once := keeps x s first start
    unfold performAll
    cases performed : x.perform w s with
    | mk result s' =>
      rw [performed] at once
      cases result with
      | error e => exact once
      | ok _ => exact ih rest once

theorem Approver.decide_scripted (script : Question → List Action × Decision) (edits : Edits)
    (q : Question) (s : Session) :
    (Approver.scripted w script edits).decide q s =
      ((performAll w s (script q).1).1.map fun _ => (script q).2,
        (performAll w s (script q).1).2) := by
  unfold Approver.scripted
  simp only
  split
  · rename_i e t performed
    rw [performed]
    rfl
  · rename_i t performed
    rw [performed]
    rfl

theorem Approver.actsWithin_scripted {allowed : Action → Bool}
    {script : Question → List Action × Decision} (acts : ∀ q, ∀ x ∈ (script q).1, allowed x)
    (edits : Edits) : (Approver.scripted w script edits).ActsWithin w allowed :=
  fun q s => ⟨(script q).1, acts q, by rw [decide_scripted]⟩

theorem performAll_streams {actions : List Action} (streams : ∀ x ∈ actions, x.streams) :
    (performAll w s actions).1 = .ok () := by
  induction actions generalizing s with
  | nil => rfl
  | cons x actions ih =>
    obtain ⟨first, rest⟩ := List.forall_mem_cons.mp streams
    cases x with
    | wait now => exact ih rest
    | stream path content =>
      obtain ⟨t, streamed, -⟩ := exists_stream w s path content
      simp only [performAll, Action.perform, streamed]
      exact ih rest
    | _ => simp [Action.streams] at first

@[simp]
theorem Session.after_cons (w : Writer) (s : Session) (step : Step) (steps : List Step) :
    s.after w (step :: steps) = (step.next w s).after w steps := rfl

end Redline.Write
