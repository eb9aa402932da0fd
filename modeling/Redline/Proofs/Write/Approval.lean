import Redline.Proofs.Outcome
import Redline.Write.Execution

set_option autoImplicit false
set_option relaxedAutoImplicit false

/-!
The way of an approved request. A request that succeeds has been proposed, shown in the preview, put to
the approver, approved and saved; each of these steps is read off the successful run.
-/

namespace Redline.Write

open Review (Decision)

variable {w : Writer} {s s' : Session} {r : Request} {a : Approver} {answer : Response}

theorem Preview.toSave_eq_ok {p : Preview} {path content : Text}
    (ready : p.toSave = .ok (path, content)) : p.path = some path ∧ p.pending = some content := by
  unfold Preview.toSave at ready
  split at ready
  · rename_i path' content' openFor pending
    obtain ⟨rfl, rfl⟩ := Prod.mk.inj (Except.ok.inj ready)
    exact ⟨openFor, pending⟩
  · simp at ready

theorem Preview.toSave_eq_error_iff {p : Preview} {e : Failure} :
    p.toSave = .error e ↔ (p.path = none ∨ p.pending = none) ∧ e = .nothingToSave := by
  unfold Preview.toSave
  cases p.path with
  | none => simp [eq_comm]
  | some path => cases p.pending <;> simp [eq_comm]

structure Session.Saves (store : Store) (s : Session) (path : Text) (saved : Saved) (t : Session) :
    Prop where
  openFor : s.preview.path = some path
  pending : s.preview.pending = some saved.content
  unedited : saved.userEdits = none
  wrote : store.write s.disk path saved.content = (.ok (), t.disk)
  closed : t.preview = s.preview.close
  asked : t.asked = s.asked

theorem Session.savePreview_eq_ok {store : Store} {saved : Saved}
    (ran : s.savePreview store = (.ok saved, s')) : ∃ path, s.Saves store path saved s' := by
  unfold Session.savePreview at ran
  split at ran
  · simp at ran
  · rename_i path content toSave
    obtain ⟨openFor, pending⟩ := Preview.toSave_eq_ok toSave
    split at ran
    · simp at ran
    · rename_i disk wrote
      obtain ⟨first, rfl⟩ := Prod.mk.inj ran
      obtain rfl := Except.ok.inj first
      exact ⟨path, openFor, pending, rfl, wrote, rfl, rfl⟩

theorem Session.savePreview_refused_iff {store : Store} {t : Session} :
    s.savePreview store = (.error .nothingToSave, t) ↔
      (s.preview.path = none ∨ s.preview.pending = none) ∧ t = s := by
  unfold Session.savePreview
  constructor
  · intro refused
    split at refused
    · rename_i e toSave
      obtain ⟨-, rfl⟩ := Prod.mk.inj refused
      exact ⟨(Preview.toSave_eq_error_iff.mp toSave).1, rfl⟩
    · split at refused <;> simp at refused
  · rintro ⟨unready, rfl⟩
    rw [Preview.toSave_eq_error_iff.mpr ⟨unready, rfl⟩]

theorem exists_showFinal (s : Session) (path content : Text) :
    ∃ t, showFinal s path content = (.ok (), t) ∧
      t.preview.path = some (s.preview.path.getD path) ∧ t.preview.pending = some content ∧
      t.disk = s.disk ∧ t.asked = s.asked := by
  unfold showFinal Session.ensureOpen Preview.isOpen
  cases openFor : s.preview.path with
  | none =>
    simp [Session.updatePreview, Session.openPreview, Session.noted, Preview.update,
      Preview.openFor]
  | some shown =>
    simp [Session.updatePreview, Session.noted, Preview.update, openFor]

theorem answerSaved_frame (w : Writer) (s : Session) (path : Text) (p : Proposal) (saved : Saved) :
    (∀ answer, (answerSaved w s path p saved).1 = .ok answer → answer.status = .success) ∧
      (answerSaved w s path p saved).2.disk = s.disk ∧
      (answerSaved w s path p saved).2.preview = s.preview ∧
      (answerSaved w s path p saved).2.asked = s.asked := by
  unfold answerSaved
  split
  · exact ⟨fun _ given => Except.ok.inj given ▸ rfl, rfl, rfl, rfl⟩
  · simp only
    split
    · exact ⟨fun _ given => (nomatch given), rfl, rfl, rfl⟩
    · exact ⟨fun _ given => Except.ok.inj given ▸ rfl, rfl, rfl, rfl⟩

private theorem conclude_success {path : Text} {p : Proposal} {edits : Edits} {decision : Decision}
    (ran : conclude w s path p edits decision = (.ok answer, s'))
    (success : answer.status = .success) :
    decision = .approve ∧ ∃ saved closed, s.savePreview w.store = (.ok saved, closed) ∧
      s'.disk = closed.disk ∧ s'.asked = closed.asked ∧
      (answerSaved w closed path p (edits.amend saved)).1 = .ok answer := by
  cases decision with
  | reject =>
    obtain ⟨first, -⟩ := Prod.mk.inj ran
    obtain rfl := Except.ok.inj first
    simp [rejectedResponse] at success
  | feedback text =>
    obtain ⟨first, -⟩ := Prod.mk.inj ran
    obtain rfl := Except.ok.inj first
    simp [feedbackResponse] at success
  | approve =>
    simp only [conclude] at ran
    split at ran
    · simp at ran
    · rename_i saved closed save
      obtain ⟨-, disk, -, asked⟩ := answerSaved_frame w closed path p (edits.amend saved)
      rw [ran] at disk asked
      exact ⟨rfl, saved, closed, save, disk, asked, congrArg Prod.fst ran⟩

/--
The states that a request passes through on its way to a save: after it is shown, after the approver
has approved, and after the preview is saved.
-/
structure Passes (w : Writer) (s : Session) (r : Request) (a : Approver) (p : Proposal)
    (shown decided : Session) (saved : Saved) (closed : Session) : Prop where
  proposed : propose w s.disk r = .ok p
  path : shown.preview.path = some (s.preview.path.getD r.path)
  pending : shown.preview.pending = some p.new
  disk : shown.disk = s.disk
  asked : shown.asked = s.asked ++ [⟨r.path, p.old, p.new⟩]
  decides : a.decide ⟨r.path, p.old, p.new⟩ shown = (.ok .approve, decided)
  saves : decided.savePreview w.store = (.ok saved, closed)

private theorem process_success (ran : process w s r a = (.ok answer, s'))
    (success : answer.status = .success) :
    ∃ p shown decided saved closed, Passes w s r a p shown decided saved closed ∧
      s'.disk = closed.disk ∧ s'.asked = closed.asked ∧
      (answerSaved w closed r.path p (a.edits.amend saved)).1 = .ok answer := by
  unfold process at ran
  simp only at ran
  split at ran
  · simp at ran
  · rename_i p proposed
    obtain ⟨t, shown, path, pending, disk, asked⟩ :=
      exists_showFinal (s.noted (proposalNotes w s.disk r)) r.path p.new
    unfold review at ran
    rw [shown] at ran
    simp only at ran
    split at ran
    · simp at ran
    · rename_i decision decided decides
      obtain ⟨rfl, saved, closed, saves, sameDisk, sameAsked, answered⟩ :=
        conclude_success ran success
      have asks : (t.asking ⟨r.path, p.old, p.new⟩).asked = s.asked ++ [⟨r.path, p.old, p.new⟩] := by
        rw [Session.asking, asked]
        rfl
      exact ⟨p, t.asking ⟨r.path, p.old, p.new⟩, decided, saved, closed,
        ⟨proposed, path, pending, disk, asks, decides, saves⟩, sameDisk, sameAsked, answered⟩

theorem enter_frame (w : Writer) (r : Request) (answer : Response) (errorKind : Text) (s : Session) :
    (enter w s r answer errorKind).2.preview = s.preview ∧
      (enter w s r answer errorKind).2.asked = s.asked ∧
      ∀ t : Session, t.disk = s.disk →
        (enter w t r answer errorKind).1 = (enter w s r answer errorKind).1 ∧
          (enter w t r answer errorKind).2.disk = (enter w s r answer errorKind).2.disk := by
  unfold enter
  split
  · exact ⟨rfl, rfl, fun t same => ⟨rfl, same⟩⟩
  · refine ⟨?_, ?_, fun t same => ?_⟩
    · split <;> rfl
    · split <;> rfl
    · rw [same]
      split <;> exact ⟨rfl, rfl⟩

theorem respond_eq (w : Writer) (s : Session) (r : Request) (answer : Response) (errorKind : Text) :
    respond w s r answer errorKind =
      ((enter w s r answer errorKind).1.map fun _ => answer,
        { (enter w s r answer errorKind).2 with finishing := false }) := by
  unfold respond
  split <;> rename_i entry <;> rw [entry] <;> rfl

theorem respond_of_unlogged (unlogged : w.journalRoot = none) (s : Session) (r : Request)
    (answer : Response) (errorKind : Text) :
    respond w s r answer errorKind = (.ok answer, { s with finishing := false }) := by
  simp only [respond, enter, unlogged]

theorem execute_success (ran : execute w s r a = (.ok answer, s'))
    (success : answer.status = .success) :
    ∃ p shown decided saved closed, Passes w s r a p shown decided saved closed ∧
      s'.disk = (enter w closed r answer []).2.disk ∧ s'.asked = closed.asked ∧
      (answerSaved w closed r.path p (a.edits.amend saved)).1 = .ok answer := by
  unfold execute at ran
  split at ran
  · rename_i answer' processed worked
    rw [respond_eq] at ran
    obtain ⟨first, rfl⟩ := Prod.mk.inj ran
    obtain ⟨-, -, rfl⟩ := map_eq_ok_iff.mp first
    obtain ⟨p, shown, decided, saved, closed, passes, sameDisk, sameAsked, answered⟩ :=
      process_success worked success
    obtain ⟨-, entryAsked, -⟩ := enter_frame w r answer' [] processed
    obtain ⟨-, -, like⟩ := enter_frame w r answer' [] closed
    -- Whether a request is being finished matters to no step but streaming.
    have passes : Passes w s r a p shown decided saved closed :=
      ⟨passes.proposed, passes.path, passes.pending, passes.disk, passes.asked, passes.decides,
        passes.saves⟩
    exact ⟨p, shown, decided, saved, closed, passes, (like processed sameDisk).2,
      entryAsked.trans sameAsked, answered⟩
  · split at ran
    · rw [respond_eq] at ran
      obtain ⟨-, -, rfl⟩ := map_eq_ok_iff.mp (Prod.mk.inj ran).1
      simp [failedResponse] at success
    · simp at ran

end Redline.Write
