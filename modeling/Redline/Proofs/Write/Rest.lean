import Redline.Proofs.Write.SavedPath
import Redline.Proofs.Write.Runs

set_option autoImplicit false
set_option relaxedAutoImplicit false

/-!
A session returns to rest. Whatever approvers do to a session while they decide, and however requests
end, no request is being finished between two steps, so streamed content that does not come too early is
shown; and whoever gets an answer finds the preview closed with nothing left to show.
-/

namespace Redline.Write

open Disk (Tree)

/-- Whether a preview is closed, with nothing left to show. -/
structure Preview.IsBlank (p : Preview) : Prop where
  path : p.path = none
  pending : p.pending = none

theorem Preview.isBlank_close (p : Preview) : p.close.IsBlank := ⟨rfl, rfl⟩

variable {w : Writer} {s : Session} {r : Request}

/-! Between steps. -/

private theorem Session.finishing_updatePreview (s : Session) (content : Text) (final : Bool) :
    (s.updatePreview content final).2.finishing = s.finishing := by
  unfold Session.updatePreview
  split <;> rfl

private theorem Session.finishing_savePreview (store : Store) (s : Session) :
    (s.savePreview store).2.finishing = s.finishing := by
  unfold Session.savePreview
  split
  · rfl
  · split <;> rfl

theorem Action.finishing_perform (w : Writer) (s : Session) (x : Action) :
    (x.perform w s).2.finishing = s.finishing := by
  cases x with
  | stream path content =>
    obtain ⟨t, streamed, -, -, finishing, -⟩ := exists_stream w s path content
    simp only [Action.perform, streamed]
    exact finishing
  | updatePreview content final =>
    have kept := s.finishing_updatePreview content final
    simp only [Action.perform]
    split <;> simp_all only
  | savePreview =>
    have kept := s.finishing_savePreview w.store
    simp only [Action.perform]
    split <;> simp_all only
  | write path content =>
    simp only [Action.perform]
    split <;> rfl
  | remove path =>
    simp only [Action.perform]
    split <;> rfl
  | _ => rfl

theorem finishing_wrapUp (w : Writer) (r : Request) (x : After Response) :
    (wrapUp w r x).2.finishing = false := by
  obtain ⟨result, s⟩ := x
  cases result with
  | ok answer => rw [wrapUp, respond_eq]
  | error e =>
    unfold wrapUp
    simp only
    split
    · rw [respond_eq]
    · rfl

private theorem Step.finishing_next (idle : s.finishing = false) (step : Step) :
    (step.next w s).finishing = false := by
  cases step with
  | act x => exact (x.finishing_perform w s).trans idle
  | request today r a =>
    rw [Step.next, execute_eq_wrapUp]
    exact finishing_wrapUp (w.atMoment today) r _

private theorem Session.finishing_after (idle : s.finishing = false) (steps : List Step) :
    (s.after w steps).finishing = false := by
  induction steps generalizing s with
  | nil => exact idle
  | cons step steps ih =>
    rw [Session.after_cons]
    exact ih (step.finishing_next idle)

/-! After an answer. -/

theorem preview_respond (w : Writer) (s : Session) (r : Request) (answer : Response)
    (errorKind : Text) : (respond w s r answer errorKind).2.preview = s.preview := by
  rw [respond_eq]
  exact (enter_frame w r answer errorKind s).1

private theorem isBlank_conclude {path : Text} {p : Proposal} {edits : Edits} {decision : Review.Decision}
    {answer : Response} {t : Session}
    (ran : conclude w s path p edits decision = (.ok answer, t)) : t.preview.IsBlank := by
  cases decision with
  | reject =>
    obtain ⟨-, rfl⟩ := Prod.mk.inj ran
    exact s.preview.isBlank_close
  | feedback text =>
    obtain ⟨-, rfl⟩ := Prod.mk.inj ran
    exact s.preview.isBlank_close
  | approve =>
    simp only [conclude] at ran
    split at ran
    · simp at ran
    · rename_i saved closed save
      obtain ⟨-, -, preview, -⟩ := answerSaved_frame w closed path p (edits.amend saved)
      obtain ⟨shown, saves⟩ := Session.savePreview_eq_ok save
      rw [ran] at preview
      rw [preview, saves.closed]
      exact s.preview.isBlank_close

private theorem isBlank_process {a : Approver} {answer : Response} {t : Session}
    (ran : process w { s with finishing := true } r a = (.ok answer, t)) : t.preview.IsBlank := by
  rcases refused_or_proposed w s.disk r with ⟨e, refused⟩ | ⟨p, proposed⟩
  · rw [process_of_refused refused] at ran
    simp at ran
  · rw [process_of_proposed proposed] at ran
    cases decided : a.decide (r.question p) (s.consulting w r p) with
    | mk result u =>
      rw [decided] at ran
      cases result with
      | error e => simp [carryOut] at ran
      | ok decision => exact isBlank_conclude ran

private theorem isBlank_execute {a : Approver} {answer : Response} {t : Session}
    (ran : execute w s r a = (.ok answer, t)) : t.preview.IsBlank := by
  rw [execute_eq_wrapUp] at ran
  cases worked : process w { s with finishing := true } r a with
  | mk result u =>
    rw [worked] at ran
    cases result with
    | ok answer' =>
      rw [← congrArg (·.2.preview) ran, wrapUp, preview_respond]
      exact isBlank_process worked
    | error e =>
      unfold wrapUp at ran
      simp only at ran
      split at ran
      · rw [← congrArg (·.2.preview) ran, preview_respond]
        exact u.preview.isBlank_close
      · simp at ran

/--
After every run, whatever its approvers do to the session and however they end, no request is being
finished, so that streamed content is shown unless it comes too early. A request that then gets an answer,
be it to a save that failed half-way, leaves the preview closed with nothing left to show.
-/
theorem session_returns_to_rest (w : Writer) (disk : Tree) (steps : List Step) :
    let s := (Session.start disk).after w steps
    s.finishing = false ∧
      (∀ path content, s.tooEarly w = false →
        ∃ t, s.stream w path content = (.ok (), t) ∧ t.lastUpdate = s.now ∧
          t.preview = ⟨some (s.preview.path.getD path), some content, s.preview.updates + 1⟩) ∧
      ∀ today r a answer t, execute (w.atMoment today) s r a = (.ok answer, t) →
        t.finishing = false ∧ t.preview.IsBlank := by
  intro s
  have idle : s.finishing = false := Session.finishing_after rfl steps
  refine ⟨idle, ?_, ?_⟩
  · intro path content due
    obtain ⟨t, streamed, -, -, -, clock, shown⟩ := s.stream_of_idle idle due path content
    exact ⟨t, streamed, clock, shown⟩
  · intro today r a answer t ran
    have next : (Step.request today r a).next w s = t := by rw [Step.next, ran]
    exact ⟨next ▸ (Step.request today r a).finishing_next idle, isBlank_execute ran⟩

/-- A save that fails because a file is where a directory is wanted leaves the preview closed, too. -/
example : ∃ answer t,
    execute plainWriter (.start ⟨[], [(["d".toList], .file [])]⟩) ⟨"d/x", some "x", none⟩ consent =
      (.ok answer, t) ∧ answer.status = .failure ∧ t.preview.path = none ∧ t.disk.nodes.length = 1 :=
  ⟨_, _, rfl, rfl, rfl, rfl⟩

end Redline.Write
