import Redline.Proofs.Write.Runs
import Redline.Proofs.Write.SavedPath

set_option autoImplicit false
set_option relaxedAutoImplicit false

/-!
Streaming is for the eye alone. A run in which content is streamed, between requests for the file of the
next one and by approvers while they decide, has the outcomes of the same run without it: each request
ends alike, its approver is asked the same, and disk and preview are the same after it.
-/

namespace Redline.Write

open Disk (Tree)
open Review (Decision)

/-- What a session has to show for its requests: neither its clock nor the number of updates. -/
structure View where
  disk : Tree
  asked : List Question
  path : Option Text
  pending : Option Text

def Session.view (s : Session) : View := ⟨s.disk, s.asked, s.preview.path, s.preview.pending⟩

def seen {α : Type} (x : After α) : Except Failure α × View := (x.1, x.2.view)

/-- What is seen of a run: how each request ends, and the view after it. -/
def observe (w : Writer) (s : Session) : List Step → List (Except Failure Response × View)
  | [] => []
  | .act action :: steps => observe w (action.perform w s).2 steps
  | .request today r a :: steps =>
    seen (execute (w.atMoment today) s r a) ::
      observe w (execute (w.atMoment today) s r a).2 steps

/-- The approver who answers alike and leaves the session alone. -/
def Approver.silenced (a : Approver) : Approver where
  decide q s := ((a.decide q s).1, s)
  edits := a.edits

/-- The step without streaming, unless it was nothing else. -/
def Step.silenced? : Step → Option Step
  | .act (.stream _ _) => none
  | .act action => some (.act action)
  | .request today r a => some (.request today r a.silenced)

def silenced (steps : List Step) : List Step := steps.filterMap Step.silenced?

/-- Whether the answer of an approver depends on the question alone. -/
def Approver.AnswersByQuestion (a : Approver) : Prop :=
  ∀ q s t, (a.decide q s).1 = (a.decide q t).1

def Step.AnswersByQuestion : Step → Prop
  | .act _ => True
  | .request _ _ a => a.AnswersByQuestion

def nextPath? : List Step → Option Text
  | [] => none
  | .act _ :: steps => nextPath? steps
  | .request _ r _ :: _ => some r.path

/-- Whether content is streamed, outside of requests, for the file of the next request only. -/
def StreamsAhead : List Step → Prop
  | [] => True
  | .act (.stream path _) :: steps => (∀ next ∈ nextPath? steps, path = next) ∧ StreamsAhead steps
  | _ :: steps => StreamsAhead steps

variable {w : Writer} {s t : Session} {a : Approver} {r : Request}

private theorem Session.view_eq_iff : s.view = t.view ↔ s.disk = t.disk ∧ s.asked = t.asked ∧
    s.preview.path = t.preview.path ∧ s.preview.pending = t.preview.pending := by
  simp [Session.view]

private theorem seen_eq_iff {α : Type} {x y : After α} :
    seen x = seen y ↔ x.1 = y.1 ∧ x.2.view = y.2.view := by
  simp [seen]

/-! What follows in a request depends on the view alone. -/

private theorem Session.view_revertPreview (disk : s.disk = t.disk) (asked : s.asked = t.asked) :
    s.revertPreview.view = t.revertPreview.view :=
  Session.view_eq_iff.mpr ⟨disk, asked, rfl, rfl⟩

private theorem Session.seen_savePreview (store : Store) (same : s.view = t.view) :
    seen (s.savePreview store) = seen (t.savePreview store) := by
  obtain ⟨disk, asked, path, pending⟩ := Session.view_eq_iff.mp same
  have toSave : s.preview.toSave = t.preview.toSave := by
    unfold Preview.toSave
    rw [path, pending]
  unfold Session.savePreview
  rw [toSave, disk]
  split
  · exact seen_eq_iff.mpr ⟨rfl, same⟩
  · split
    · exact seen_eq_iff.mpr ⟨rfl, Session.view_eq_iff.mpr ⟨rfl, asked, path, pending⟩⟩
    · exact seen_eq_iff.mpr ⟨rfl, Session.view_eq_iff.mpr ⟨rfl, asked, rfl, rfl⟩⟩

private theorem seen_answerSaved (path : Text) (p : Proposal) (saved : Saved) (same : s.view = t.view) :
    seen (answerSaved w s path p saved) = seen (answerSaved w t path p saved) := by
  refine seen_eq_iff.mpr ?_
  unfold answerSaved
  split
  · exact ⟨rfl, same⟩
  · simp only
    split
    · exact ⟨rfl, same⟩
    · exact ⟨rfl, same⟩

private theorem seen_conclude (path : Text) (p : Proposal) (edits : Edits) (decision : Decision)
    (same : s.view = t.view) :
    seen (conclude w s path p edits decision) = seen (conclude w t path p edits decision) := by
  obtain ⟨disk, asked, -, -⟩ := Session.view_eq_iff.mp same
  cases decision with
  | reject => exact seen_eq_iff.mpr ⟨rfl, Session.view_revertPreview disk asked⟩
  | feedback text => exact seen_eq_iff.mpr ⟨rfl, Session.view_revertPreview disk asked⟩
  | approve =>
    have saves := seen_eq_iff.mp (Session.seen_savePreview w.store same)
    unfold conclude
    cases savedHere : s.savePreview w.store with
    | mk result s' =>
      cases savedThere : t.savePreview w.store with
      | mk result' t' =>
        rw [savedHere, savedThere] at saves
        obtain ⟨rfl, same'⟩ := saves
        cases result with
        | error e => exact seen_eq_iff.mpr ⟨rfl, same'⟩
        | ok saved => exact seen_answerSaved path p (edits.amend saved) same'

private theorem seen_carryOut (p : Proposal) (edits : Edits) {x y : After Decision}
    (same : seen x = seen y) :
    seen (carryOut w r p edits x) = seen (carryOut w r p edits y) := by
  obtain ⟨result, s⟩ := x
  obtain ⟨result', t⟩ := y
  obtain ⟨rfl, views⟩ := seen_eq_iff.mp same
  cases result with
  | error e => exact seen_eq_iff.mpr ⟨rfl, views⟩
  | ok decision => exact seen_conclude r.path p edits decision views

private theorem seen_respond (answer : Response) (errorKind : Text) (same : s.view = t.view) :
    seen (respond w s r answer errorKind) = seen (respond w t r answer errorKind) := by
  obtain ⟨disk, asked, path, pending⟩ := Session.view_eq_iff.mp same
  obtain ⟨preview, kept, -⟩ := enter_frame w r answer errorKind s
  obtain ⟨preview', kept', like⟩ := enter_frame w r answer errorKind t
  obtain ⟨result, entered⟩ := like s disk
  rw [respond_eq, respond_eq, result]
  refine seen_eq_iff.mpr ⟨rfl, Session.view_eq_iff.mpr ⟨entered, ?_, ?_, ?_⟩⟩
  · exact kept.trans (asked.trans kept'.symm)
  · exact (congrArg Preview.path preview).trans (path.trans (congrArg Preview.path preview').symm)
  · exact (congrArg Preview.pending preview).trans
      (pending.trans (congrArg Preview.pending preview').symm)

private theorem seen_wrapUp {x y : After Response} (same : seen x = seen y) :
    seen (wrapUp w r x) = seen (wrapUp w r y) := by
  obtain ⟨result, s⟩ := x
  obtain ⟨result', t⟩ := y
  obtain ⟨rfl, views⟩ := seen_eq_iff.mp same
  cases result with
  | ok answer => exact seen_respond answer [] views
  | error e =>
    obtain ⟨disk, asked, -, -⟩ := Session.view_eq_iff.mp views
    unfold wrapUp
    simp only
    split
    · exact seen_respond _ _ (Session.view_revertPreview disk asked)
    · exact seen_eq_iff.mpr ⟨rfl, views⟩

private theorem Action.view_perform_of_finishing {x : Action} (allowed : x.streams)
    (finishing : s.finishing = true) :
    (x.perform w s).2.finishing = true ∧ (x.perform w s).2.view = s.view := by
  cases x with
  | wait now => exact ⟨finishing, rfl⟩
  | stream path content =>
    obtain ⟨t, streamed, disk, asked, still, kept | ⟨idle, -⟩⟩ := exists_stream w s path content
    · simp only [Action.perform, streamed]
      exact ⟨still.trans finishing, Session.view_eq_iff.mpr ⟨disk, asked, by rw [kept], by rw [kept]⟩⟩
    · simp [finishing] at idle
  | _ => simp [Action.streams] at allowed

private theorem Approver.ActsWithin.view_decide (within : a.ActsWithin w Action.streams) (q : Question)
    (finishing : s.finishing = true) : (a.decide q s).2.view = s.view := by
  obtain ⟨actions, acts, decided⟩ := within q s
  rw [decided]
  refine (performAll_keeps (P := fun t => t.finishing = true ∧ t.view = s.view) ?_ acts
    ⟨finishing, rfl⟩).2
  intro x t allowed ⟨still, same⟩
  obtain ⟨still', same'⟩ := x.view_perform_of_finishing (w := w) allowed still
  exact ⟨still', same'.trans same⟩

/--
A request ends alike with and without the streaming of its approver, in two sessions with one disk whose
previews would show it for the same path.
-/
private theorem seen_execute_silenced {v : Writer} (within : a.ActsWithin v Action.streams)
    (answers : a.AnswersByQuestion) (disk : t.disk = s.disk) (asked : t.asked = s.asked)
    (path : t.preview.path.getD r.path = s.preview.path.getD r.path) :
    seen (execute w t r a.silenced) = seen (execute w s r a) := by
  -- A refusal closes the preview, and a consultation replaces its content, so only its path counts.
  rcases refused_or_proposed w s.disk r with ⟨e, refused⟩ | ⟨p, proposed⟩
  · rw [execute_of_refused (s := s) refused, execute_of_refused (s := t) (disk ▸ refused)]
    exact seen_respond _ _ (Session.view_revertPreview disk asked)
  · rw [execute_of_proposed (s := s) proposed, execute_of_proposed (s := t) (disk ▸ proposed)]
    have here := consults_consulting w s r p
    have there := consults_consulting w t r p
    refine seen_wrapUp (seen_carryOut p a.edits (seen_eq_iff.mpr ⟨answers _ _ _, ?_⟩))
    rw [within.view_decide (r.question p) here.finishing]
    refine Session.view_eq_iff.mpr ⟨?_, ?_, ?_, ?_⟩
    · exact there.disk.trans (disk.trans here.disk.symm)
    · exact there.asked.trans (asked ▸ here.asked.symm)
    · exact there.path.trans (path ▸ here.path.symm)
    · exact there.pending.trans here.pending.symm

/--
Sessions that cannot be told apart by the steps to come: the path for which a preview will be shown is
compared, not the one for which it is open, and its content not at all.
-/
structure Alike (s t : Session) (steps : List Step) : Prop where
  disk : t.disk = s.disk
  asked : t.asked = s.asked
  path : ∀ next ∈ nextPath? steps, t.preview.path.getD next = s.preview.path.getD next

private theorem Alike.of_view_eq {steps : List Step} (same : t.view = s.view) : Alike s t steps := by
  obtain ⟨disk, asked, path, -⟩ := Session.view_eq_iff.mp same
  exact ⟨disk, asked, fun next _ => by rw [path]⟩

private theorem Alike.stream {path content : Text} {steps : List Step}
    (alike : Alike s t (.act (.stream path content) :: steps))
    (ahead : ∀ next ∈ nextPath? steps, path = next) :
    Alike ((Action.stream path content).perform w s).2 t steps := by
  obtain ⟨u, streamed, disk, asked, -, shown⟩ := exists_stream w s path content
  simp only [Action.perform, streamed]
  refine ⟨alike.disk.trans disk.symm, alike.asked.trans asked.symm, fun next isNext => ?_⟩
  rw [alike.path next isNext]
  rcases shown with kept | ⟨-, shown⟩
  · rw [kept]
  · rw [shown, ahead next isNext]
    rfl

private theorem observe_silenced {steps : List Step}
    (within : ∀ x ∈ steps, x.Within w Action.streamsOrAborts Action.streams)
    (answers : ∀ x ∈ steps, x.AnswersByQuestion) (ahead : StreamsAhead steps)
    (alike : Alike s t steps) : observe w t (silenced steps) = observe w s steps := by
  -- `Alike` looks ahead to the next request: streaming and aborting keep it, and the request renews it.
  induction steps generalizing s t with
  | nil => rfl
  | cons step steps ih =>
    obtain ⟨first, rest⟩ := List.forall_mem_cons.mp within
    obtain ⟨answer, answersRest⟩ := List.forall_mem_cons.mp answers
    cases step with
    | act x =>
      cases x with
      | stream path content => exact ih rest answersRest ahead.2 (alike.stream ahead.1)
      | wait now => exact ih rest answersRest ahead ⟨alike.disk, alike.asked, alike.path⟩
      | abort => exact ih rest answersRest ahead ⟨alike.disk, alike.asked, fun _ _ => rfl⟩
      | _ => simp [Step.Within, Action.streamsOrAborts, Action.streams] at first
    | request today r a =>
      have same : seen (execute (w.atMoment today) t r a.silenced) =
          seen (execute (w.atMoment today) s r a) :=
        seen_execute_silenced first answer alike.disk alike.asked (alike.path r.path rfl)
      exact List.cons_eq_cons.mpr
        ⟨same, ih rest answersRest ahead (.of_view_eq (seen_eq_iff.mp same).2)⟩

/--
Over every run whose approvers only stream while deciding and answer by the question, and in which
content is streamed between requests for the file of the next one, each request has the outcome, the
questions, the disk, the open path and the pending content that it has without any streaming.
-/
theorem streaming_unobservable (disk : Tree) {steps : List Step}
    (within : ∀ x ∈ steps, x.Within w Action.streamsOrAborts Action.streams)
    (answers : ∀ x ∈ steps, x.AnswersByQuestion) (ahead : StreamsAhead steps) :
    observe w (.start disk) (silenced steps) = observe w (.start disk) steps :=
  observe_silenced within answers ahead (.of_view_eq rfl)

private theorem Approver.answersByQuestion_scripted {script : Question → List Action × Decision}
    (streams : ∀ q, ∀ x ∈ (script q).1, x.streams) (edits : Edits) :
    (Approver.scripted w script edits).AnswersByQuestion := by
  have decides (q : Question) (s : Session) :
      ((Approver.scripted w script edits).decide q s).1 = .ok (script q).2 := by
    rw [Approver.decide_scripted, performAll_streams (streams q)]
    rfl
  intro q s t
  rw [decides, decides]

/-- A run in which content is streamed for a file, and by the approver of its request for another. -/
def streamedTwiceThenWritten : List Step :=
  [.act (.stream "b.txt" "draft"), .request plainWriter.today ⟨"b.txt", some "x", none⟩
    (Approver.scripted plainWriter (fun _ => ([.stream "c.txt" "y"], .approve)) Edits.none)]

/-- The streaming is not seen, and the write is. -/
theorem streaming_unobservable_written :
    (∀ x ∈ streamedTwiceThenWritten,
      x.Within plainWriter Action.streamsOrAborts Action.streams) ∧
    (∀ x ∈ streamedTwiceThenWritten, x.AnswersByQuestion) ∧
    StreamsAhead streamedTwiceThenWritten ∧
    (silenced streamedTwiceThenWritten).length < streamedTwiceThenWritten.length ∧
    observe plainWriter (.start ⟨[], []⟩) (silenced streamedTwiceThenWritten) =
      observe plainWriter (.start ⟨[], []⟩) streamedTwiceThenWritten := by
  have onlyStreams (_ : Question) : ∀ x ∈ [Action.stream "c.txt" "y"], x.streams :=
    List.forall_mem_singleton.mpr rfl
  have within : ∀ x ∈ streamedTwiceThenWritten,
      x.Within plainWriter Action.streamsOrAborts Action.streams :=
    List.forall_mem_cons.mpr ⟨rfl, List.forall_mem_singleton.mpr
      (Approver.actsWithin_scripted onlyStreams _)⟩
  have answers : ∀ x ∈ streamedTwiceThenWritten, x.AnswersByQuestion :=
    List.forall_mem_cons.mpr ⟨trivial, List.forall_mem_singleton.mpr
      (Approver.answersByQuestion_scripted onlyStreams _)⟩
  have ahead : StreamsAhead streamedTwiceThenWritten := by
    simp [StreamsAhead, streamedTwiceThenWritten, nextPath?]
  exact ⟨within, answers, ahead, Nat.lt_succ_self 1,
    streaming_unobservable ⟨[], []⟩ within answers ahead⟩

end Redline.Write
