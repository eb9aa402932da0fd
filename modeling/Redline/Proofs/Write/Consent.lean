import Redline.Proofs.Write.Runs
import Redline.Proofs.Write.SavedPath

set_option autoImplicit false
set_option relaxedAutoImplicit false

/-!
Nothing is written without consent. Over a run without a write log, whatever is streamed and aborted
outside of requests or by approvers, a step leaves the disk as it is unless it is a request that its
approver, asked in this step, approves. A request that is refused before the question changes nothing
and has the same outcome whoever its approver is.
-/

namespace Redline.Write

open Disk (Tree)
open Review (Decision)

variable {w : Writer} {s : Session}

private theorem Action.disk_asked_perform {x : Action} (allowed : x.streamsOrAborts) (s : Session) :
    (x.perform w s).2.disk = s.disk ∧ (x.perform w s).2.asked = s.asked := by
  cases x with
  | wait now => exact ⟨rfl, rfl⟩
  | abort => exact ⟨rfl, rfl⟩
  | stream path content =>
    obtain ⟨t, streamed, disk, asked, -⟩ := exists_stream w s path content
    simp only [Action.perform, streamed]
    exact ⟨disk, asked⟩
  | _ => simp [Action.streamsOrAborts, Action.streams] at allowed

theorem performAll_disk_asked {actions : List Action} (acts : ∀ x ∈ actions, x.streamsOrAborts)
    (s : Session) :
    (performAll w s actions).2.disk = s.disk ∧ (performAll w s actions).2.asked = s.asked := by
  refine performAll_keeps (P := fun t => t.disk = s.disk ∧ t.asked = s.asked) ?_ acts ⟨rfl, rfl⟩
  intro x t allowed same
  obtain ⟨disk, asked⟩ := x.disk_asked_perform allowed t
  exact ⟨disk.trans same.1, asked.trans same.2⟩

private theorem Approver.ActsWithin.disk_asked_decide {a : Approver}
    (within : a.ActsWithin w Action.streamsOrAborts) (q : Question) (s : Session) :
    (a.decide q s).2.disk = s.disk ∧ (a.decide q s).2.asked = s.asked := by
  obtain ⟨actions, acts, decided⟩ := within q s
  rw [decided]
  exact performAll_disk_asked acts s

private theorem Session.savePreview_asked (store : Store) (s : Session) :
    (s.savePreview store).2.asked = s.asked := by
  unfold Session.savePreview
  split
  · rfl
  · split <;> rfl

theorem carryOut_asked (w : Writer) (r : Request) (p : Proposal) (edits : Edits)
    (x : After Decision) : (carryOut w r p edits x).2.asked = x.2.asked := by
  obtain ⟨result, t⟩ := x
  cases result with
  | error e => rfl
  | ok decision =>
    cases decision with
    | reject => rfl
    | feedback text => rfl
    | approve =>
      have kept := t.savePreview_asked w.store
      simp only [carryOut, conclude]
      split
      · rename_i e failed save
        rwa [save] at kept
      · rename_i saved closed save
        rw [save] at kept
        obtain ⟨-, -, -, asked⟩ := answerSaved_frame w closed r.path p (edits.amend saved)
        exact asked.trans kept

private theorem carryOut_disk (w : Writer) (r : Request) (p : Proposal) (edits : Edits)
    {x : After Decision} (notApproved : ∀ t, x ≠ (.ok .approve, t)) :
    (carryOut w r p edits x).2.disk = x.2.disk := by
  obtain ⟨result, t⟩ := x
  cases result with
  | error e => rfl
  | ok decision =>
    cases decision with
    | reject => rfl
    | feedback text => rfl
    | approve => exact absurd rfl (notApproved t)

/-- Without a write log, the end of a request changes neither the disk nor the record of questions. -/
theorem wrapUp_disk_asked (unlogged : w.journalRoot = none) (r : Request) (x : After Response) :
    (wrapUp w r x).2.disk = x.2.disk ∧ (wrapUp w r x).2.asked = x.2.asked := by
  obtain ⟨result, t⟩ := x
  cases result with
  | ok answer =>
    rw [wrapUp, respond_of_unlogged unlogged]
    exact ⟨rfl, rfl⟩
  | error e =>
    unfold wrapUp
    simp only
    split
    · rw [respond_of_unlogged unlogged]
      exact ⟨rfl, rfl⟩
    · exact ⟨rfl, rfl⟩

/--
Whether a step is a request with a proposal, of which the approver is asked in this step and which it
approves.
-/
def Step.IsApproved (w : Writer) (s : Session) : Step → Prop
  | .act _ => False
  | .request today r a => ∃ p decided,
      propose (w.atMoment today) s.disk r = .ok p ∧
      a.decide (r.question p) (s.consulting (w.atMoment today) r p) = (.ok .approve, decided) ∧
      (execute (w.atMoment today) s r a).2.asked = s.asked ++ [r.question p]

private theorem Refused.exists_execute (unlogged : w.journalRoot = none) {r : Request} {e : Failure}
    (refused : Refused w s.disk r e) :
    ∃ t, (∀ a, execute w s r a = (.ok (failedResponse e), t)) ∧ t.disk = s.disk ∧
      t.asked = s.asked := by
  have outcome (a : Approver) : execute w s r a = (.ok (failedResponse e), { givenUp
      ({ s with finishing := true }.noted (proposalNotes w s.disk r)) r e with
        finishing := false }) := by
    rw [execute_of_refused refused, respond_of_unlogged unlogged]
  exact ⟨_, outcome, rfl, rfl⟩

private theorem Step.isApproved_of_disk_ne (unlogged : w.journalRoot = none) {step : Step}
    (within : step.Within w Action.streamsOrAborts Action.streamsOrAborts)
    (changed : (step.next w s).disk ≠ s.disk) : step.IsApproved w s := by
  -- Question, deliberation and end leave the disk as it is; only carrying out the decision is left.
  cases step with
  | act x => exact absurd (x.disk_asked_perform within s).1 changed
  | request today r a =>
    have unlogged' : (w.atMoment today).journalRoot = none := unlogged
    rcases refused_or_proposed (w.atMoment today) s.disk r with ⟨e, refused⟩ | ⟨p, proposed⟩
    · obtain ⟨t, outcome, disk, -⟩ := refused.exists_execute unlogged'
      rw [Step.next, outcome] at changed
      exact absurd disk changed
    · have consults := consults_consulting (w.atMoment today) s r p
      have decided := within.disk_asked_decide (r.question p) (s.consulting (w.atMoment today) r p)
      have ends := wrapUp_disk_asked unlogged' r (carryOut (w.atMoment today) r p a.edits
        (a.decide (r.question p) (s.consulting (w.atMoment today) r p)))
      rw [← execute_of_proposed proposed a] at ends
      refine ⟨p, (a.decide (r.question p) (s.consulting (w.atMoment today) r p)).2, proposed, ?_, ?_⟩
      · refine Classical.byContradiction fun notApproved => changed ?_
        have carried := carryOut_disk (w.atMoment today) r p a.edits fun t approved =>
          notApproved (approved.trans (by rw [approved]))
        rw [Step.next, ends.1, carried, decided.1, consults.disk]
      · rw [ends.2, carryOut_asked, decided.2, consults.asked]

private theorem Session.exists_isApproved_of_disk_ne (unlogged : w.journalRoot = none) {steps : List Step}
    (within : ∀ x ∈ steps, x.Within w Action.streamsOrAborts Action.streamsOrAborts)
    (changed : (s.after w steps).disk ≠ s.disk) :
    ∃ before step after, steps = before ++ step :: after ∧ step.IsApproved w (s.after w before) := by
  -- The step to be found is the first that changes the disk.
  induction steps generalizing s with
  | nil => exact absurd rfl changed
  | cons step steps ih =>
    obtain ⟨first, rest⟩ := List.forall_mem_cons.mp within
    by_cases here : (step.next w s).disk = s.disk
    · rw [Session.after_cons, ← here] at changed
      obtain ⟨before, later, after, rfl, approved⟩ := ih rest changed
      exact ⟨step :: before, later, after, rfl, approved⟩
    · exact ⟨[], step, steps, rfl, step.isApproved_of_disk_ne unlogged first here⟩

/--
Over every run without a write log whose approvers only stream and abort, each step that changes the
disk is a request that its approver, asked in this step, approves; so the disk is still the first one if
none is approved. A request that is refused before the question is answered with its failure, changes
neither the disk nor the record of questions, and has the same outcome for all approvers.
-/
theorem disk_changes_only_by_approval (unlogged : w.journalRoot = none) (disk : Tree)
    {steps : List Step}
    (within : ∀ x ∈ steps, x.Within w Action.streamsOrAborts Action.streamsOrAborts) :
    (∀ before step after, steps = before ++ step :: after →
      let s := (Session.start disk).after w before
      (step.next w s).disk ≠ s.disk → step.IsApproved w s) ∧
    (((Session.start disk).after w steps).disk ≠ disk →
      ∃ before step after, steps = before ++ step :: after ∧
        step.IsApproved w ((Session.start disk).after w before)) ∧
    ∀ before today r a after e, steps = before ++ .request today r a :: after →
      let s := (Session.start disk).after w before
      Refused (w.atMoment today) s.disk r e →
        ∃ t, (∀ b, execute (w.atMoment today) s r b = (.ok (failedResponse e), t)) ∧
          t.disk = s.disk ∧ t.asked = s.asked := by
  refine ⟨?_, ?_, ?_⟩
  · rintro before step after rfl s changed
    exact step.isApproved_of_disk_ne unlogged (within step (by simp)) changed
  · intro changed
    exact Session.exists_isApproved_of_disk_ne unlogged within changed
  · intro before today r a after e _ s refused
    have unlogged' : (w.atMoment today).journalRoot = none := unlogged
    exact refused.exists_execute unlogged'

/-- A run in which content is streamed and then a request for the file is approved. -/
def streamedThenWritten : List Step :=
  [.act (.stream "b.txt" "draft"), .request plainWriter.today ⟨"b.txt", some "x", none⟩ consent]

private theorem within_streamedThenWritten :
    ∀ x ∈ streamedThenWritten, x.Within plainWriter Action.streamsOrAborts Action.streamsOrAborts := by
  refine List.forall_mem_cons.mpr ⟨rfl, List.forall_mem_singleton.mpr ?_⟩
  exact Approver.actsWithin_scripted (by simp) Edits.none

/-- The second step changes the disk, and it was approved. -/
theorem disk_changes_only_by_approval_streamed :
    plainWriter.journalRoot = none ∧
      (∀ x ∈ streamedThenWritten,
        x.Within plainWriter Action.streamsOrAborts Action.streamsOrAborts) ∧
      ∃ before step after, streamedThenWritten = before ++ step :: after ∧
        step.IsApproved plainWriter ((Session.start ⟨[], []⟩).after plainWriter before) := by
  refine ⟨rfl, within_streamedThenWritten, ?_⟩
  refine (disk_changes_only_by_approval rfl ⟨[], []⟩ within_streamedThenWritten).2.1 ?_
  have written : ((Session.start ⟨[], []⟩).after plainWriter streamedThenWritten).disk.fileAt
      ["b.txt"] = some (Text.Utf8.encode "x") := rfl
  intro same
  rw [same] at written
  exact Option.some_ne_none _ written.symm

end Redline.Write
