import Redline.Proofs.Write.Consent
import Redline.Proofs.Write.Rest

set_option autoImplicit false
set_option relaxedAutoImplicit false

/-!
An abort outlasts the decision. While a request is being finished nothing that is streamed reaches the
preview, so a preview that the approver drops stays closed until it decides, whatever else it does. A
later approval then finds nothing to save: the request fails, and the disk stays as it is.
-/

namespace Redline.Write

open Review (Decision)

variable {w : Writer} {s : Session} {r : Request} {a : Approver} {p : Proposal}

private theorem Action.isBlank_perform_of_finishing {x : Action} (allowed : x.streamsOrAborts)
    (finishing : s.finishing = true) (blank : s.preview.IsBlank) :
    (x.perform w s).2.preview.IsBlank := by
  cases x with
  | wait now => exact blank
  | abort => exact s.preview.isBlank_close
  | stream path content =>
    obtain ⟨t, streamed, -, -, -, kept | ⟨idle, -⟩⟩ := exists_stream w s path content
    · simp only [Action.perform, streamed]
      rwa [kept]
    · simp [finishing] at idle
  | _ => simp [Action.streamsOrAborts, Action.streams] at allowed

private theorem isBlank_performAll_of_finishing {actions : List Action}
    (acts : ∀ x ∈ actions, x.streamsOrAborts) (finishing : s.finishing = true)
    (blank : s.preview.IsBlank) : (performAll w s actions).2.preview.IsBlank := by
  refine (performAll_keeps (P := fun t => t.finishing = true ∧ t.preview.IsBlank) ?_ acts
    ⟨finishing, blank⟩).2
  intro x t allowed ⟨still, closed⟩
  exact ⟨(x.finishing_perform w t).trans still, x.isBlank_perform_of_finishing allowed still closed⟩

private theorem isBlank_performAll_of_abort {actions : List Action}
    (acts : ∀ x ∈ actions, x.streamsOrAborts) (aborts : Action.abort ∈ actions)
    (finishing : s.finishing = true) : (performAll w s actions).2.preview.IsBlank := by
  induction actions generalizing s with
  | nil => simp at aborts
  | cons x actions ih =>
    obtain ⟨first, rest⟩ := List.forall_mem_cons.mp acts
    cases x with
    | abort =>
      exact isBlank_performAll_of_finishing (s := s.abort) rest finishing s.preview.isBlank_close
    | wait now =>
      exact ih (s := { s with now }) rest (by simpa using aborts) finishing
    | stream path content =>
      obtain ⟨t, streamed, -, -, still, -⟩ := exists_stream w s path content
      simp only [performAll, Action.perform, streamed]
      exact ih rest (by simpa using aborts) (still.trans finishing)
    | _ => simp [Action.streamsOrAborts, Action.streams] at first

/-- Whether a request has come to its end with nothing done: no file written, nothing left to show. -/
structure CalledOff (s t : Session) : Prop where
  disk : t.disk = s.disk
  blank : t.preview.IsBlank
  idle : t.finishing = false

/-- How a request ends whose preview has been closed before: an approval fails, and its caller learns. -/
def decidedLate : Decision → Except Failure Response
  | .approve => .error .nothingToSave
  | .reject => .ok rejectedResponse
  | .feedback text => .ok (feedbackResponse text)

private theorem calledOff_turnedDown (unlogged : w.journalRoot = none) (answer : Response)
    (notes : List Log.Record) :
    CalledOff s (wrapUp w r (.ok answer, s.revertPreview.noted notes)).2 where
  disk := (wrapUp_disk_asked unlogged r _).1
  blank := by
    rw [wrapUp, preview_respond]
    exact s.preview.isBlank_close
  idle := finishing_wrapUp w r _

private theorem wrapUp_carryOut_of_isBlank (unlogged : w.journalRoot = none) (blank : s.preview.IsBlank)
    (decision : Decision) :
    (wrapUp w r (carryOut w r p a.edits (.ok decision, s))).1 = decidedLate decision ∧
      CalledOff s (wrapUp w r (carryOut w r p a.edits (.ok decision, s))).2 := by
  cases decision with
  | approve =>
    have refused : s.savePreview w.store = (.error .nothingToSave, s) :=
      Session.savePreview_refused_iff.mpr ⟨.inl blank.path, rfl⟩
    simp only [carryOut, conclude, refused]
    exact ⟨rfl, rfl, blank, rfl⟩
  | reject =>
    refine ⟨?_, calledOff_turnedDown unlogged _ _⟩
    simp only [carryOut, conclude, wrapUp, respond_of_unlogged unlogged]
    rfl
  | feedback text =>
    refine ⟨?_, calledOff_turnedDown unlogged _ _⟩
    simp only [carryOut, conclude, wrapUp, respond_of_unlogged unlogged]
    rfl

/--
In every session without a write log, when the approver of a request aborts at least once while it
streams and lets time pass, in whatever order, and then decides: the disk is as it was, the preview is
closed and no request is being finished. A rejection or feedback is answered as such, and an approval
fails, since there is nothing to save.
-/
theorem abort_outlasts_decision (unlogged : w.journalRoot = none)
    (proposed : propose w s.disk r = .ok p) {actions : List Action}
    (acts : ∀ x ∈ actions, x.streamsOrAborts) (aborts : Action.abort ∈ actions)
    {decision : Decision}
    (decides : a.decide (r.question p) (s.consulting w r p) =
      (.ok decision, (performAll w (s.consulting w r p) actions).2)) :
    (execute w s r a).1 = decidedLate decision ∧ CalledOff s (execute w s r a).2 ∧
      (execute w s r a).2.asked = s.asked ++ [r.question p] := by
  have consults := consults_consulting w s r p
  have blank : (performAll w (s.consulting w r p) actions).2.preview.IsBlank :=
    isBlank_performAll_of_abort acts aborts consults.finishing
  obtain ⟨disk, asked⟩ := performAll_disk_asked (w := w) acts (s.consulting w r p)
  obtain ⟨ends, off⟩ := wrapUp_carryOut_of_isBlank (r := r) (a := a) (p := p) unlogged blank decision
  rw [execute_of_proposed proposed, decides]
  refine ⟨ends, ⟨?_, off.blank, off.idle⟩, ?_⟩
  · rw [off.disk, disk, consults.disk]
  · rw [(wrapUp_disk_asked unlogged r _).2, carryOut_asked, asked, consults.asked]

/-- An approver who aborts between two updates that are streamed, and approves much later. -/
def lateConsent : Approver :=
  Approver.scripted plainWriter (fun _ => ([.stream "b.txt" "more", .abort, .wait 9,
    .stream "b.txt" "and more"], .approve)) Edits.none

/-- The late approval saves nothing, neither what was proposed nor what was streamed before or after. -/
theorem abort_outlasts_decision_approved :
    let s := streamedFor "b.txt"
    let r : Request := ⟨"b.txt", some "x", none⟩
    ∃ p decided, propose plainWriter s.disk r = .ok p ∧
      lateConsent.decide (r.question p) (s.consulting plainWriter r p) = (.ok .approve, decided) ∧
      (execute plainWriter s r lateConsent).1 = .error .nothingToSave ∧
      CalledOff s (execute plainWriter s r lateConsent).2 := by
  intro s r
  have proposed : propose plainWriter s.disk r = .ok ⟨[], "x", "x"⟩ := rfl
  have aborts : Action.abort ∈ [.stream "b.txt" "more", .abort, .wait 9, .stream "b.txt" "and more"] :=
    .tail _ (.head _)
  obtain ⟨ends, off, -⟩ :=
    abort_outlasts_decision (a := lateConsent) rfl proposed (by decide) aborts rfl
  exact ⟨_, _, proposed, rfl, ends, off⟩

end Redline.Write
