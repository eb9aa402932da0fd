import Redline.Command.Run
import Redline.Proofs.Omission.Findings
import Redline.Proofs.Text.Utf8
import Redline.Proofs.Write.SavedPath

set_option autoImplicit false
set_option relaxedAutoImplicit false

/-!
The scanned text. The omission report of a write is a scan of the text as the request means it: of a
changed file that is the text that is saved, of a new file it is the content with its framing, without
which the content is saved. So the line numbers of a report on a new file count the framing in.
-/

namespace Redline.Write

open Command (Surroundings Performance performCheck readSource rulesOf)
open Disk (Tree)
open Omission (Report detect)

/-- Whether an approver who approves leaves the preview as it is. -/
def Approver.KeepsPreview (a : Approver) : Prop :=
  ∀ q s s', a.decide q s = (.ok .approve, s') → s'.preview = s.preview

private theorem Approver.IsQuiet.keepsPreview {a : Approver} (quiet : a.IsQuiet) : a.KeepsPreview :=
  quiet.preview

def checkSays (disk : Tree) (name : Text) (report : Report) : Performance :=
  if report.hasOmission then .saying disk 1 (report.show name) report.notes
  else .saying disk 0 "  No omissions detected.\n" report.notes

structure IsScan (rules : Omission.Rules) (old candidate : Text) (report : Report) : Prop where
  eq_detect : report = detect rules old candidate
  /-- The findings name lines of the candidate. -/
  named : ∀ f ∈ report.findings, ∃ i, f.lineNumber = i + 1 ∧ candidate.lines[i]? = some f.line
  /-- The report is what `check` says of files with these texts. -/
  checked : ∀ (around : Surroundings) settings first second rest rest',
    rulesOf settings = rules → readSource around.disk around.input first = .ok (old, rest) →
    readSource around.disk rest second = .ok (candidate, rest') →
      performCheck around settings first second = checkSays around.disk second.name report

private theorem isScan_detect (rules : Omission.Rules) (old candidate : Text) :
    IsScan rules old candidate (detect rules old candidate) where
  eq_detect := rfl
  named _ mem := Omission.exists_line_of_mem_findings mem
  checked around settings first second rest rest' same old new := by
    subst same
    simp only [performCheck, old, new, checkSays]

/-- The three texts of a write: the old one, the one that the request means and the one to save. -/
structure IsMeant (w : Writer) (disk : Tree) (r : Request) (old intended new : Text) : Prop where
  changed : w.store.has disk r.path = true → w.store.read disk r.path = .ok old ∧ intended = new
  created : w.store.has disk r.path = false →
    old = [] ∧ r.content = some intended ∧ new = unframe intended

variable {w : Writer} {s s' : Session} {r : Request} {a : Approver} {answer : Response}

private theorem isMeant_of_propose {disk : Tree} {p : Proposal} (proposed : propose w disk r = .ok p) :
    IsMeant w disk r p.old p.intended p.new := by
  unfold propose at proposed
  split at proposed
  · simp at proposed
  · split at proposed
    · rename_i has
      refine ⟨fun _ => ?_, fun none => absurd has (by simp [none])⟩
      unfold proposeChange at proposed
      split at proposed
      · simp at proposed
      · split at proposed
        · simp at proposed
        · rename_i read
          split at proposed
          · simp at proposed
          · obtain rfl := Except.ok.inj proposed
            exact ⟨read, rfl⟩
    · rename_i has
      refine ⟨fun some => absurd some has, fun _ => ?_⟩
      unfold proposeNew at proposed
      split at proposed
      · simp at proposed
      · rename_i content
        obtain rfl := Except.ok.inj proposed
        exact ⟨rfl, content, rfl⟩

private theorem omission_answerSaved {path : Text} {p : Proposal} {edits : Edits} {saved : Saved}
    (unedited : edits.userEdits.getD [] = []) (plain : saved.userEdits = none)
    (answered : (answerSaved w s path p (edits.amend saved)).1 = .ok answer) :
    answer.omission = some (detect w.rules p.old p.intended) := by
  have reported : (edits.amend saved).userEdits = edits.userEdits := by simp [Edits.amend, plain]
  unfold answerSaved at answered
  split at answered
  · rename_i c more edited
    rw [reported] at edited
    simp [edited] at unedited
  · simp only at answered
    split at answered
    · simp at answered
    · exact Except.ok.inj answered ▸ rfl

private theorem Store.read_of_write {store : Store} {d d' : Tree} {path content : Text}
    (wrote : store.write d path content = (.ok (), d')) : store.read d' path = .ok content := by
  obtain ⟨q, placed, file, -⟩ := Store.write_eq_ok wrote
  have bytes := Tree.readFile_eq_ok_iff.mpr ⟨q, placed, file⟩
  rw [Store.read, bytes]
  simp only [Text.Utf8.decode_encode, mapError_ok]

private theorem Writer.LogsElsewhere.read_entry {d : Tree} {path : Text} {errorKind : Text}
    (elsewhere : w.LogsElsewhere d path) (after : d = (enter w s r answer errorKind).2.disk)
    {content : Text} (read : w.store.read s.disk path = .ok content) :
    w.store.read d path = .ok content := by
  obtain ⟨grows, logged⟩ := enter_disk_frame w s r answer errorKind
  rw [← after] at grows logged
  unfold Store.read at read ⊢
  cases before : s.disk.readFile (w.store.resolve path) with
  | error e => simp [before] at read
  | ok bytes =>
    obtain ⟨q, placed, file⟩ := Tree.readFile_eq_ok_iff.mp before
    have leads := grows.place? placed
    have kept : d.fileAt q = s.disk.fileAt q :=
      Decidable.byContradiction fun changed => elsewhere q leads (logged q changed)
    rw [Tree.readFile_eq_ok_iff.mpr ⟨q, leads, kept.trans file⟩]
    rwa [before] at read

/--
A write that succeeds from a closed preview, with no edits by the user, reports the scan of the text that
the request means. The disk `saved`, before the entry in the write log, has the new text in the file; so
has the disk after the entry, unless the file is the write log.
-/
theorem report_scans_intended (closed : s.preview.path = none) (keeps : a.KeepsPreview)
    (unedited : a.edits.userEdits.getD [] = []) (ran : execute w s r a = (.ok answer, s'))
    (success : answer.status = .success) :
    ∃ report old intended new saved, answer.omission = some report ∧
      IsScan w.rules old intended report ∧ IsMeant w s.disk r old intended new ∧
      w.store.read saved r.path = .ok new ∧
      s'.disk = (enter w { s with disk := saved } r answer []).2.disk ∧
      (w.LogsElsewhere s'.disk r.path → w.store.read s'.disk r.path = .ok new) := by
  obtain ⟨p, shown, decided, kept, done, passes, disk, -, answered⟩ := execute_success ran success
  obtain ⟨path, openFor, pending, plain, wrote, -⟩ := Session.savePreview_eq_ok passes.saves
  have unchanged := keeps _ _ _ passes.decides
  -- The preview was opened for the request, since it was closed before.
  obtain rfl : r.path = path := by
    have shownFor : shown.preview.path = some r.path := by simpa [closed] using passes.path
    rw [unchanged] at openFor
    exact Option.some.inj (shownFor.symm.trans openFor)
  have content : p.new = kept.content := by
    rw [unchanged] at pending
    exact Option.some.inj (passes.pending.symm.trans pending)
  have read : w.store.read done.disk r.path = .ok p.new := by
    rw [content]
    exact Store.read_of_write wrote
  have logged : s'.disk = (enter w { s with disk := done.disk } r answer []).2.disk := by
    obtain ⟨-, -, like⟩ := enter_frame w r answer [] { s with disk := done.disk }
    rw [disk, (like done rfl).2]
  refine ⟨detect w.rules p.old p.intended, p.old, p.intended, p.new, done.disk, ?_,
    isScan_detect _ _ _, isMeant_of_propose passes.proposed, read, logged, ?_⟩
  · exact omission_answerSaved unedited plain answered
  · intro elsewhere
    exact elsewhere.read_entry logged read

/-- A new file whose content is in a fence and consists of an ellipsis. -/
def fencedRequest : Request := ⟨"n.txt", some (fence ++ "\n...\n" ++ fence), none⟩

/-- The report on a fenced ellipsis is the scan of the three lines, fences and all. -/
theorem report_scans_intended_fenced :
    ∃ answer s', execute plainWriter (.start ⟨[], []⟩) fencedRequest consent = (.ok answer, s') ∧
      answer.status = .success ∧
      ∃ report, answer.omission = some report ∧
        IsScan Omission.defaultRules [] (fence ++ "\n...\n" ++ fence) report := by
  obtain ⟨answer, s', ran, success⟩ : ∃ answer s',
      execute plainWriter (.start ⟨[], []⟩) fencedRequest consent = (.ok answer, s') ∧
        answer.status = .success := ⟨_, _, rfl, rfl⟩
  obtain ⟨report, old, intended, new, -, reported, scan, meant, -⟩ :=
    report_scans_intended rfl isQuiet_consent.keepsPreview rfl ran success
  obtain ⟨rfl, content, -⟩ := meant.created rfl
  obtain rfl := Option.some.inj content
  exact ⟨answer, s', ran, success, report, reported, scan⟩

/-- The saved file has one line, on which the report has nothing to say; its finding is on line two. -/
theorem report_not_on_saved :
    ∃ answer s' report, execute plainWriter (.start ⟨[], []⟩) fencedRequest consent =
        (.ok answer, s') ∧ answer.status = .success ∧ answer.omission = some report ∧
      plainWriter.store.read s'.disk "n.txt" = .ok "..." ∧
      report ≠ detect plainWriter.rules [] "..." ∧
      ∃ f ∈ report.findings, f.lineNumber = 2 ∧ (Text.lines "...").length = 1 := by
  refine ⟨_, _, _, rfl, rfl, rfl, rfl, by decide, ⟨"...", "...", 2⟩, ?_, rfl, rfl⟩
  decide

end Redline.Write
