import Mathlib.Data.List.Basic
import Redline.Platform
import Redline.Proofs.Write.Journaled
import Redline.Proofs.Write.SavedPath

set_option autoImplicit false
set_option relaxedAutoImplicit false

/-!
The write log accounts for every request. Over a run of requests of a fresh session, each of them is
answered and leaves one object on a line of its own, in the order of the requests, and the statistics over
the last writes count the answers that were given. An approver who takes the log away, or a log whose path
is too long for the system, loses entries, which fails no request.
-/

namespace Redline.Write

open Data (Value)
open Disk (Tree Place Shuns Spells pathParts)
open Metrics (HasLog Statistics folderName folderPlace journalPath journalPlace journalText logText
  member memberIn rate recent)
open Text (terminated)

/-- A request that is finished at a moment by the decision of an approver. -/
structure Call where
  today : Moment
  request : Request
  approver : Approver

namespace Call

def step (c : Call) : Step := .request c.today c.request c.approver

def result (w : Writer) (s : Session) (c : Call) : Except Failure Response :=
  (execute (w.atMoment c.today) s c.request c.approver).1

/-- What the write log is to keep of a request: when it was made and how it was worked through. -/
def entry (w : Writer) (s : Session) (c : Call) : Entry :=
  let came := verdict (process (w.atMoment c.today) { s with finishing := true } c.request c.approver).1
  ⟨c.today, c.request, came.1, came.2⟩

/--
Whether the path of a request shuns the folder of the write log, its approver stands back, and there is
room for what an approval sets off.
-/
structure Respects (w : Writer) (base : Place) (s : Session) (c : Call) : Prop where
  avoids : folderName ∉ pathParts c.request.path
  standsBack : c.approver.StandsBackFrom (w.atMoment c.today) base s c.request
  roomy : c.approver.LeavesRoom (w.atMoment c.today) s c.request

end Call

/-- The requests of a run, each with the session in which it is made. -/
def visits (w : Writer) : Session → List Call → List (Session × Call)
  | _, [] => []
  | s, c :: cs => (s, c) :: visits w (c.step.next w s) cs

private theorem map_snd_visits (w : Writer) (s : Session) (calls : List Call) :
    (visits w s calls).map Prod.snd = calls := by
  induction calls generalizing s with
  | nil => rfl
  | cons c calls ih => rw [visits, List.map_cons, ih]

/-- The entries that the write log is to keep of a run. -/
def entriesOf (w : Writer) (s : Session) (calls : List Call) : List Entry :=
  (visits w s calls).map fun v => v.2.entry w v.1

private theorem length_entriesOf (w : Writer) (s : Session) (calls : List Call) :
    (entriesOf w s calls).length = calls.length := by
  rw [entriesOf, List.length_map, ← List.length_map Prod.snd, map_snd_visits]

/-- A project whose writer keeps the write log in its own root, by a path that is not too long. -/
structure KeepsLog (w : Writer) (base : Place) (root : Text) : Prop where
  store : Spells base w.store.root
  journal : w.journalRoot = some root
  spells : Spells base root
  small : Text.Utf8.size (journalPath root) < Disk.pathSizeLimit

variable {w : Writer} {base : Place} {root : Text} {s : Session} {calls : List Call}
  {entries : List (List (Wording × Value))}

/-! The log. -/

private theorem hasLog_next (keeps : KeepsLog w base root) (fresh : s.preview.path = none)
    (holds : HasLog base s.disk (Text.Utf8.encode (logText entries))) {c : Call}
    (respects : c.Respects w base s) :
    c.result w s = .ok (c.entry w s).answer ∧ (c.step.next w s).preview.path = none ∧
      HasLog base (c.step.next w s).disk
        (Text.Utf8.encode (logText (entries ++ [(c.entry w s).members]))) := by
  have shuns : Shuns base folderName (w.store.resolve c.request.path) :=
    .of_joinPath keeps.store respects.avoids
  have unentered : Unentered base (Text.Utf8.encode (logText entries))
      (process (w.atMoment c.today) { s with finishing := true } c.request c.approver) :=
    unentered_process fresh holds shuns respects.standsBack respects.roomy
  obtain ⟨t, ends, closed, entered⟩ :=
    wrapUp_of_unentered (w := w.atMoment c.today) (r := c.request) keeps.journal keeps.spells keeps.small
      unentered
  rw [← execute_eq_wrapUp] at ends
  have next : c.step.next w s = t := by
    rw [Call.step, Step.next, ends]
  rw [Call.result, ends, next]
  exact ⟨rfl, closed, entered⟩

private theorem hasLog_after (keeps : KeepsLog w base root) (fresh : s.preview.path = none)
    (holds : HasLog base s.disk (Text.Utf8.encode (logText entries)))
    (respect : ∀ v ∈ visits w s calls, v.2.Respects w base v.1) :
    (∀ v ∈ visits w s calls, v.2.result w v.1 = .ok (v.2.entry w v.1).answer) ∧
      HasLog base (s.after w (calls.map Call.step)).disk
        (Text.Utf8.encode (logText (entries ++ (entriesOf w s calls).map Entry.members))) := by
  induction calls generalizing s entries with
  | nil =>
    refine ⟨fun v mem => absurd mem List.not_mem_nil, ?_⟩
    rw [entriesOf, visits, List.map_nil, List.map_nil, List.map_nil, List.append_nil]
    exact holds
  | cons c calls ih =>
    rw [visits] at respect
    obtain ⟨first, rest⟩ := List.forall_mem_cons.mp respect
    obtain ⟨answered, closed, entered⟩ := hasLog_next keeps fresh holds first
    obtain ⟨others, logged⟩ := ih closed entered rest
    refine ⟨?_, ?_⟩
    · rw [visits]
      exact List.forall_mem_cons.mpr ⟨answered, others⟩
    · rw [List.append_assoc] at logged
      exact logged

/-! The statistics. -/

private theorem Status.name_injective : Function.Injective Status.name := by
  intro a b eq
  cases a <;> cases b <;> first | rfl | exact absurd eq (by decide)

private theorem memberIn_status (statuses : List Status) (e : Entry) :
    memberIn "status" (statuses.map Status.name) e.members = decide (e.answer.status ∈ statuses) := by
  have spelled : memberIn "status" (statuses.map Status.name) e.members =
      (statuses.map Status.name).elem e.answer.status.name := rfl
  rw [spelled, List.elem_eq_mem, Bool.eq_iff_iff, decide_eq_true_iff, decide_eq_true_iff,
    List.mem_map_of_injective Status.name_injective]

private theorem memberIn_udiff (e : Entry) :
    memberIn "mode" ["udiff"] e.members = e.request.diff.isSome := by
  rcases e with ⟨today, ⟨path, content, diff⟩, answer, kind⟩
  cases diff <;> rfl

theorem isTrue_omission (e : Entry) :
    (member "has_omission" e.members).isTrue = e.answer.hasOmission := rfl

structure Summarizes (st : Statistics) (entries : List Entry) : Prop where
  total : st.total = entries.length
  successes : st.successRate = rate (entries.countP (·.answer.status = .success)) st.total
  patches : st.patchRate = rate (entries.countP (·.request.diff.isSome)) st.total
  omissions : st.omissionRate = rate (entries.countP (·.answer.hasOmission)) st.total
  rejections : st.rejectionRate =
    rate (entries.countP fun e => e.answer.status = .rejected ∨ e.answer.status = .feedback) st.total
  errors : Metrics.counted st.errorKinds = entries.countP (·.answer.status = .failure)

private theorem exists_summary (entries : List Entry) :
    ∃ st, Metrics.countEntries (entries.map Entry.members) = .ok st ∧ Summarizes st entries := by
  obtain ⟨kinds, counts, errors⟩ := Metrics.exists_countEntries (isEntry_of_mem_members entries)
  have success (e : Entry) : memberIn "status" ["success"] e.members =
      decide (e.answer.status = .success) := (memberIn_status [.success] e).trans (by simp)
  have rejection (e : Entry) : memberIn "status" ["rejected", "feedback"] e.members =
      decide (e.answer.status = .rejected ∨ e.answer.status = .feedback) :=
    (memberIn_status [.rejected, .feedback] e).trans (by simp)
  have failure (e : Entry) : memberIn "status" ["error"] e.members =
      decide (e.answer.status = .failure) := (memberIn_status [.failure] e).trans (by simp)
  refine ⟨_, counts, ?_⟩
  constructor
  · exact List.length_map _
  · simp only [List.countP_map, Function.comp_def, success]
  · simp only [List.countP_map, Function.comp_def, memberIn_udiff]
  · simp only [List.countP_map, Function.comp_def, isTrue_omission]
  · simp only [List.countP_map, Function.comp_def, rejection]
  · rw [errors]
    simp only [List.countP_map, Function.comp_def, failure]

/-! Runs from the first request on. -/

/-- Whether the write log of a project consists of some lines, each of which is ended. -/
structure HasLines (d : Tree) (root : Text) (lines : List Line) : Prop where
  text : journalText d root = (terminated lines, none)
  free : ∀ l ∈ lines, '\n' ∉ l

private theorem HasLines.lines_eq {d : Tree} {lines : List Line} (has : HasLines d root lines) :
    Text.lines (journalText d root).1 = lines ++ [[]] := by
  rw [has.text]
  exact Text.lines_terminated has.free

/--
A run of a fresh session in a project that is there is entered whole, if its requests shun the folder of
the write log, its approvers stand back and there is room for its calls: each request is answered, the log
has one line for each, which is read as the object with what is to be kept, and the statistics over the
last writes are their rates and counts.
-/
theorem write_log_accounts (keeps : KeepsLog w base root)
    (walk : s.disk.enterAll [] base.reverse = .ok base)
    (folder : s.disk.node? (folderPlace base) = none ∨
      s.disk.node? (folderPlace base) = some .directory)
    (missing : s.disk.node? (journalPlace base) = none) (fresh : s.preview.path = none)
    (respect : ∀ v ∈ visits w s calls, v.2.Respects w base v.1) :
    let d := (s.after w (calls.map Call.step)).disk
    (∀ v ∈ visits w s calls, v.2.result w v.1 = .ok (v.2.entry w v.1).answer) ∧
      (∃ lines, HasLines d root lines ∧ lines.length = calls.length ∧
        lines.map Data.Json.read = (entriesOf w s calls).map fun e => .ok (.map e.members)) ∧
      ∀ last : Int, 1 ≤ last → ∃ st, Metrics.statistics d root last = .ok st ∧
        st.total = min calls.length last.toNat ∧
        Summarizes st (recent last (entriesOf w s calls)) := by
  intro d
  have none : HasLog base s.disk (Text.Utf8.encode (logText [])) := ⟨walk, .inl ⟨folder, missing, rfl⟩⟩
  obtain ⟨answered, holds⟩ := hasLog_after keeps fresh none respect
  rw [List.nil_append] at holds
  have valid := isEntry_of_mem_members (entriesOf w s calls)
  have length := length_entriesOf w s calls
  have lines : HasLines d root (Metrics.objectLines ((entriesOf w s calls).map Entry.members)) :=
    ⟨holds.journalText_logText valid keeps.spells keeps.small, fun l mem =>
      Metrics.feed_not_mem_of_isPrintable (Metrics.isPrintable_of_mem_objectLines valid mem)⟩
  refine ⟨answered, ⟨_, lines, ?_, ?_⟩, ?_⟩
  · rw [Metrics.objectLines, List.length_map, List.length_map, length]
  · rw [Metrics.map_read_objectLines valid, List.map_map]
    rfl
  · intro last positive
    obtain ⟨st, counts, summary⟩ := exists_summary (recent last (entriesOf w s calls))
    have window : recent last ((entriesOf w s calls).map Entry.members) =
        (recent last (entriesOf w s calls)).map Entry.members := by
      rw [recent, recent, List.length_map, List.map_drop]
    refine ⟨st, ?_, ?_, summary⟩
    · rw [holds.statistics_eq valid keeps.spells keeps.small positive, window, counts]
    · rw [summary.total, Metrics.length_recent, length]

def writerAt (project : Place) : Writer :=
  { plainWriter with
    store := ⟨Tree.placePath project, 980⟩, journalRoot := some (Tree.placePath project) }

private theorem keepsLog_writerAt {project : Place} (valid : ∀ name ∈ project, Disk.IsName name)
    (small : Text.Utf8.size (journalPath (Tree.placePath project)) < Disk.pathSizeLimit) :
    KeepsLog (writerAt project) project (Tree.placePath project) :=
  ⟨Disk.spells_placePath valid, rfl, Disk.spells_placePath valid, small⟩

def unattended : Approver := .atSurface Platform.loop .unattended [] []

private theorem leavesRoom_unattended {r : Request} (unchecked : w.checkSyntax = false)
    (roomy : w.store.HasRoom s.disk r.path) : unattended.LeavesRoom w s r := by
  rintro p t - decided
  have disk : t.disk = s.disk := by
    rw [← (consults_consulting w s r p).disk, ← congrArg (fun x => x.2.disk) decided]
    rfl
  exact ⟨disk ▸ roomy, fun checks => by simp [unchecked] at checks⟩

def nameless (a : Approver) : Call := ⟨plainWriter.today, ⟨[], none, none⟩, a⟩

def novel (a : Approver) : Call := ⟨plainWriter.today, ⟨"b.txt", some "y", none⟩, a⟩

/-- Of two requests, one is saved and one names no file. -/
theorem write_log_accounts_two : ∃ st,
    Metrics.statistics ((Session.start ⟨[], []⟩).after (writerAt [])
      ([novel unattended, nameless unattended].map Call.step)).disk "/" 50 = .ok st ∧
    st.total = 2 ∧ st.successRate = rate 1 2 ∧ Metrics.counted st.errorKinds = 1 := by
  have keeps : KeepsLog (writerAt []) [] "/" := keepsLog_writerAt (by simp) (by decide)
  have respect : ∀ v ∈ visits (writerAt []) (.start ⟨[], []⟩) [novel unattended, nameless unattended],
      v.2.Respects (writerAt []) [] v.1 := by
    intro v mem
    simp only [visits, List.mem_cons, List.not_mem_nil, or_false] at mem
    rcases mem with rfl | rfl
    · exact ⟨by decide, fun p _ => Approver.standsBack_unattended [] _ [] [] _ _,
        leavesRoom_unattended rfl (by unfold Store.HasRoom Tree.HasRoom; decide)⟩
    · exact ⟨by decide, fun p _ => Approver.standsBack_unattended [] _ [] [] _ _, by
        rintro p t ⟨⟩⟩
  obtain ⟨-, -, statistics⟩ := write_log_accounts keeps rfl (.inl rfl) rfl rfl respect
  obtain ⟨st, counted, total, summary⟩ := statistics 50 (by decide)
  have two : st.total = 2 := total
  refine ⟨st, counted, two, ?_, ?_⟩
  · rw [summary.successes, two]
    rfl
  · rw [summary.errors]
    decide +kernel

/-- An approver who takes the write log away and then turns the request down. -/
def remover : Approver :=
  .scripted (writerAt []) (fun _ => ([.remove ".udiff_writer/write_metrics.jsonl"], .reject)) Edits.none

/-- An approver who puts a file in the place of a project and then turns the request down. -/
def usurper : Approver where
  decide _ s := (.ok .reject, { s with disk := ⟨[], [(["w".toList], .file [])]⟩ })
  edits := Edits.none

/-- A place whose path is short enough for the system, unlike that of a write log below it. -/
def deepPlace : Place := List.replicate 240 'a' :: List.replicate 15 (List.replicate 255 'a')

def deepDisk : Tree := ⟨[], (List.range 16).map fun n => (deepPlace.drop n, .directory)⟩

private theorem hasLog_deepDisk : HasLog deepPlace deepDisk [] :=
  ⟨by decide +kernel, .inl ⟨.inl (by decide +kernel), by decide +kernel, rfl⟩⟩

private theorem enter_of_long {r : Request} {answer : Response} {errorKind : Text}
    {content : Text.Utf8.Bytes} (logs : w.journalRoot = some (Tree.placePath base))
    (holds : HasLog base s.disk content) (valid : ∀ name ∈ base, Disk.IsName name)
    (fits : Text.Utf8.size (Metrics.folderPath (Tree.placePath base)) < Disk.pathSizeLimit)
    (long : Disk.pathSizeLimit ≤ Text.Utf8.size (journalPath (Tree.placePath base))) :
    (enter w s r answer errorKind).1 = .ok () := by
  obtain ⟨notes, longer, records⟩ := holds.exists_record_of_long w.journalRoom
    (Disk.spells_placePath valid) fits long w.today (journalEntry r answer errorKind)
  unfold enter
  rw [logs]
  simp only [records]

private theorem execute_of_long {content : Text.Utf8.Bytes} (holds : HasLog base s.disk content)
    (valid : ∀ name ∈ base, Disk.IsName name)
    (fits : Text.Utf8.size (Metrics.folderPath (Tree.placePath base)) < Disk.pathSizeLimit)
    (long : Disk.pathSizeLimit ≤ Text.Utf8.size (journalPath (Tree.placePath base))) :
    (execute (writerAt base) s (nameless unattended).request unattended).1 =
      .ok (failedResponse .missingPath) := by
  rw [execute_of_refused (.noPath rfl), respond_eq]
  have given : HasLog base (givenUp ({ s with finishing := true }.noted [])
      (nameless unattended).request .missingPath).disk content := holds
  exact (congrArg (Except.map _)
    (enter_of_long (w := writerAt base) rfl given valid fits long)).trans rfl

def narrowWriter : Writer := { writerAt [] with store := ⟨"/", 4⟩ }

/-- A writer whose parser finds an error deeper down than there is room for calls in each other. -/
def delvingWriter : Writer :=
  { writerAt [] with checkSyntax := true, parsers := fun _ _ => .chain 1000, searchRoom := 1000 }

/--
Entries get lost. Two requests leave a single line if the approver of the second takes the log of the first
away, and a request leaves none if its approver puts a file in the place of the project, if a file is there
from the start or if the path of the log is too long. Each of them is answered; a request that needs more
calls in each other than there is room for is not.
-/
theorem write_log_loses_entries :
    ((∀ q s, (remover.decide q s).2.preview = s.preview) ∧
      (visits (writerAt []) (.start ⟨[], []⟩) [nameless remover, novel remover]).map
          (fun v => v.2.result (writerAt []) v.1) =
        [.ok (failedResponse .missingPath), .ok rejectedResponse] ∧
      ¬ ∃ lines, HasLines ((Session.start ⟨[], []⟩).after (writerAt [])
        ([nameless remover, novel remover].map Call.step)).disk "/" lines ∧ lines.length = 2) ∧
    (∃ t, execute (writerAt ["w".toList]) (.start ⟨[], [(["w".toList], .directory)]⟩)
          (novel usurper).request usurper = (.ok rejectedResponse, t) ∧
        ¬ ∃ lines, HasLines t.disk "/w" lines ∧ lines.length = 1) ∧
    (∃ t, execute (writerAt ["w".toList]) (.start ⟨[], [(["w".toList], .file [])]⟩)
          (nameless unattended).request unattended = (.ok (failedResponse .missingPath), t) ∧
        ¬ ∃ lines, HasLines t.disk "/w" lines ∧ lines.length = 1) ∧
    (deepDisk.enterAll [] deepPlace.reverse = .ok deepPlace ∧
      deepDisk.node? (folderPlace deepPlace) = none ∧
      (execute (writerAt deepPlace) (.start deepDisk) (nameless unattended).request unattended).1 =
        .ok (failedResponse .missingPath) ∧
      ¬ ∃ lines, HasLines (execute (writerAt deepPlace) (.start deepDisk)
        (nameless unattended).request unattended).2.disk (Tree.placePath deepPlace) lines ∧
          lines.length = 1) ∧
    (execute narrowWriter (.start ⟨[], []⟩) ⟨"a/b/c/d/e/f/g", some "y", none⟩ unattended).1 =
        .error (.disk .tooDeep) ∧
      (execute delvingWriter (.start ⟨[], []⟩) ⟨"a.py", some "y", none⟩ unattended).1 =
        .error (.syntaxCheck .tooDeep) := by
  have counted {d : Tree} {root : Text} {n : Nat} (fewer : (Text.lines (journalText d root).1).length = n) :
      ¬ ∃ lines, HasLines d root lines ∧ lines.length = n := by
    rintro ⟨lines, has, rfl⟩
    rw [has.lines_eq, List.length_append] at fewer
    simp at fewer
  refine ⟨⟨?_, rfl, counted (by decide +kernel)⟩, ⟨_, rfl, counted (by decide +kernel)⟩,
    ⟨_, rfl, counted (by decide +kernel)⟩,
    ⟨by decide +kernel, by decide +kernel, ?_, counted ?_⟩, ?_, ?_⟩
  · intro q s
    rw [remover, Approver.decide_scripted]
    simp only [performAll, Action.perform]
    cases (writerAt []).store.remove s.disk ".udiff_writer/write_metrics.jsonl" <;> rfl
  · exact execute_of_long (s := .start deepDisk) hasLog_deepDisk (by decide +kernel)
      (by decide +kernel) (by decide +kernel)
  · rw [Metrics.journalText_of_long (by decide +kernel)]
    rfl
  · decide +kernel
  · decide +kernel

end Redline.Write
