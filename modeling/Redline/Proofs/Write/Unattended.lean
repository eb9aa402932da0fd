import Redline.Proofs.Write.Journaled
import Redline.Proofs.Write.Replacing
import Redline.Proofs.Write.Runs
import Redline.Proofs.Write.SavedPath

set_option autoImplicit false
set_option relaxedAutoImplicit false

/-!
Requests that nobody refuses. When the approver approves whatever is proposed, the first request of a
session ends as its save ends, and a request without a proposal fails; the disk is then the one that the
save left, but for the write log. So a diff is saved exactly if it applies to the file of its path and the
place beside that file can be named.
-/

namespace Redline.Write

open Disk (Tree Fits isAbsolute joinPath pathParts)

/-- An approver who approves every proposal and leaves disk and preview alone. -/
def Approver.Assents (a : Approver) : Prop :=
  ∀ q s, ∃ t, a.decide q s = (.ok .approve, t) ∧ t.disk = s.disk ∧ t.preview = s.preview

theorem Approver.assents_unattended (loop : Review.Loop) (input : List Line)
    (events : List Review.Event) : (Approver.atSurface loop .unattended input events).Assents :=
  fun _ _ => ⟨_, rfl, rfl, rfl⟩

/-- Whether nothing has become of a disk but entries in the write log. -/
structure OnlyLogs (w : Writer) (d d' : Tree) : Prop where
  grows : d.Grows d'
  logged : ∀ p, d'.fileAt p ≠ d.fileAt p → w.journalPlace? d' = some p

/-- Whether an entry that a writer makes in its write log, if it keeps one, comes to its end on a disk. -/
structure Writer.Enters (w : Writer) (root : Text) (disk : Tree) : Prop where
  logs : w.LogsAt root
  clean : Disk.holdsNull root = false
  roomy : w.HasLogRoom disk

variable {w : Writer} {d d' : Tree} {r : Request} {a : Approver} {p : Proposal} {e : Failure}
  {root : Text}

private theorem Writer.Enters.exists_respond {s : Session} (enters : w.Enters root s.disk) (r : Request)
    (answer : Response) (errorKind : Text) :
    ∃ t, respond w s r answer errorKind = (.ok answer, t) ∧ OnlyLogs w s.disk t.disk := by
  obtain ⟨grows, logged⟩ := enter_disk_frame w s r answer errorKind
  refine ⟨{ (enter w s r answer errorKind).2 with finishing := false }, ?_, ⟨grows, logged⟩⟩
  rw [respond_eq, enter_of_hasLogRoom enters.logs enters.clean enters.roomy]
  rfl

private theorem Writer.Enters.exists_wrapUp {s : Session} (enters : w.Enters root s.disk) (r : Request)
    (answered : e.isAnswered = true) :
    ∃ t, wrapUp w r (.error e, s) = (.ok (failedResponse e), t) ∧ OnlyLogs w s.disk t.disk := by
  simp only [wrapUp, answered, if_true]
  have given : w.Enters root (givenUp s r e).disk := enters
  exact given.exists_respond r (failedResponse e) e.kind

private theorem propose_diff_eq_ok_iff {path diff : Text} :
    propose w d ⟨path, none, some diff⟩ = .ok p ↔ path ≠ [] ∧ ∃ bytes old new,
      d.readFile (w.store.resolve path) = .ok bytes ∧ Text.Utf8.decode bytes = .ok old ∧
        Diff.apply w.dedupe old (.text diff) = .ok new ∧ p = ⟨old, new, new⟩ := by
  have file : w.store.has d path = true ↔ ∃ bytes, d.readFile (w.store.resolve path) = .ok bytes :=
    Tree.isFile_iff
  constructor
  · intro proposed
    unfold propose at proposed
    split at proposed
    · simp at proposed
    · rename_i named
      split at proposed
      · rename_i has
        obtain ⟨bytes, read⟩ := file.mp has
        simp only [proposeChange, Store.read, read] at proposed
        cases decoded : Text.Utf8.decode bytes with
        | error fault => simp [decoded] at proposed
        | ok old =>
          simp only [decoded, mapError_ok] at proposed
          split at proposed
          · simp at proposed
          · rename_i new applied
            exact ⟨by simpa using named, bytes, old, new, read, decoded, applied,
              (Except.ok.inj proposed).symm⟩
      · simp [proposeNew] at proposed
  · rintro ⟨named, bytes, old, new, read, decoded, applied, rfl⟩
    have has := file.mpr ⟨bytes, read⟩
    simp [propose, named, has, proposeChange, Store.read, read, decoded, applied]

private theorem execute_start_of_refused (enters : w.Enters root d) (refused : Refused w d r e)
    (a : Approver) :
    ∃ t, execute w (.start d) r a = (.ok (failedResponse e), t) ∧ OnlyLogs w d t.disk := by
  rw [execute_eq_wrapUp, process_of_refused (s := .start d) refused a]
  exact enters.exists_wrapUp (s := { Session.start d with finishing := true }.noted _) r
    refused.isAnswered

private theorem exists_save (assents : a.Assents) (proposed : propose w d r = .ok p) :
    ∃ t : Session, t.disk = d ∧ t.preview.path = some r.path ∧ t.preview.pending = some p.new ∧
      execute w (.start d) r a = wrapUp w r (conclude w t r.path p a.edits .approve) := by
  have consults := consults_consulting w (.start d) r p
  obtain ⟨t, decided, disk, preview⟩ := assents (r.question p) ((Session.start d).consulting w r p)
  refine ⟨t, disk.trans consults.disk, ?_, ?_, ?_⟩
  · rw [preview, consults.path]
    rfl
  · rw [preview, consults.pending]
  · rw [execute_of_proposed (s := .start d) proposed, decided]
    rfl

private theorem execute_start_of_saved (enters : w.Enters root d') (assents : a.Assents)
    (proposed : propose w d r = .ok p) (tells : w.Tells r.path (a.edits.content.getD p.new))
    (wrote : w.store.write d r.path p.new = (.ok (), d')) :
    ∃ answer t, execute w (.start d) r a = (.ok answer, t) ∧ answer.status = .success ∧
      OnlyLogs w d' t.disk := by
  obtain ⟨t, rfl, openFor, pending, executed⟩ := exists_save assents proposed
  have saves : ∃ closed, t.savePreview w.store = (.ok ⟨p.new, none⟩, closed) ∧ closed.disk = d' := by
    simp only [Session.savePreview, Preview.toSave, openFor, pending, wrote]
    exact ⟨_, rfl, rfl⟩
  obtain ⟨closed, saves, rfl⟩ := saves
  have checks : w.Tells r.path (a.edits.amend ⟨p.new, none⟩).content := tells
  obtain ⟨answer, u, answers⟩ := exists_answerSaved checks closed p
  obtain ⟨success, disk, -⟩ := answerSaved_frame w closed r.path p (a.edits.amend ⟨p.new, none⟩)
  rw [answers] at success disk
  rw [← show u.disk = closed.disk from disk] at enters ⊢
  obtain ⟨v, responds, logs⟩ := enters.exists_respond r answer []
  refine ⟨answer, v, ?_, success answer rfl, logs⟩
  rw [executed, conclude, saves]
  simp only [answers, wrapUp, responds]

private theorem execute_start_of_unsaved (enters : w.Enters root d') (assents : a.Assents)
    (proposed : propose w d r = .ok p) {e : Disk.Failure}
    (answered : (Failure.disk e).isAnswered = true)
    (failed : w.store.write d r.path p.new = (.error e, d')) :
    ∃ t, execute w (.start d) r a = (.ok (failedResponse (.disk e)), t) ∧ OnlyLogs w d' t.disk := by
  obtain ⟨t, rfl, openFor, pending, executed⟩ := exists_save assents proposed
  have fails : ∃ u, t.savePreview w.store = (.error (.disk e), u) ∧ u.disk = d' := by
    simp only [Session.savePreview, Preview.toSave, openFor, pending, failed]
    exact ⟨_, rfl, rfl⟩
  obtain ⟨u, fails, rfl⟩ := fails
  rw [executed, conclude, fails]
  exact enters.exists_wrapUp r answered

/--
Whether a diff makes a text of the file of a path, which can then be saved: the path beside the file is
short enough.
-/
structure Yields (d : Tree) (dedupe : Bool) (path diff result : Text) : Prop where
  applies : ∃ bytes old, d.readFile path = .ok bytes ∧ Text.Utf8.decode bytes = .ok old ∧
    Diff.apply dedupe old (.text diff) = .ok result
  fits : Fits (joinPath d.herePath path ++ besideSuffix)

/--
How a request is made for a file below the working directory: its path leads down from there, the place
beside it is free, and the disk has grown to `d'` without a change to the file and with room for an entry.
-/
structure Finds (w : Writer) (d d' : Tree) (path : Text) : Prop where
  root : w.store.root = d.herePath
  sound : d.IsSound
  grows : d.Grows d'
  kept : ∀ q, d'.place? path = some q → d'.fileAt q = d.fileAt q
  relative : isAbsolute path = false
  noUps : ['.', '.'] ∉ pathParts path
  clear : d'.exists? (path ++ besideSuffix) = false
  logs : w.LogsAt d.herePath
  roomy : w.HasLogRoom d'

namespace Finds

variable {path diff result : Text}

private theorem resolve_eq (finds : Finds w d d' path) : w.store.resolve path = joinPath d.herePath path := by
  rw [Store.resolve, finds.root]

private theorem enters (finds : Finds w d d' path) : w.Enters d.herePath d' :=
  ⟨finds.logs, Disk.holdsNull_placePath finds.sound.names, finds.roomy⟩

private theorem enters_of_grows (finds : Finds w d d' path) {d'' : Tree} (grows : d'.Grows d'')
    (small : Text.Utf8.size (joinPath d.herePath path) < Disk.pathSizeLimit) :
    w.Enters d.herePath d'' := by
  obtain ⟨between, joined, -⟩ := Disk.exists_joinPath d.herePath finds.relative
  rw [joined, List.append_assoc] at small
  have leads : d.LeadsTo d.herePath d.here := by
    refine ⟨List.cons_ne_nil _ _, finds.enters.clean, Nat.lt_of_le_of_lt
      (Text.Utf8.size_le_of_beginning (List.prefix_append _ _)) small, ?_⟩
    rw [Tree.herePath, Disk.pathParts_placePath finds.sound.names]
    exact finds.sound.isHome.walk
  refine ⟨finds.logs, finds.enters.clean, fun root logged => ?_⟩
  rw [finds.logs root logged]
  exact ((leads.grows finds.grows).grows grows).hasRoom Metrics.isName_folderName w.journalRoom

private theorem propose_eq_ok_iff (finds : Finds w d d' path) (nonempty : path ≠ []) :
    propose w d' ⟨path, none, some diff⟩ = .ok p ↔
      Text.Utf8.size (joinPath d.herePath path) < Disk.pathSizeLimit ∧ ∃ bytes old new,
        d.readFile path = .ok bytes ∧ Text.Utf8.decode bytes = .ok old ∧
          Diff.apply w.dedupe old (.text diff) = .ok new ∧ p = ⟨old, new, new⟩ := by
  simp only [propose_diff_eq_ok_iff, finds.resolve_eq, finds.sound.readFile_joinPath_eq_ok_iff
    finds.grows finds.relative nonempty finds.noUps finds.kept, and_assoc, exists_and_left]
  exact and_iff_right nonempty

/-- The path leads to one place all the time, so that is where a text is saved. -/
theorem eq_of_resolve (finds : Finds w d d' path) {d'' : Tree} (grows : d'.Grows d'') {p q : Disk.Place}
    (resolved : d''.place? (w.store.resolve path) = some p) (placed : d'.place? path = some q) :
    p = q := by
  have whole := finds.grows.trans grows
  have home := whole.isHome finds.sound.isHome
  rw [finds.resolve_eq, ← whole.herePath] at resolved
  have direct := ((home.place?_joinPath_eq_some_iff finds.relative (Tree.path_ne_nil placed)).mp resolved).2
  exact Option.some.inj (direct.symm.trans (grows.place? placed))

theorem free (finds : Finds w d d' path) {q : Disk.Place} (placed : d'.place? path = some q)
    (fits : Fits (joinPath d.herePath path ++ besideSuffix)) :
    d'.node? (q.lengthen besideSuffix) = none := by
  have nonempty := Tree.path_ne_nil placed
  have relative : isAbsolute (path ++ besideSuffix) = false :=
    (Disk.isAbsolute_of_beginning (List.prefix_append path _) nonempty).symm.trans finds.relative
  have visible : path ++ besideSuffix ≠ [] := List.append_ne_nil_of_left_ne_nil nonempty _
  have unfinished : Text.endsWith (path ++ besideSuffix) ['/'] = false := by
    rw [Text.endsWith_append_singleton (by decide)]
    rfl
  rw [Disk.joinPath_append _ finds.relative nonempty] at fits
  obtain ⟨parent, name, lengthened, led⟩ :=
    target_beside placed (fits.of_joinPath relative visible unfinished)
  rw [lengthened]
  exact Tree.node?_of_not_exists finds.clear (holdsNull_beside placed) led

private theorem exists_write (finds : Finds w d d' path) (nonempty : path ≠ []) {bytes : Text.Utf8.Bytes}
    (read : d.readFile path = .ok bytes)
    (small : Text.Utf8.size (joinPath d.herePath path) < Disk.pathSizeLimit) (text : Text) :
    (Fits (joinPath d.herePath path ++ besideSuffix) →
      ∃ d'', w.store.write d' path text = (.ok (), d'')) ∧
    (¬ Fits (joinPath d.herePath path ++ besideSuffix) →
      w.store.write d' path text = (.error (.system .longName (w.store.beside path)), d')) := by
  have absolute : isAbsolute (w.store.resolve path) = true := by
    rw [finds.resolve_eq]
    exact Disk.isAbsolute_joinPath finds.relative rfl
  obtain ⟨q, placed, file⟩ := Tree.readFile_eq_ok_iff.mp read
  have placed' := finds.grows.place? placed
  have resolved : d'.place? (w.store.resolve path) = some q := by
    have home := finds.grows.isHome finds.sound.isHome
    rw [finds.resolve_eq, ← finds.grows.herePath]
    exact (home.place?_joinPath_eq_some_iff finds.relative nonempty).mpr
      ⟨finds.grows.herePath ▸ small, placed'⟩
  have beside : w.store.beside path = joinPath d.herePath path ++ besideSuffix := by
    rw [Store.beside, finds.resolve_eq]
  have there : d'.fileAt q ≠ none := by
    rw [finds.kept q placed', file]
    exact Option.some_ne_none _
  exact ⟨fun fits => Store.write_of_fits absolute resolved there (beside ▸ fits) (finds.free placed' fits),
    fun unfit => Store.write_of_not_fits absolute resolved (beside ▸ unfit)⟩

theorem exists_saved (finds : Finds w d d' path) (assents : a.Assents)
    (yields : Yields d w.dedupe path diff result) (tells : w.Tells path (a.edits.content.getD result)) :
    ∃ answer t d'', execute w (.start d') ⟨path, none, some diff⟩ a = (.ok answer, t) ∧
      answer.status = .success ∧ w.store.write d' path result = (.ok (), d'') ∧
      OnlyLogs w d'' t.disk := by
  obtain ⟨bytes, old, read, decoded, applied⟩ := yields.applies
  obtain ⟨q, placed, -⟩ := Tree.readFile_eq_ok_iff.mp read
  have nonempty := Tree.path_ne_nil placed
  have small := Nat.lt_of_le_of_lt (Text.Utf8.size_le_of_beginning (List.prefix_append _ _))
    yields.fits.size
  obtain ⟨d'', wrote⟩ := (finds.exists_write nonempty read small result).1 yields.fits
  have proposed := (finds.propose_eq_ok_iff nonempty).mpr
    ⟨small, bytes, old, result, read, decoded, applied, rfl⟩
  have enters := finds.enters_of_grows (wrote ▸ w.store.grows_write d' path result) small
  obtain ⟨answer, t, executed, success, logs⟩ :=
    execute_start_of_saved enters assents proposed tells wrote
  exact ⟨answer, t, d'', executed, success, wrote, logs⟩

theorem exists_failed (finds : Finds w d d' path) (assents : a.Assents)
    (barren : ∀ result, ¬ Yields d w.dedupe path diff result) :
    ∃ e t, execute w (.start d') ⟨path, none, some diff⟩ a = (.ok (failedResponse e), t) ∧
      OnlyLogs w d' t.disk := by
  rcases refused_or_proposed w d' ⟨path, none, some diff⟩ with ⟨e, refused⟩ | ⟨p, proposed⟩
  · exact ⟨e, execute_start_of_refused finds.enters refused a⟩
  · have nonempty := (propose_diff_eq_ok_iff.mp proposed).1
    obtain ⟨small, bytes, old, new, read, decoded, applied, rfl⟩ :=
      (finds.propose_eq_ok_iff nonempty).mp proposed
    have unfit := fun fits => barren new ⟨⟨bytes, old, read, decoded, applied⟩, fits⟩
    have failed := (finds.exists_write nonempty read small new).2 unfit
    exact ⟨_, execute_start_of_unsaved finds.enters assents proposed rfl failed⟩

end Finds

end Redline.Write
