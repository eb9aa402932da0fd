import Redline.Proofs.Metrics.Confined
import Redline.Proofs.Metrics.Statistics
import Redline.Proofs.Syntax.FirstFault
import Redline.Proofs.Write.Atomic
import Redline.Proofs.Write.Runs

set_option autoImplicit false
set_option relaxedAutoImplicit false

/-!
How a request is entered in the write log. A save for a path that shuns the folder of the log leaves the
log alone, and so does an approver who stands back. Whatever way a request then goes, it comes to an
answer or to a failure that is answered, and it is entered exactly once.
-/

namespace Redline.Write

open Data (Value)
open Disk (Tree Place Shuns Spells pathParts)
open Metrics (HasLog IsEntry folderName folderPlace journalPath logText)
open Review (Decision)

namespace Store

variable {store : Store} {d : Tree} {base : Place} {name path content : Text}

theorem grows_write (store : Store) (d : Tree) (path content : Text) :
    d.Grows (store.write d path content).2 := by
  cases wrote : store.write d path content with
  | mk result d' =>
    cases result with
    | ok _ =>
      obtain ⟨q, -, -, -, grows, -⟩ := write_eq_ok wrote
      exact grows
    | error e => exact (losesOnly_of_write wrote).grows

private theorem keepsBelow_settle (beside : Shuns base name (store.beside path))
    (shuns : Shuns base name (store.resolve path)) (b : Text.Utf8.Bytes) :
    Tree.KeepsBelow (name :: base) d (settle d (store.beside path) (store.resolve path) b).2 := by
  unfold settle
  split
  · exact .refl _ d
  · rename_i written wrote
    have first := beside.writeFile wrote
    split
    · exact first
    · rename_i moved move
      exact first.trans (beside.moveFile shuns move)

private theorem keepsBelow_discard (shuns : Shuns base name path) :
    Tree.KeepsBelow (name :: base) d (discard d path) := by
  unfold discard
  split
  · exact .refl _ d
  · rename_i removed remove
    exact shuns.removeFile remove

/-- Saving leaves a folder alone that the path shuns, unless the place beside a file is called like it. -/
private theorem keepsBelow_write (shuns : Shuns base name (store.resolve path))
    (other : ¬ besideSuffix <:+ name) (content : Text) :
    Tree.KeepsBelow (name :: base) d (store.write d path content).2 := by
  have beside : Shuns base name (store.beside path) := shuns.append (by decide) (by decide) other
  have leading := shuns.parentPath.makeDirectories (d := d) store.room
  unfold write
  split
  · rename_i e made stopped
    rwa [stopped] at leading
  · rename_i made ready
    rw [ready] at leading
    have settled := keepsBelow_settle (d := made) beside shuns (Text.Utf8.encode content)
    refine leading.trans ?_
    unfold writeBeside
    split
    · rename_i d' settles
      rwa [settles] at settled
    · rename_i e d' stopped
      rw [stopped] at settled
      split
      · exact settled.trans (keepsBelow_discard beside)
      · exact settled

/-- Whether no more directories are missing on the way to a file than calls may nest. -/
def HasRoom (store : Store) (d : Tree) (path : Text) : Prop :=
  d.HasRoom store.room (Disk.parentPath (store.resolve path))

private theorem ne_tooDeep_of_settle {beside path : Text} {b : Text.Utf8.Bytes} {e : Disk.Failure}
    {d' : Tree}
    (failed : settle d beside path b = (.error e, d')) : e ≠ .tooDeep := by
  unfold settle at failed
  split at failed
  · rename_i refused
    obtain rfl := Except.error.inj (Prod.mk.inj failed).1
    exact Tree.ne_tooDeep_of_atTarget (map_eq_error_iff.mp refused)
  · split at failed
    · rename_i refused
      obtain rfl := Except.error.inj (Prod.mk.inj failed).1
      unfold Tree.moveFile at refused
      split at refused
      · exact Except.error.inj refused ▸ nofun
      · obtain ⟨problem, -, rfl⟩ := mapError_eq_error_iff.mp refused
        nofun
    · simp at failed

private theorem HasRoom.ne_tooDeep {e : Disk.Failure} {d' : Tree} (roomy : store.HasRoom d path)
    (failed : store.write d path content = (.error e, d')) : e ≠ .tooDeep := by
  unfold write at failed
  split at failed
  · rename_i stopped
    obtain rfl := Except.error.inj (Prod.mk.inj failed).1
    exact Tree.HasRoom.ne_tooDeep roomy stopped
  · unfold writeBeside at failed
    split at failed
    · simp at failed
    · rename_i stopped
      obtain rfl := Except.error.inj (Prod.mk.inj failed).1
      exact ne_tooDeep_of_settle stopped

end Store

/--
Whether an approver who is asked a question decides, does not touch the preview, and leaves the way to a
project and the folder of its write log as they are.
-/
structure Approver.StandsBack (base : Place) (a : Approver) (q : Question) (s : Session) : Prop where
  decides : ∃ decision t, a.decide q s = (.ok decision, t)
  preview : (a.decide q s).2.preview = s.preview
  walk : s.disk.enterAll [] base.reverse = .ok base →
    (a.decide q s).2.disk.enterAll [] base.reverse = .ok base
  log : Tree.KeepsBelow (folderPlace base) s.disk (a.decide q s).2.disk

theorem Approver.standsBack_unattended (base : Place) (loop : Review.Loop) (input : List Line)
    (events : List Review.Event) (q : Question) (s : Session) :
    (Approver.atSurface loop .unattended input events).StandsBack base q s :=
  ⟨⟨_, _, rfl⟩, rfl, id, .refl _ s.disk⟩

/-- Whether the approver of a request stands back, if it is asked at all. -/
def Approver.StandsBackFrom (w : Writer) (base : Place) (s : Session) (r : Request) (a : Approver) :
    Prop :=
  ∀ p, propose w s.disk r = .ok p → a.StandsBack base (r.question p) (s.consulting w r p)

/-- Whether there is room for the calls that saving a text at a path, and checking it, nest. -/
structure Writer.HasRoom (w : Writer) (disk : Tree) (path content : Text) : Prop where
  store : w.store.HasRoom disk path
  search : w.checkSyntax = true → Syntax.HasRoom w.searchRoom w.parsers path content

/-- Whether there is room for a request, if its approver approves it. -/
def Approver.LeavesRoom (w : Writer) (s : Session) (r : Request) (a : Approver) : Prop :=
  ∀ p t, propose w s.disk r = .ok p →
    a.decide (r.question p) (s.consulting w r p) = (.ok .approve, t) →
    w.HasRoom t.disk r.path (a.edits.content.getD p.new)

/-- Whether the check of a saved text, if there is one, comes to a verdict that can be told. -/
def Writer.Tells (w : Writer) (path content : Text) : Prop :=
  w.checkSyntax = true → Syntax.Tells w.searchRoom w.parsers path content

/-- Whether a writer keeps its write log, if it keeps one, below a root. -/
def Writer.LogsAt (root : Text) (w : Writer) : Prop := ∀ r, w.journalRoot = some r → r = root

/-- Whether there is room for the calls that an entry in the write log, if there is one, nests. -/
def Writer.HasLogRoom (w : Writer) (disk : Tree) : Prop :=
  ∀ root, w.journalRoot = some root → disk.HasRoom w.journalRoom (Metrics.folderPath root)

variable {w : Writer} {s : Session} {r : Request} {a : Approver} {base : Place} {root : Text}
  {content : Text.Utf8.Bytes}

theorem exists_syntaxFault {path content : Text} (tells : w.Tells path content) :
    ∃ fault, syntaxFault w path content = .ok fault := by
  unfold syntaxFault
  split
  · rename_i checks
    exact (tells checks).exists_check
  · exact ⟨none, rfl⟩

theorem exists_answerSaved {path : Text} {saved : Saved} (tells : w.Tells path saved.content)
    (s : Session) (p : Proposal) : ∃ answer t, answerSaved w s path p saved = (.ok answer, t) := by
  obtain ⟨fault, checked⟩ := exists_syntaxFault tells
  unfold answerSaved
  split
  · exact ⟨_, _, rfl⟩
  · simp only [checked]
    exact ⟨_, _, rfl⟩

theorem enter_of_hasLogRoom (logs : w.LogsAt root) (clean : Disk.holdsNull root = false)
    (roomy : w.HasLogRoom s.disk) (r : Request) (answer : Response) (errorKind : Text) :
    (enter w s r answer errorKind).1 = .ok () := by
  unfold enter
  split
  · rfl
  · rename_i own logged
    obtain rfl := logs own logged
    obtain ⟨notes, taken⟩ := Metrics.exists_notes_of_record (roomy own logged) clean w.today
      (journalEntry r answer errorKind)
    split
    · rename_i recorded
      simp [recorded] at taken
    · rfl

/-! From a request to what it comes to. -/

/--
Whether a request has come to an answer, with the preview closed, or to a failure that is answered, and
the write log is still what it was.
-/
structure Unentered (base : Place) (content : Text.Utf8.Bytes) (x : After Response) : Prop where
  answered : ∀ e, x.1 = .error e → e.isAnswered = true
  closed : ∀ answer, x.1 = .ok answer → x.2.preview.path = none
  log : HasLog base x.2.disk content

private theorem isAnswered_of_answerSaved {path : Text} {p : Proposal} {saved : Saved} {e : Failure}
    (search : w.checkSyntax = true → Syntax.HasRoom w.searchRoom w.parsers path saved.content)
    (failed : (answerSaved w s path p saved).1 = .error e) : e.isAnswered = true := by
  unfold answerSaved at failed
  split at failed
  · simp at failed
  · simp only at failed
    split at failed
    · rename_i f checked
      obtain rfl := Except.error.inj failed
      unfold syntaxFault at checked
      split at checked
      · rename_i checks
        have shallow := (search checks).ne_tooDeep checked
        cases f with
        | tooDeep => exact absurd rfl shallow
        | longNumber => rfl
      · simp at checked
    · simp at failed

private theorem unentered_conclude {p : Proposal} {edits : Edits} {decision : Decision}
    (openFor : s.preview.path = some r.path) (pending : s.preview.pending = some p.new)
    (holds : HasLog base s.disk content) (shuns : Shuns base folderName (w.store.resolve r.path))
    (roomy : decision = .approve → w.HasRoom s.disk r.path (edits.content.getD p.new)) :
    Unentered base content (conclude w s r.path p edits decision) := by
  cases decision with
  | reject =>
    refine ⟨?_, fun _ _ => rfl, holds⟩
    rintro e ⟨⟩
  | feedback text =>
    refine ⟨?_, fun _ _ => rfl, holds⟩
    rintro e ⟨⟩
  | approve =>
    obtain ⟨room, search⟩ := roomy rfl
    have grows := w.store.grows_write s.disk r.path p.new
    have kept := Store.keepsBelow_write (d := s.disk) shuns (by decide) p.new
    have after := holds.keeps (grows.enterAll holds.walk) kept
    simp only [conclude, Session.savePreview, Preview.toSave, openFor, pending]
    cases wrote : w.store.write s.disk r.path p.new with
    | mk result d =>
      rw [wrote] at after
      cases result with
      | error e =>
        have shallow := room.ne_tooDeep wrote
        refine ⟨?_, ?_, after⟩
        · rintro e' ⟨⟩
          cases e with
          | tooDeep => exact absurd rfl shallow
          | _ => rfl
        · rintro answer ⟨⟩
      | ok _ =>
        obtain ⟨-, disk, preview, -⟩ := answerSaved_frame w
          ({ s with disk := d, preview := s.preview.close }.noted [savedNote r.path]) r.path p
          (edits.amend ⟨p.new, none⟩)
        refine ⟨fun e failed => isAnswered_of_answerSaved search failed, ?_, ?_⟩
        · rintro answer -
          simp only [preview]
          rfl
        · simp only [disk]
          exact after

theorem unentered_process (fresh : s.preview.path = none) (holds : HasLog base s.disk content)
    (shuns : Shuns base folderName (w.store.resolve r.path))
    (standsBack : a.StandsBackFrom w base s r) (roomy : a.LeavesRoom w s r) :
    Unentered base content (process w { s with finishing := true } r a) := by
  rcases refused_or_proposed w s.disk r with ⟨e, refused⟩ | ⟨p, proposed⟩
  · rw [process_of_refused refused]
    refine ⟨?_, ?_, holds⟩
    · rintro e ⟨⟩
      exact refused.isAnswered
    · rintro answer ⟨⟩
  · rw [process_of_proposed proposed]
    have consults := consults_consulting w s r p
    obtain ⟨⟨decision, t, decided⟩, preview, walk, kept⟩ := standsBack p proposed
    rw [decided, consults.disk] at walk kept
    rw [decided] at preview ⊢
    refine unentered_conclude ?_ ?_ (holds.keeps (walk holds.walk) kept) shuns ?_
    · rw [preview, consults.path, fresh]
      rfl
    · rw [preview, consults.pending]
    · rintro rfl
      exact roomy p t proposed decided

/-! The entry. -/

/-- The answer to what a request has come to, and the kind under which its failure is counted. -/
def verdict : Except Failure Response → Response × Text
  | .ok answer => (answer, [])
  | .error e => (failedResponse e, e.kind)

/-- What the write log keeps of a request. -/
structure Entry where
  today : Moment
  request : Request
  answer : Response
  /-- The kind of the failure with which the request ended, and empty if it did not fail. -/
  errorKind : Text

/-- The members of the object that the write log has for a request. -/
def Entry.members (e : Entry) : List (Wording × Value) := [
  (.text "timestamp", .text e.today.stamp),
  (.text "path", .text e.request.path),
  (.text "mode", .text (if e.request.diff.isSome then "udiff" else "content")),
  (.text "status", .text e.answer.status.name),
  (.text "has_omission", .bool e.answer.hasOmission),
  (.text "syntax_error", .bool e.answer.syntaxFault.isSome),
  (.text "error_kind", .text e.errorKind)]

private theorem entryMembers_journalEntry (today : Moment) (r : Request) (answer : Response)
    (errorKind : Text) : Metrics.entryMembers today (journalEntry r answer errorKind) =
      (Entry.mk today r answer errorKind).members := by
  rfl

private theorem Entry.isEntry (e : Entry) : IsEntry e.members := by
  have distinct : (e.members.map Prod.fst).Nodup := by
    have names : e.members.map Prod.fst = [.text "timestamp", .text "path", .text "mode",
        .text "status", .text "has_omission", .text "syntax_error", .text "error_kind"] := rfl
    rw [names]
    decide
  refine ⟨?_, distinct⟩
  intro member mem
  simp only [Entry.members, List.mem_cons, List.not_mem_nil, or_false] at mem
  rcases mem with rfl | rfl | rfl | rfl | rfl | rfl | rfl <;> constructor <;> constructor

theorem isEntry_of_mem_members (entries : List Entry) :
    ∀ es ∈ entries.map Entry.members, IsEntry es := by
  intro es mem
  obtain ⟨e, -, rfl⟩ := List.mem_map.mp mem
  exact e.isEntry

private theorem exists_enter {entries : List (List (Wording × Value))}
    (logs : w.journalRoot = some root) (spells : Spells base root)
    (small : Text.Utf8.size (journalPath root) < Disk.pathSizeLimit)
    (holds : HasLog base s.disk (Text.Utf8.encode (logText entries))) (r : Request)
    (answer : Response) (errorKind : Text) :
    ∃ t, enter w s r answer errorKind = (.ok (), t) ∧ t.preview = s.preview ∧
      HasLog base t.disk (Text.Utf8.encode
        (logText (entries ++ [(Entry.mk w.today r answer errorKind).members]))) := by
  obtain ⟨longer, records, done⟩ :=
    holds.record w.journalRoom spells small w.today (journalEntry r answer errorKind)
  have line : Metrics.entryLine w.today (journalEntry r answer errorKind) =
      Data.Json.write (.map (Entry.mk w.today r answer errorKind).members) ++ ['\n'] := by
    rw [Metrics.entryLine, entryMembers_journalEntry]
    rfl
  refine ⟨{ s with disk := longer }.noted [], ?_, rfl, ?_⟩
  · unfold enter
    rw [logs]
    simp only [records]
  · rw [Metrics.logText_append, Text.Utf8.encode_append, ← line]
    exact done

theorem wrapUp_of_unentered {entries : List (List (Wording × Value))} {x : After Response}
    (logs : w.journalRoot = some root) (spells : Spells base root)
    (small : Text.Utf8.size (journalPath root) < Disk.pathSizeLimit)
    (unentered : Unentered base (Text.Utf8.encode (logText entries)) x) :
    ∃ t, wrapUp w r x = (.ok (verdict x.1).1, t) ∧ t.preview.path = none ∧
      HasLog base t.disk (Text.Utf8.encode (logText
        (entries ++ [(Entry.mk w.today r (verdict x.1).1 (verdict x.1).2).members]))) := by
  have responds {u : Session} (log : HasLog base u.disk (Text.Utf8.encode (logText entries)))
      (closed : u.preview.path = none) (answer : Response) (errorKind : Text) :
      ∃ t, respond w u r answer errorKind = (.ok answer, t) ∧ t.preview.path = none ∧
        HasLog base t.disk (Text.Utf8.encode
          (logText (entries ++ [(Entry.mk w.today r answer errorKind).members]))) := by
    obtain ⟨t, entered, preview, logged⟩ := exists_enter logs spells small log r answer errorKind
    refine ⟨{ t with finishing := false }, ?_, preview ▸ closed, logged⟩
    rw [respond_eq, entered]
    rfl
  obtain ⟨result, s⟩ := x
  cases result with
  | ok answer => exact responds unentered.log (unentered.closed answer rfl) answer []
  | error e =>
    have answered := unentered.answered e rfl
    simp only [wrapUp, answered, if_true]
    exact responds (u := givenUp s r e) unentered.log rfl (failedResponse e) e.kind

end Redline.Write
