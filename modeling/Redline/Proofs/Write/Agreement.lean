import Redline.Proofs.Metrics.Confined
import Redline.Proofs.Write.Journaled
import Redline.Proofs.Write.Streaming

set_option autoImplicit false
set_option relaxedAutoImplicit false

/-!
Sessions that agree but for the folder of the write log and what has been logged. Whatever is done in both
of them, for paths that avoid the folder, ends alike and leaves sessions that agree again.
-/

namespace Redline.Write

open Disk (Tree Place Shuns pathParts)
open Disk.Tree (AgreesOutside EndsAlike)
open Metrics (folderName folderPlace)

/-! Stores. -/

namespace Store

variable {store : Store} {d d' : Tree} {base : Place} {name path : Text}

theorem has_eq (shuns : Shuns base name (store.resolve path))
    (agrees : AgreesOutside (name :: base) d d') : store.has d' path = store.has d path :=
  shuns.isFile_eq agrees

theorem read_eq (shuns : Shuns base name (store.resolve path))
    (agrees : AgreesOutside (name :: base) d d') : store.read d' path = store.read d path := by
  rw [Store.read, Store.read, shuns.readFile_eq agrees]

private theorem settle_agrees (beside : Shuns base name (store.beside path))
    (shuns : Shuns base name (store.resolve path)) (agrees : AgreesOutside (name :: base) d d')
    (b : Text.Utf8.Bytes) :
    EndsAlike (name :: base) (settle d (store.beside path) (store.resolve path) b)
      (settle d' (store.beside path) (store.resolve path) b) := by
  have writes := beside.writeFile_agrees agrees b
  unfold settle
  generalize d.writeFile _ b = x, d'.writeFile _ b = y at writes
  cases writes with
  | error e => exact ⟨rfl, agrees⟩
  | @ok written written' next =>
    have moves := beside.moveFile_agrees shuns next
    simp only
    generalize written.moveFile _ _ = x, written'.moveFile _ _ = y at moves
    cases moves with
    | error e => exact ⟨rfl, next⟩
    | ok last => exact ⟨rfl, last⟩

private theorem discard_agrees (shuns : Shuns base name path) (agrees : AgreesOutside (name :: base) d d') :
    AgreesOutside (name :: base) (discard d path) (discard d' path) := by
  have removes := shuns.removeFile_agrees agrees
  unfold discard
  generalize d.removeFile path = x, d'.removeFile path = y at removes
  cases removes with
  | error e => exact agrees
  | ok next => exact next

private theorem write_agrees (shuns : Shuns base name (store.resolve path))
    (other : ¬ besideSuffix <:+ name) (agrees : AgreesOutside (name :: base) d d') (content : Text) :
    EndsAlike (name :: base) (store.write d path content) (store.write d' path content) := by
  have beside : Shuns base name (store.beside path) := shuns.append (by decide) (by decide) other
  have made := shuns.parentPath.makeDirectories_agrees store.room agrees
  unfold write
  generalize d.makeDirectories _ _ = x, d'.makeDirectories _ _ = y at made
  obtain ⟨result, d⟩ := x
  obtain ⟨result', d'⟩ := y
  obtain ⟨rfl, agrees⟩ := made
  cases result with
  | error e => exact ⟨rfl, agrees⟩
  | ok _ =>
    have settled := settle_agrees beside shuns agrees (Text.Utf8.encode content)
    simp only [writeBeside]
    generalize settle d _ _ _ = x, settle d' _ _ _ = y at settled
    obtain ⟨result, d⟩ := x
    obtain ⟨result', d'⟩ := y
    obtain ⟨rfl, agrees⟩ := settled
    cases result with
    | ok _ => exact ⟨rfl, agrees⟩
    | error e =>
      simp only
      split
      · exact ⟨rfl, discard_agrees beside agrees⟩
      · exact ⟨rfl, agrees⟩

private theorem grows_remove {removed : Tree} (removes : store.remove d path = .ok removed) :
    d.Grows removed := by
  obtain ⟨p, b, placed, file, rfl⟩ := Tree.removeFile_eq_ok_iff.mp removes
  refine .erase (Tree.place_ne_nil placed) fun found => ?_
  simp [Tree.fileAt, found] at file

end Store

/-! Sessions. -/

/-- Whether a path has the folder of a write log for one of its parts. -/
def Avoids (path : Text) : Prop := folderName ∉ pathParts path

instance : DecidablePred Avoids := fun path => inferInstanceAs (Decidable (folderName ∉ pathParts path))

/--
Whether two sessions are the same but for what has been logged and the folder of the write log, which is
in a directory that is there. The preview is for a path that avoids the folder.
-/
structure Session.Agrees (root : Text) (home : Place) (s t : Session) : Prop where
  disk : AgreesOutside (folderPlace home) s.disk t.disk
  leads : s.disk.LeadsTo root home
  leads' : t.disk.LeadsTo root home
  preview : t.preview = s.preview
  avoids : ∀ path, s.preview.path = some path → Avoids path
  finishing : t.finishing = s.finishing
  lastUpdate : t.lastUpdate = s.lastUpdate
  now : t.now = s.now
  asked : t.asked = s.asked

/-- Whether two steps end in related results, or in the same failure, and in sessions that agree. -/
structure EndAlike {α : Type} (rel : α → α → Prop) (root : Text) (home : Place) (x y : After α) :
    Prop where
  result : Concur rel x.1 y.1
  session : x.2.Agrees root home y.2

/-- Whether two writers do the same with texts and diffs, at the same pace. -/
structure Writer.SameCore (w v : Writer) : Prop where
  store : v.store = w.store
  dedupe : v.dedupe = w.dedupe
  interval : v.interval = w.interval

private theorem Writer.SameCore.refl (w : Writer) : w.SameCore w := ⟨rfl, rfl, rfl⟩

namespace Session.Agrees

variable {root : Text} {home : Place} {s t : Session} {w v : Writer} {store : Store} {path : Text}

theorem start {disk : Tree} (leads : disk.LeadsTo root home) :
    Agrees root home (.start disk) (.start disk) :=
  ⟨.refl _ disk, leads, leads, rfl, by rintro path ⟨⟩, rfl, rfl, rfl, rfl⟩

theorem symm (agrees : Agrees root home s t) : Agrees root home t s where
  disk := agrees.disk.symm
  leads := agrees.leads'
  leads' := agrees.leads
  preview := agrees.preview.symm
  avoids path openFor := agrees.avoids path (agrees.preview ▸ openFor)
  finishing := agrees.finishing.symm
  lastUpdate := agrees.lastUpdate.symm
  now := agrees.now.symm
  asked := agrees.asked.symm

theorem noted (agrees : Agrees root home s t) (notes notes' : List Log.Record) :
    Agrees root home (s.noted notes) (t.noted notes') :=
  { agrees with }

theorem finish (agrees : Agrees root home s t) (finishing : Bool) :
    Agrees root home { s with finishing } { t with finishing } :=
  { agrees with finishing := rfl }

theorem asking (agrees : Agrees root home s t) (q : Question) :
    Agrees root home (s.asking q) (t.asking q) :=
  { agrees with asked := congrArg (· ++ [q]) agrees.asked }

private theorem wait (agrees : Agrees root home s t) (now : Float) :
    Agrees root home { s with now } { t with now } :=
  { agrees with now := rfl }

private theorem updated (agrees : Agrees root home s t) :
    Agrees root home { s with lastUpdate := s.now } { t with lastUpdate := t.now } :=
  { agrees with lastUpdate := agrees.now }

private theorem withPreview (agrees : Agrees root home s t) (p : Preview)
    (avoids : ∀ path, p.path = some path → Avoids path) :
    Agrees root home { s with preview := p } { t with preview := p } :=
  { agrees with preview := rfl, avoids := avoids }

theorem withDisk (agrees : Agrees root home s t) {d d' : Tree}
    (disk : AgreesOutside (folderPlace home) d d') (grows : s.disk.Grows d)
    (grows' : t.disk.Grows d') : Agrees root home { s with disk := d } { t with disk := d' } :=
  { agrees with
    disk := disk
    leads := agrees.leads.grows grows
    leads' := agrees.leads'.grows grows' }

/-! What is done to the preview and the disk. -/

private theorem openPreview (agrees : Agrees root home s t) (avoids : Avoids path) :
    Agrees root home (s.openPreview path) (t.openPreview path) := by
  unfold Session.openPreview
  rw [agrees.preview]
  refine (agrees.withPreview _ ?_).noted _ _
  intro path' openFor
  obtain rfl := Option.some.inj openFor
  exact avoids

private theorem ensureOpen (agrees : Agrees root home s t) (avoids : Avoids path) :
    Agrees root home (s.ensureOpen path) (t.ensureOpen path) := by
  unfold Session.ensureOpen
  rw [agrees.preview]
  split
  · exact agrees
  · exact agrees.openPreview avoids

private theorem updatePreview (agrees : Agrees root home s t) (content : Text) (final : Bool) :
    EndAlike (· = ·) root home (s.updatePreview content final) (t.updatePreview content final) := by
  unfold Session.updatePreview Preview.update
  rw [agrees.preview]
  cases openFor : s.preview.path with
  | none => exact ⟨.error _, agrees⟩
  | some path =>
    refine ⟨.ok rfl, (agrees.withPreview _ ?_).noted _ _⟩
    intro path' shown
    obtain rfl := Option.some.inj shown
    exact agrees.avoids path openFor

theorem revertPreview (agrees : Agrees root home s t) :
    Agrees root home s.revertPreview t.revertPreview := by
  unfold Session.revertPreview
  rw [agrees.preview]
  exact (agrees.withPreview _ (by rintro path ⟨⟩)).noted _ _

theorem showFinal (agrees : Agrees root home s t) (avoids : Avoids path) (content : Text) :
    EndAlike (· = ·) root home (showFinal s path content) (showFinal t path content) :=
  (agrees.ensureOpen avoids).updatePreview content true

theorem shuns (apart : Shuns home folderName store.root) (avoids : Avoids path) :
    Shuns home folderName (store.resolve path) :=
  apart.joinPath avoids

private theorem write (agrees : Agrees root home s t) (apart : Shuns home folderName store.root)
    (avoids : Avoids path)
    (content : Text) :
    EndsAlike (folderPlace home) (store.write s.disk path content)
        (store.write t.disk path content) ∧
      s.disk.Grows (store.write s.disk path content).2 ∧
      t.disk.Grows (store.write t.disk path content).2 :=
  ⟨Store.write_agrees (shuns apart avoids) (by decide) agrees.disk content,
    store.grows_write s.disk path content, store.grows_write t.disk path content⟩

private theorem remove (agrees : Agrees root home s t) (apart : Shuns home folderName store.root)
    (avoids : Avoids path) :
    Concur (fun d d' => AgreesOutside (folderPlace home) d d' ∧ s.disk.Grows d ∧ t.disk.Grows d')
      (store.remove s.disk path) (store.remove t.disk path) := by
  have removes := (shuns apart avoids).removeFile_agrees agrees.disk
  have here := @Store.grows_remove store s.disk path
  have there := @Store.grows_remove store t.disk path
  unfold Store.remove at here there ⊢
  generalize s.disk.removeFile _ = x, t.disk.removeFile _ = y at removes here there
  cases removes with
  | error e => exact .error e
  | ok removed => exact .ok ⟨removed, here rfl, there rfl⟩

theorem savePreview (agrees : Agrees root home s t) (apart : Shuns home folderName store.root) :
    EndAlike (· = ·) root home (s.savePreview store) (t.savePreview store) := by
  have toSave : t.preview.toSave = s.preview.toSave := by rw [agrees.preview]
  have close : t.preview.close = s.preview.close := by rw [agrees.preview]
  unfold Session.savePreview
  rw [toSave, close]
  cases ready : s.preview.toSave with
  | error e => exact ⟨.error _, agrees⟩
  | ok saves =>
    obtain ⟨path, content⟩ := saves
    obtain ⟨openFor, -⟩ := Preview.toSave_eq_ok ready
    have writes := agrees.write apart (agrees.avoids path openFor) content
    simp only
    generalize store.write s.disk path content = x, store.write t.disk path content = y at writes
    obtain ⟨result, d⟩ := x
    obtain ⟨result', d'⟩ := y
    obtain ⟨⟨rfl, disk⟩, grows, grows'⟩ := writes
    have after := agrees.withDisk disk grows grows'
    cases result with
    | error e => exact ⟨.error _, after⟩
    | ok _ => exact ⟨.ok rfl, (after.withPreview _ (by rintro path ⟨⟩)).noted _ _⟩

private theorem stream (agrees : Agrees root home s t) (interval : v.interval = w.interval)
    (avoids : Avoids path) (content : Text) :
    EndAlike (· = ·) root home (s.stream w path content) (t.stream v path content) := by
  unfold Session.stream Session.tooEarly
  rw [agrees.finishing, agrees.now, agrees.lastUpdate, interval]
  split
  · exact ⟨.ok rfl, agrees.noted _ _⟩
  · split
    · exact ⟨.ok rfl, agrees⟩
    · have updates := (agrees.ensureOpen avoids).updatePreview content false
      generalize (s.ensureOpen path).updatePreview content false = x,
        (t.ensureOpen path).updatePreview content false = y at updates
      obtain ⟨result, s⟩ := x
      obtain ⟨result', t⟩ := y
      obtain ⟨result, shown⟩ := updates
      cases result with
      | error e => exact ⟨.error _, shown⟩
      | ok _ => exact ⟨.ok rfl, shown.updated⟩

end Session.Agrees

/-! Actions. -/

/-- Whether the path of an action, if it has one, avoids the folder of the write log. -/
def Action.AvoidsLog : Action → Prop
  | .stream path _ | .openPreview path | .has path | .read path | .write path _ | .remove path =>
    Avoids path
  | _ => True

variable {root : Text} {home : Place} {s t : Session} {w v : Writer}

/-- What is made of the result of a step, in the session after it. -/
def passOn {α β : Type} (f : α → β) (x : After α) : After β := (x.1.map f, x.2)

private theorem EndAlike.passOn {α β : Type} {x y : After α} (alike : EndAlike (· = ·) root home x y)
    (f : α → β) :
    EndAlike (· = ·) root home (Write.passOn f x) (Write.passOn f y) := by
  obtain ⟨result, s⟩ := x
  obtain ⟨result', t⟩ := y
  obtain ⟨result, agrees⟩ := alike
  refine ⟨?_, agrees⟩
  simp only [Write.passOn]
  cases result with
  | error e => exact .error e
  | ok same => exact .ok (congrArg f same)

private theorem Action.perform_stream (w : Writer) (s : Session) (path content : Text) :
    (Action.stream path content).perform w s =
      passOn (fun _ => .nothing) (s.stream w path content) := by
  simp only [perform]
  generalize s.stream w path content = x
  obtain ⟨_ | _, t⟩ := x <;> rfl

private theorem Action.perform_updatePreview (w : Writer) (s : Session) (content : Text) (final : Bool) :
    (Action.updatePreview content final).perform w s =
      passOn (fun _ => .nothing) (s.updatePreview content final) := by
  simp only [perform]
  generalize s.updatePreview content final = x
  obtain ⟨_ | _, t⟩ := x <;> rfl

private theorem Action.perform_savePreview (w : Writer) (s : Session) :
    Action.savePreview.perform w s = passOn .saved (s.savePreview w.store) := by
  simp only [perform]
  generalize s.savePreview w.store = x
  obtain ⟨_ | _, t⟩ := x <;> rfl

theorem Action.perform_alike (same : w.SameCore v) (apart : Shuns home folderName w.store.root)
    (agrees : s.Agrees root home t) (x : Action) (avoids : x.AvoidsLog) :
    EndAlike (· = ·) root home (x.perform w s) (x.perform v t) := by
  cases x with
  | wait now => exact ⟨.ok rfl, agrees.wait now⟩
  | stream path content =>
    rw [perform_stream, perform_stream]
    exact (agrees.stream same.interval avoids content).passOn _
  | abort => exact ⟨.ok rfl, (agrees.noted _ _).revertPreview⟩
  | openPreview path => exact ⟨.ok rfl, agrees.openPreview avoids⟩
  | updatePreview content final =>
    rw [perform_updatePreview, perform_updatePreview]
    exact (agrees.updatePreview content final).passOn _
  | revertPreview => exact ⟨.ok rfl, agrees.revertPreview⟩
  | savePreview =>
    rw [perform_savePreview, perform_savePreview, same.store]
    exact (agrees.savePreview apart).passOn _
  | has path =>
    have found := Store.has_eq (Session.Agrees.shuns apart avoids) agrees.disk
    refine ⟨.of_eq ?_, agrees⟩
    simp only [Action.perform, same.store, found]
  | read path =>
    have found := Store.read_eq (Session.Agrees.shuns apart avoids) agrees.disk
    refine ⟨.of_eq ?_, agrees⟩
    simp only [Action.perform, same.store, found]
  | write path content =>
    have writes := agrees.write apart avoids content
    simp only [Action.perform, same.store]
    generalize w.store.write s.disk path content = x, w.store.write t.disk path content = y at writes
    obtain ⟨result, d⟩ := x
    obtain ⟨result', d'⟩ := y
    obtain ⟨⟨rfl, disk⟩, grows, grows'⟩ := writes
    cases result with
    | error e => exact ⟨.error _, agrees.withDisk disk grows grows'⟩
    | ok _ => exact ⟨.ok rfl, agrees.withDisk disk grows grows'⟩
  | remove path =>
    have avoids : Avoids path := avoids
    have removes := agrees.remove apart avoids
    simp only [Action.perform, same.store]
    generalize w.store.remove s.disk path = x, w.store.remove t.disk path = y at removes
    cases removes with
    | error e => exact ⟨.error _, agrees⟩
    | ok removed => exact ⟨.ok rfl, agrees.withDisk removed.1 removed.2.1 removed.2.2⟩
  | fail fault text => exact ⟨.error _, agrees⟩

theorem performAll_alike (apart : Shuns home folderName w.store.root) (agrees : s.Agrees root home t)
    {actions : List Action} (avoid : ∀ x ∈ actions, x.AvoidsLog) :
    EndAlike (· = ·) root home (performAll w s actions) (performAll w t actions) := by
  induction actions generalizing s t with
  | nil => exact ⟨.ok rfl, agrees⟩
  | cons x actions ih =>
    obtain ⟨first, rest⟩ := List.forall_mem_cons.mp avoid
    have performs := x.perform_alike (.refl w) apart agrees first
    unfold performAll
    generalize x.perform w s = y, x.perform w t = z at performs
    obtain ⟨result, s⟩ := y
    obtain ⟨result', t⟩ := z
    obtain ⟨result, next⟩ := performs
    cases result with
    | error e => exact ⟨.error _, next⟩
    | ok _ => exact ih next rest

end Redline.Write
