import Mathlib.Data.List.DropRight
import Redline.Proofs.Write.Runs
import Redline.Proofs.Write.SavedPath

set_option autoImplicit false
set_option relaxedAutoImplicit false

/-!
The history of a preview. The calls on a preview, with how each of them ended, tell its state: the last
turn, which is an opening, a reversal or a save that succeeded, tells whether and for which path it is
open, and the updates since then tell what it shows. So they tell which of the next calls are refused.
-/

namespace Redline.Write

open Disk (Tree)

structure Event where
  call : Action
  outcome : Except Failure Result

/-- Whether a call is one on the preview or on the store, and not one on the tool that uses them. -/
def Action.isDirect : Action → Bool
  | .stream _ _ => false
  | .abort => false
  | _ => true

/-- The calls of a run with how each ended. What a call fails with ends no run. -/
def Session.history (w : Writer) (s : Session) : List Action → List Event
  | [] => []
  | x :: calls => ⟨x, (x.perform w s).1⟩ :: (x.perform w s).2.history w calls

/-- Whether an event opens or closes the preview: saves that fail do not. -/
def Event.turns : Event → Bool
  | ⟨.openPreview _, _⟩ => true
  | ⟨.revertPreview, _⟩ => true
  | ⟨.savePreview, .ok _⟩ => true
  | _ => false

def Event.shows? : Event → Option Text
  | ⟨.updatePreview content _, .ok _⟩ => some content
  | _ => none

/-- The last event that opened or closed the preview. -/
def lastTurn? (events : List Event) : Option Event := (events.filter Event.turns).getLast?

def shownSince (events : List Event) : List Text :=
  (events.rtakeWhile fun e => !e.turns).filterMap Event.shows?

structure Tells (events : List Event) (v : Preview) : Prop where
  path : ∀ p, v.path = some p ↔ ∃ e ∈ lastTurn? events, e.call = .openPreview p
  pending : v.pending = (shownSince events).getLast?
  updates : v.updates = (events.filterMap Event.shows?).length

/-- What the events of a session tell of the next call: whether it is refused, and what it leaves. -/
structure Foretells (store : Store) (events : List Event) (s : Session) : Prop where
  /-- An update is refused exactly if the preview is closed, and then nothing has changed. -/
  update_refused : ∀ content final e t, s.updatePreview content final = (.error e, t) ↔
    s.preview.path = none ∧ e = .previewClosed ∧ t = s
  /-- A save is refused exactly if the preview is closed or nothing was shown since it was opened. -/
  save_refused : ∀ t, s.savePreview store = (.error .nothingToSave, t) ↔
    (s.preview.path = none ∨ shownSince events = []) ∧ t = s
  /-- A save that fails otherwise fails in the store, and but for the disk nothing has changed. -/
  save_failed : ∀ e t, s.savePreview store = (.error e, t) → e ≠ .nothingToSave →
    ∃ f, e = .disk f ∧ t = { s with disk := t.disk }
  /-- After a save the file of the path holds what was shown, and the preview is closed. -/
  save_done : ∀ saved t, s.savePreview store = (.ok saved, t) → ∃ path,
    s.preview.path = some path ∧ s.preview.pending = some saved.content ∧
      t.disk.readFile (store.resolve path) = .ok (Text.Utf8.encode saved.content) ∧
      t.preview = s.preview.close

variable {w : Writer} {s t : Session} {store : Store} {events : List Event} {e : Event} {v : Preview}

private theorem lastTurn?_concat (events : List Event) (e : Event) :
    lastTurn? (events ++ [e]) = if e.turns then some e else lastTurn? events := by
  unfold lastTurn?
  rw [List.filter_append]
  cases turns : e.turns <;> simp [turns]

private theorem shownSince_concat (events : List Event) (e : Event) :
    shownSince (events ++ [e]) =
      if e.turns then [] else shownSince events ++ e.shows?.toList := by
  unfold shownSince
  rw [List.rtakeWhile_concat]
  cases turns : e.turns with
  | true => rfl
  | false => cases shown : e.shows? <;> simp [shown]

private theorem Event.shows?_of_turns (turns : e.turns = true) : e.shows? = none := by
  obtain ⟨call, outcome⟩ := e
  cases call with
  | updatePreview content final => simp [Event.turns] at turns
  | _ => rfl

/-! What one more event changes. -/

private theorem tells_empty : Tells [] Preview.empty where
  path p := by simp [Preview.empty, lastTurn?]
  pending := rfl
  updates := rfl

private theorem Tells.still (tells : Tells events v) (turns : e.turns = false) (shows : e.shows? = none) :
    Tells (events ++ [e]) v where
  path p := by
    rw [lastTurn?_concat, turns]
    exact tells.path p
  pending := by
    rw [shownSince_concat, turns, shows]
    simpa using tells.pending
  updates := by
    rw [List.filterMap_append, tells.updates]
    simp [shows]

private theorem Tells.updated (tells : Tells events v) {content : Text} (turns : e.turns = false)
    (shows : e.shows? = some content) :
    Tells (events ++ [e]) ⟨v.path, some content, v.updates + 1⟩ where
  path p := by
    rw [lastTurn?_concat, turns]
    exact tells.path p
  pending := by
    rw [shownSince_concat, turns, shows]
    simp
  updates := by
    rw [List.filterMap_append, tells.updates]
    simp [shows]

private theorem Tells.turned (tells : Tells events v) {path : Option Text} (turns : e.turns = true)
    (opens : ∀ p, path = some p ↔ e.call = .openPreview p) :
    Tells (events ++ [e]) ⟨path, none, v.updates⟩ where
  path p := by
    rw [lastTurn?_concat, turns]
    simpa using opens p
  pending := by
    rw [shownSince_concat, turns]
    rfl
  updates := by
    rw [List.filterMap_append, tells.updates]
    simp [Event.shows?_of_turns turns]

private theorem Session.updatePreview_refused_iff {content : Text} {final : Bool} {e : Failure} :
    s.updatePreview content final = (.error e, t) ↔
      s.preview.path = none ∧ e = .previewClosed ∧ t = s := by
  unfold Session.updatePreview Preview.update
  cases s.preview.path <;> simp [eq_comm]

private theorem Session.updatePreview_of_open {path : Text} (openFor : s.preview.path = some path)
    (content : Text) (final : Bool) : ∃ t, s.updatePreview content final = (.ok (), t) ∧
      t.preview = ⟨s.preview.path, some content, s.preview.updates + 1⟩ := by
  unfold Session.updatePreview Preview.update
  rw [openFor]
  exact ⟨_, rfl, rfl⟩

private theorem Session.savePreview_failed {e : Failure} (ran : s.savePreview store = (.error e, t))
    (tried : e ≠ .nothingToSave) : ∃ f, e = .disk f ∧ t = { s with disk := t.disk } := by
  unfold Session.savePreview at ran
  split at ran
  · rename_i refused
    obtain ⟨first, -⟩ := Prod.mk.inj ran
    obtain rfl := Except.error.inj first
    exact absurd (Preview.toSave_eq_error_iff.mp refused).2 tried
  · split at ran
    · rename_i f disk wrote
      obtain ⟨first, rfl⟩ := Prod.mk.inj ran
      exact ⟨f, (Except.error.inj first).symm, rfl⟩
    · simp at ran

private theorem Session.preview_of_savePreview_error {e : Failure}
    (ran : s.savePreview store = (.error e, t)) : t.preview = s.preview := by
  by_cases refused : e = .nothingToSave
  · subst refused
    rw [(Session.savePreview_refused_iff.mp ran).2]
  · obtain ⟨f, -, kept⟩ := Session.savePreview_failed ran refused
    rw [kept]

private theorem Action.preview_perform_write (w : Writer) (s : Session) (path content : Text) :
    ((Action.write path content).perform w s).2.preview = s.preview := by
  simp only [Action.perform]
  split <;> rfl

private theorem Action.preview_perform_remove (w : Writer) (s : Session) (path : Text) :
    ((Action.remove path).perform w s).2.preview = s.preview := by
  simp only [Action.perform]
  split <;> rfl

private theorem Tells.perform (tells : Tells events s.preview) {x : Action} (direct : x.isDirect) :
    Tells (events ++ [⟨x, (x.perform w s).1⟩]) (x.perform w s).2.preview := by
  cases x with
  | openPreview path =>
    refine tells.turned rfl fun p => ?_
    rw [Option.some.injEq, Action.openPreview.injEq]
  | revertPreview => exact tells.turned rfl (by simp)
  | updatePreview content final =>
    cases openFor : s.preview.path with
    | none =>
      have refused : s.updatePreview content final = (.error .previewClosed, s) :=
        Session.updatePreview_refused_iff.mpr ⟨openFor, rfl, rfl⟩
      simp only [Action.perform, refused]
      exact tells.still rfl rfl
    | some path =>
      obtain ⟨t, updated, shown⟩ := Session.updatePreview_of_open openFor content final
      simp only [Action.perform, updated, shown]
      exact tells.updated rfl rfl
  | savePreview =>
    cases ran : s.savePreview w.store with
    | mk result t =>
      simp only [Action.perform, ran]
      cases result with
      | error e =>
        rw [Session.preview_of_savePreview_error ran]
        exact tells.still rfl rfl
      | ok saved =>
        obtain ⟨path, saves⟩ := Session.savePreview_eq_ok ran
        rw [saves.closed]
        exact tells.turned rfl (by simp)
  | stream path content => simp [Action.isDirect] at direct
  | abort => simp [Action.isDirect] at direct
  | write path content =>
    rw [Action.preview_perform_write]
    exact tells.still rfl rfl
  | remove path =>
    rw [Action.preview_perform_remove]
    exact tells.still rfl rfl
  | _ => exact tells.still rfl rfl

private theorem Tells.after (tells : Tells events s.preview) {calls : List Action}
    (direct : ∀ x ∈ calls, x.isDirect) :
    Tells (events ++ s.history w calls) (s.after w (calls.map .act)).preview := by
  -- The events so far stand for everything that the preview has been through.
  induction calls generalizing s events with
  | nil => simpa [Session.history, Session.after] using tells
  | cons x calls ih =>
    obtain ⟨first, rest⟩ := List.forall_mem_cons.mp direct
    rw [List.map_cons, Session.after_cons, Session.history, ← List.singleton_append,
      ← List.append_assoc]
    exact ih (tells.perform first) rest

private theorem Tells.foretells (tells : Tells events s.preview) : Foretells store events s where
  update_refused _ _ _ _ := Session.updatePreview_refused_iff
  save_refused t := by
    rw [Session.savePreview_refused_iff, tells.pending, List.getLast?_eq_none_iff]
  save_failed _ _ ran tried := Session.savePreview_failed ran tried
  save_done saved t ran := by
    obtain ⟨path, saves⟩ := Session.savePreview_eq_ok ran
    obtain ⟨q, placed, file, -⟩ := Store.write_eq_ok saves.wrote
    exact ⟨path, saves.openFor, saves.pending, Tree.readFile_eq_ok_iff.mpr ⟨q, placed, file⟩,
      saves.closed⟩

/--
After any calls on a new preview and on its store, on whatever disk and however they ended, the events
tell the state of the preview and what becomes of the next call.
-/
theorem history_tells_preview (w : Writer) (disk : Tree) {calls : List Action}
    (direct : ∀ x ∈ calls, x.isDirect) :
    let s := (Session.start disk).after w (calls.map .act)
    let events := (Session.start disk).history w calls
    Tells events s.preview ∧ Foretells w.store events s := by
  intro s events
  have tells : Tells events s.preview := tells_empty.after (s := .start disk) direct
  exact ⟨tells, tells.foretells⟩

/-- An update before the preview is open, and two saves: one with nothing to show, one in whose way a
file stands, which is then removed. -/
def refusedCalls : List Action :=
  [.updatePreview "a" false, .openPreview "d/x", .savePreview, .updatePreview "é" true, .savePreview,
    .remove "d"]

/-- Three of the calls fail, and the preview still shows what the one update has shown; it can be saved. -/
theorem history_tells_preview_refused :
    let start := Session.start ⟨[], [(["d"], .file [])]⟩
    let s := start.after plainWriter (refusedCalls.map .act)
    (∀ x ∈ refusedCalls, x.isDirect) ∧
      (start.history plainWriter refusedCalls).map (fun e => e.outcome.isOk) =
        [false, true, false, true, false, true] ∧
      s.preview.path = some ("d/x" : Text) ∧ s.preview.pending = some ("é" : Text) ∧
      s.preview.updates = 1 ∧ ∃ t, s.savePreview plainWriter.store = (.ok ⟨"é", none⟩, t) ∧
        t.disk.readFile (plainWriter.store.resolve "d/x") = .ok (Text.Utf8.encode "é") := by
  intro start s
  have direct : ∀ x ∈ refusedCalls, x.isDirect := by decide
  obtain ⟨tells, foretells⟩ :=
    history_tells_preview plainWriter ⟨[], [(["d"], .file [])]⟩ direct
  have path : s.preview.path = some ("d/x" : Text) := (tells.path "d/x").mpr ⟨_, rfl, rfl⟩
  have pending : s.preview.pending = some ("é" : Text) := tells.pending.trans (by decide +kernel)
  have updates : s.preview.updates = 1 := tells.updates.trans (by decide +kernel)
  have saves : (s.savePreview plainWriter.store).1 = .ok ⟨"é", none⟩ := by decide +kernel
  cases ran : s.savePreview plainWriter.store with
  | mk result t =>
    rw [ran] at saves
    obtain rfl : result = .ok ⟨"é", none⟩ := saves
    obtain ⟨path', openFor, -, file, -⟩ := foretells.save_done _ t ran
    obtain rfl := Option.some.inj (path.symm.trans openFor)
    exact ⟨direct, by decide +kernel, path, pending, updates, t, rfl, file⟩

end Redline.Write
