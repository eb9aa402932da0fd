import Redline.Proofs.Write.Approval
import Redline.Proofs.Write.Storing

set_option autoImplicit false
set_option relaxedAutoImplicit false

/-!
Where an approved text goes. The preview is saved for the path for which it was opened, which is that of
the request if the preview was closed before. A preview that was left open for another path takes the
text there, although the approver was asked about the path of the request and the answer names it.
-/

namespace Redline.Write

open Disk (Tree Place)

def Writer.journalPlace? (w : Writer) (d : Tree) : Option Place :=
  w.journalRoot.bind fun root => d.place? (Metrics.journalPath root)

def Writer.LogsElsewhere (w : Writer) (d : Tree) (path : Text) : Prop :=
  ∀ q, d.place? (w.store.resolve path) = some q → w.journalPlace? d ≠ some q

/--
Whether the file of a path holds exactly a text and no other file has changed, but for the one beside
it and the write log.
-/
structure Landed (w : Writer) (d d' : Tree) (path content : Text) : Prop where
  holds : d'.readFile (w.store.resolve path) = .ok (Text.Utf8.encode content)
  only : ∀ p, d'.fileAt p ≠ d.fileAt p → d'.place? (w.store.resolve path) = some p ∨
    (d'.place? (w.store.resolve path)).map (Place.lengthen besideSuffix) = some p ∨
    w.journalPlace? d' = some p

/--
Whether the file of a path held a text before and no file has changed at all, but for the one beside
it and the write log.
-/
def Spared (w : Writer) (d d' : Tree) (path content : Text) : Prop :=
  ∃ q, d'.place? (w.store.resolve path) = some q ∧
    d.fileAt q = some (Text.Utf8.encode content) ∧
    ∀ p, d'.fileAt p ≠ d.fileAt p → p = q.lengthen besideSuffix ∨ w.journalPlace? d' = some p

/-- An approver who approves without acting on the session. -/
structure Approver.IsQuiet (a : Approver) : Prop where
  disk : ∀ q s s', a.decide q s = (.ok .approve, s') → s'.disk = s.disk
  preview : ∀ q s s', a.decide q s = (.ok .approve, s') → s'.preview = s.preview
  asked : ∀ q s s', a.decide q s = (.ok .approve, s') → s'.asked = s.asked

variable {w : Writer} {s s' : Session} {r : Request} {a : Approver} {answer : Response}

theorem enter_disk_frame (w : Writer) (s : Session) (r : Request) (answer : Response)
    (errorKind : Text) :
    let d := (enter w s r answer errorKind).2.disk
    s.disk.Grows d ∧ ∀ p, d.fileAt p ≠ s.disk.fileAt p → w.journalPlace? d = some p := by
  unfold enter Writer.journalPlace?
  cases w.journalRoot with
  | none => exact ⟨.refl _, fun p changed => absurd rfl changed⟩
  | some root =>
    have frame := Metrics.record_frame w.journalRoom s.disk root w.today
      (journalEntry r answer errorKind)
    simp only
    split <;> rename_i recorded <;> rw [recorded] at frame <;> exact frame

private theorem execute_success_frame (quiet : a.IsQuiet) (ran : execute w s r a = (.ok answer, s'))
    (success : answer.status = .success) :
    ∃ q t, s'.asked = s.asked ++ [q] ∧ q.path = r.path ∧
      s'.disk.place? (w.store.resolve (s.preview.path.getD r.path)) = some t ∧
      (w.journalPlace? s'.disk ≠ some t →
        s'.disk.fileAt t = some (Text.Utf8.encode q.new)) ∧
      (w.journalPlace? s'.disk ≠ some (t.lengthen besideSuffix) →
        s'.disk.fileAt (t.lengthen besideSuffix) = none) ∧
      ∀ p, p ≠ t → p ≠ t.lengthen besideSuffix → w.journalPlace? s'.disk ≠ some p →
        s'.disk.fileAt p = s.disk.fileAt p := by
  obtain ⟨p, shown, decided, saved, closed, passes, disk, asked, -⟩ := execute_success ran success
  obtain ⟨target, path, pending, -, wrote, -, closedAsked⟩ :=
    Session.savePreview_eq_ok passes.saves
  rw [quiet.preview _ _ _ passes.decides] at path pending
  obtain rfl := Option.some.inj (passes.path.symm.trans path)
  have content : p.new = saved.content := Option.some.inj (passes.pending.symm.trans pending)
  rw [quiet.disk _ _ _ passes.decides, passes.disk, ← content] at wrote
  obtain ⟨t, placed, file, beside, -, others⟩ := Store.write_eq_ok wrote
  obtain ⟨grows, logged⟩ := enter_disk_frame w closed r answer []
  rw [← disk] at grows logged
  have unlogged {q : Place} (apart : w.journalPlace? s'.disk ≠ some q) :
      s'.disk.fileAt q = closed.disk.fileAt q :=
    Decidable.byContradiction fun changed => apart (logged q changed)
  refine ⟨⟨r.path, p.old, p.new⟩, t, ?_, rfl, grows.place? placed, ?_, ?_, ?_⟩
  · rw [asked, closedAsked, quiet.asked _ _ _ passes.decides, passes.asked]
  · intro apart
    rw [unlogged apart, file]
  · intro apart
    rw [unlogged apart, beside]
  · intro q notTarget notBeside apart
    rw [unlogged apart, others q notTarget notBeside]

/--
The text of a request that succeeds lands at the path for which the preview was open, and at the path
of the request exactly if that leads to the same place, unless there was nothing to write.
-/
theorem execute_success_lands_iff (quiet : a.IsQuiet) (ran : execute w s r a = (.ok answer, s'))
    (success : answer.status = .success)
    (openElsewhere : w.LogsElsewhere s'.disk (s.preview.path.getD r.path))
    (elsewhere : w.LogsElsewhere s'.disk r.path) :
    ∃ q, s'.asked = s.asked ++ [q] ∧ q.path = r.path ∧
      Landed w s.disk s'.disk (s.preview.path.getD r.path) q.new ∧
      (Landed w s.disk s'.disk r.path q.new ↔
        s'.disk.place? (w.store.resolve (s.preview.path.getD r.path)) =
            s'.disk.place? (w.store.resolve r.path) ∨
          Spared w s.disk s'.disk r.path q.new) := by
  obtain ⟨q, t, asked, path, placed, file, beside, others⟩ :=
    execute_success_frame quiet ran success
  have held := file (openElsewhere t placed)
  have only : ∀ p, s'.disk.fileAt p ≠ s.disk.fileAt p →
      p = t ∨ p = t.lengthen besideSuffix ∨ w.journalPlace? s'.disk = some p := by
    intro p changed
    by_cases target : p = t
    · exact .inl target
    · by_cases next : p = t.lengthen besideSuffix
      · exact .inr (.inl next)
      · exact .inr (.inr (Decidable.byContradiction fun apart =>
          changed (others p target next apart)))
  -- Wherever a path leads to the place of the save, the text has landed at that path.
  have lands {path : Text} (leads : s'.disk.place? (w.store.resolve path) = some t) :
      Landed w s.disk s'.disk path q.new := by
    refine ⟨Tree.readFile_eq_ok_iff.mpr ⟨t, leads, held⟩, ?_⟩
    intro p changed
    rw [leads]
    rcases only p changed with rfl | rfl | logged
    · exact .inl rfl
    · exact .inr (.inl rfl)
    · exact .inr (.inr logged)
  refine ⟨q, asked, path, lands placed, ?_⟩
  constructor
  · intro landed
    obtain ⟨u, leads, content⟩ := Tree.readFile_eq_ok_iff.mp landed.holds
    by_cases same : u = t
    · exact .inl (by rw [placed, leads, same])
    · have unlogged := elsewhere u leads
      -- The place beside the saved file is empty, so it is not that of the request.
      have apart : u ≠ t.lengthen besideSuffix := by
        rintro rfl
        rw [beside unlogged] at content
        simp at content
      have kept := others u same apart unlogged
      refine .inr ⟨u, leads, kept ▸ content, ?_⟩
      intro p changed
      rcases landed.only p changed with target | next | logged
      · rw [leads] at target
        obtain rfl := Option.some.inj target
        exact absurd kept changed
      · rw [leads] at next
        exact .inl (Option.some.inj next).symm
      · exact .inr logged
  · rintro (same | ⟨u, leads, content, spared⟩)
    · exact lands (same ▸ placed)
    · have kept : s'.disk.fileAt u = s.disk.fileAt u := by
        refine Decidable.byContradiction fun changed => ?_
        rcases spared u changed with next | logged
        · exact Place.lengthen_ne_self (by decide) (Tree.place_ne_nil leads) next.symm
        · exact elsewhere u leads logged
      refine ⟨Tree.readFile_eq_ok_iff.mpr ⟨u, leads, kept.trans content⟩, ?_⟩
      intro p changed
      rw [leads]
      rcases spared p changed with rfl | logged
      · exact .inr (.inl rfl)
      · exact .inr (.inr logged)

/-- A writer at the root of the disk, who lets every update through and keeps no write log. -/
def plainWriter : Writer where
  store := ⟨"/", 980⟩
  dedupe := false
  rules := Omission.defaultRules
  interval := 0
  checkSyntax := false
  parsers := fun _ _ => .clean
  searchRoom := 980
  journalRoot := none
  journalRoom := 980
  today := ⟨2026, 1, 1, 0, 0, 0⟩

def consent : Approver := Approver.scripted plainWriter (fun _ => ([], .approve)) Edits.none

theorem isQuiet_consent : consent.IsQuiet where
  disk := by
    rintro q s s' ⟨⟩
    rfl
  preview := by
    rintro q s s' ⟨⟩
    rfl
  asked := by
    rintro q s s' ⟨⟩
    rfl

/-- A session on an empty disk after its first step, an update that was streamed for a path. -/
def streamedFor (path : Text) : Session :=
  ((Action.stream path "draft").perform plainWriter (Session.start ⟨[], []⟩)).2

/-- A preview that is open for another spelling of the path is as good as one for the path. -/
theorem execute_success_lands_respelled :
    ∃ answer s', execute plainWriter (streamedFor "./b.txt") ⟨"b.txt", some "x", none⟩ consent =
        (.ok answer, s') ∧ answer.status = .success ∧
      Landed plainWriter (streamedFor "./b.txt").disk s'.disk "b.txt" "x" := by
  obtain ⟨answer, s', ran, success, asked, same⟩ : ∃ answer s',
      execute plainWriter (streamedFor "./b.txt") ⟨"b.txt", some "x", none⟩ consent =
        (.ok answer, s') ∧ answer.status = .success ∧ s'.asked = [⟨"b.txt", [], "x"⟩] ∧
      s'.disk.place? (plainWriter.store.resolve "./b.txt") =
        s'.disk.place? (plainWriter.store.resolve "b.txt") := ⟨_, _, rfl, rfl, rfl, rfl⟩
  obtain ⟨q, asked', -, -, lands⟩ := execute_success_lands_iff isQuiet_consent ran success
    (by rintro q - ⟨⟩) (by rintro q - ⟨⟩)
  obtain rfl := (List.cons.inj (asked.symm.trans asked')).1
  exact ⟨answer, s', ran, success, lands.mpr (.inl same)⟩

/-- After an update that was streamed for another file, the text lands in that file. -/
theorem execute_success_not_landed :
    ∃ answer s', execute plainWriter (streamedFor "a.txt") ⟨"b.txt", some "x", none⟩ consent =
        (.ok answer, s') ∧ answer.status = .success ∧ s'.asked = [⟨"b.txt", [], "x"⟩] ∧
      s'.disk.fileAt [("a.txt" : Text)] = some (Text.Utf8.encode "x") ∧
      ¬ Landed plainWriter (streamedFor "a.txt").disk s'.disk "b.txt" "x" := by
  refine ⟨_, _, rfl, rfl, rfl, rfl, ?_⟩
  intro landed
  obtain ⟨q, placed, file⟩ := Tree.readFile_eq_ok_iff.mp landed.holds
  obtain rfl : [("b.txt" : Text)] = q := Option.some.inj placed
  exact Option.some_ne_none _ file.symm

end Redline.Write
