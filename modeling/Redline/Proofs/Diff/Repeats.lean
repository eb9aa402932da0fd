import Mathlib.Data.List.Destutter
import Redline.Proofs.Diff.Placement

set_option autoImplicit false
set_option relaxedAutoImplicit false

/-!
Repeated lines. Whether they are dropped makes no difference to whether a diff applies, nor to the error
if it does not. When it applies, the lines emitted with dropping are those emitted without it, less some
copied lines that each repeat the line before them; what bodies write and what is left over stays.
-/

namespace Redline.Diff

/-- The lines that a diff makes of a text, with their origins. -/
def emitted (dedupe : Bool) (old : Text) (diff : Source) : Except ApplyError (List Emitted) :=
  match diff.toHunks with
  | .error e => .error (.parse e)
  | .ok hs => (emit dedupe none 0 old.lines hs).mapError diff.raise

/--
Whether emitted lines become others when copied lines that repeat the line before them are left out.
The line before the first one is `prev`; a line that is left out counts as the one before the next.
-/
inductive Thins : Option Line → List Emitted → List Emitted → Prop
  | nil (prev : Option Line) : Thins prev [] []
  | keep {prev : Option Line} {e : Emitted} {full thin : List Emitted} :
      Thins (some e.line) full thin → Thins prev (e :: full) (e :: thin)
  | drop {l : Line} {full thin : List Emitted} :
      Thins (some l) full thin → Thins (some l) (⟨.copied, l⟩ :: full) thin

def NoCopyRepeats (es : List Emitted) : Prop :=
  ∀ i l, es[i + 1]? = some ⟨.copied, l⟩ → es[i]?.map Emitted.line ≠ some l

@[simp]
theorem lastAfter_cons (prev : Option Line) (l : Line) (ls : List Line) :
    lastAfter prev (l :: ls) = lastAfter (some l) ls := by
  rw [lastAfter, lastAfter, List.getLast?_cons]
  cases ls.getLast? <;> rfl

private theorem lastAfter_append (prev : Option Line) (ls ms : List Line) :
    lastAfter prev (ls ++ ms) = lastAfter (lastAfter prev ls) ms := by
  induction ls generalizing prev with
  | nil => rfl
  | cons l ls ih => rw [List.cons_append, lastAfter_cons, lastAfter_cons, ih]

private theorem lastAfter_copyLines (dedupe : Bool) (prev : Option Line) (ls : List Line) :
    lastAfter prev (copyLines dedupe prev ls) = lastAfter prev ls := by
  induction ls generalizing prev with
  | nil => rfl
  | cons l ls ih =>
    unfold copyLines
    split
    · rename_i repeated
      obtain ⟨-, same⟩ : dedupe = true ∧ prev = some l := by simpa using repeated
      rw [ih, lastAfter_cons, same]
    · rw [lastAfter_cons, lastAfter_cons, ih]

namespace Thins

variable {prev : Option Line} {full thin : List Emitted}

private theorem refl (prev : Option Line) (es : List Emitted) : Thins prev es es := by
  induction es generalizing prev with
  | nil => exact .nil prev
  | cons e es ih => exact .keep (ih _)

private theorem append {full' thin' : List Emitted} (first : Thins prev full thin)
    (second : Thins (lastAfter prev (full.map Emitted.line)) full' thin') :
    Thins prev (full ++ full') (thin ++ thin') := by
  induction first with
  | nil prev => exact second
  | keep _ ih =>
    rw [List.map_cons, lastAfter_cons] at second
    exact .keep (ih second)
  | drop _ ih =>
    rw [List.map_cons, lastAfter_cons] at second
    exact .drop (ih second)

private theorem copyLines (prev : Option Line) (ls : List Line) :
    Thins prev (ls.map (⟨.copied, ·⟩)) ((Diff.copyLines true prev ls).map (⟨.copied, ·⟩)) := by
  induction ls generalizing prev with
  | nil => exact .nil prev
  | cons l ls ih =>
    unfold Diff.copyLines
    split
    · rename_i repeated
      obtain rfl : prev = some l := by simpa using repeated
      exact .drop (ih (some l))
    · exact .keep (ih (some l))

private theorem sublist (thins : Thins prev full thin) : thin.Sublist full := by
  induction thins with
  | nil _ => exact .slnil
  | keep _ ih => exact ih.cons_cons _
  | drop _ ih => exact ih.cons _

private theorem destutter'_eq {p : Line} (thins : Thins (some p) full thin) :
    (thin.map Emitted.line).destutter' (· ≠ ·) p = (full.map Emitted.line).destutter' (· ≠ ·) p := by
  generalize here : some p = prev at thins
  -- A dropped line is the one before it, which `destutter'` passes over in the other list.
  induction thins generalizing p with
  | nil _ => rfl
  | @keep _ e full thin _ ih =>
    simp only [List.map_cons, List.destutter'_cons]
    split
    · rw [ih rfl]
    · rename_i same
      obtain rfl : p = e.line := by simpa using same
      exact ih rfl
  | @drop l full thin _ ih =>
    obtain rfl : p = l := Option.some.inj here
    simpa using ih rfl

private theorem destutter_eq (thins : Thins none full thin) :
    (thin.map Emitted.line).destutter (· ≠ ·) = (full.map Emitted.line).destutter (· ≠ ·) := by
  cases thins with
  | nil _ => rfl
  | keep thins => exact destutter'_eq thins

private theorem eq_of_noCopyRepeats (thins : Thins prev full thin) (clear : NoCopyRepeats full)
    (start : ∀ l, full.head? = some ⟨.copied, l⟩ → prev ≠ some l) : thin = full := by
  induction thins with
  | nil _ => rfl
  | @keep _ e full thin _ ih =>
    refine congrArg (e :: ·) (ih (fun i l here => clear (i + 1) l here) ?_)
    intro l head
    exact clear 0 l (by simpa [List.head?_eq_getElem?] using head)
  | drop _ _ => exact absurd rfl (start _ rfl)

end Thins

theorem emit_cons (dedupe : Bool) (prev : Option Line) (cursor : Nat) (rest : List Line) (h : Hunk)
    (hs : List Hunk) :
    emit dedupe prev cursor rest (h :: hs) =
      match h.locate cursor rest with
      | .error e => .error e
      | .ok (before, here) =>
        match replay (h.headerLine + 1) here h.body with
        | .error e => .error e
        | .ok (out, left) =>
          (emit dedupe (lastAfter prev (before ++ out)) (cursor + (rest.length - left.length)) left
            hs).map fun more =>
              (copyLines dedupe prev before).map (⟨.copied, ·⟩) ++ out.map (⟨.written, ·⟩) ++ more := by
  rw [emit]
  cases h.locate cursor rest with
  | error e => rfl
  | ok found =>
    obtain ⟨before, here⟩ := found
    simp only [bind, Except.bind]
    cases replay (h.headerLine + 1) here h.body with
    | error e => rfl
    | ok replayed =>
      obtain ⟨out, left⟩ := replayed
      simp only
      rw [lastAfter_append, lastAfter_copyLines, ← lastAfter_append]
      generalize emit dedupe _ _ _ _ = more
      cases more <;> rfl

private theorem emit_thins (prev : Option Line) (cursor : Nat) (rest : List Line) (hs : List Hunk) :
    (∃ e, emit false prev cursor rest hs = .error e ∧ emit true prev cursor rest hs = .error e) ∨
      ∃ full thin, emit false prev cursor rest hs = .ok full ∧
        emit true prev cursor rest hs = .ok thin ∧ Thins prev full thin := by
  -- The line emitted last is the same in both, so one `prev` serves the two runs.
  induction hs generalizing prev cursor rest with
  | nil => exact .inr ⟨_, _, rfl, rfl, .refl prev _⟩
  | cons h hs ih =>
    simp only [emit_cons]
    cases h.locate cursor rest with
    | error e => exact .inl ⟨e, rfl, rfl⟩
    | ok found =>
      obtain ⟨before, here⟩ := found
      simp only
      cases replay (h.headerLine + 1) here h.body with
      | error e => exact .inl ⟨e, rfl, rfl⟩
      | ok replayed =>
        obtain ⟨out, left⟩ := replayed
        simp only
        obtain ⟨e, plain, deduped⟩ | ⟨full, thin, plain, deduped, thins⟩ :=
          ih (lastAfter prev (before ++ out)) (cursor + (rest.length - left.length)) left
        · rw [plain, deduped]
          exact .inl ⟨e, rfl, rfl⟩
        · rw [plain, deduped]
          refine .inr ⟨_, _, rfl, rfl, ?_⟩
          rw [copyLines_false]
          have body := (Thins.copyLines prev before).append (.refl _ (out.map (⟨.written, ·⟩)))
          refine body.append ?_
          simpa [Function.comp_def] using thins

theorem apply_eq_map_emitted (dedupe : Bool) (old : Text) (diff : Source) :
    apply dedupe old diff = (emitted dedupe old diff).map textOf := by
  unfold apply emitted applyHunks
  cases diff.toHunks with
  | error e => rfl
  | ok hs =>
    simp only
    generalize emit dedupe none 0 old.lines hs = es
    cases es <;> rfl

private theorem emitted_thins (old : Text) (diff : Source) :
    (∃ e, emitted false old diff = .error e ∧ emitted true old diff = .error e) ∨
      ∃ full thin, emitted false old diff = .ok full ∧ emitted true old diff = .ok thin ∧
        Thins none full thin := by
  unfold emitted
  cases diff.toHunks with
  | error e => exact .inl ⟨_, rfl, rfl⟩
  | ok hs =>
    simp only
    obtain ⟨e, plain, deduped⟩ | ⟨full, thin, plain, deduped, thins⟩ :=
      emit_thins none 0 old.lines hs
    · rw [plain, deduped]
      exact .inl ⟨_, rfl, rfl⟩
    · rw [plain, deduped]
      exact .inr ⟨full, thin, rfl, rfl, thins⟩

/--
With and without dropping repeated lines, a diff fails with the same error or applies. When it applies,
dropping leaves out only copied lines that repeat the line before them, so the results are the same up to
runs of equal lines, and the same outright if no copied line repeats the line before it.
-/
theorem apply_thins_copied_repeats (old : Text) (diff : Source) :
    (∃ e, apply false old diff = .error e ∧ apply true old diff = .error e) ∨
      ∃ full thin, emitted false old diff = .ok full ∧ emitted true old diff = .ok thin ∧
        apply false old diff = .ok (textOf full) ∧ apply true old diff = .ok (textOf thin) ∧
        Thins none full thin ∧ thin.Sublist full ∧
        (thin.map Emitted.line).destutter (· ≠ ·) = (full.map Emitted.line).destutter (· ≠ ·) ∧
        (NoCopyRepeats full → thin = full) := by
  simp only [apply_eq_map_emitted]
  obtain ⟨e, plain, deduped⟩ | ⟨full, thin, plain, deduped, thins⟩ := emitted_thins old diff
  · rw [plain, deduped]
    exact .inl ⟨e, rfl, rfl⟩
  · rw [plain, deduped]
    have same (clear : NoCopyRepeats full) : thin = full :=
      thins.eq_of_noCopyRepeats clear fun l _ => by simp
    exact .inr ⟨full, thin, rfl, rfl, rfl, rfl, thins, thins.sublist, thins.destutter_eq, same⟩

/-- The second empty line is dropped before the hunk; the one after it is left over and stays. -/
example : apply true ("a\n\n\nb\n\n" : Text) (.text ("@@ -4 +4 @@\n-b\n+c" : Text)) =
    .ok ("a\n\nc\n\n" : Text) := by
  rfl

end Redline.Diff
