import Redline.Proofs.Text.Lines
import Redline.Proofs.Text.Utf8
import Redline.Text.Reader

set_option autoImplicit false
set_option relaxedAutoImplicit false

/-!
Files of text. A chunk may end inside a character or between a carriage return and a line feed; then what
has begun is kept, and the carriage return waits. So what is read, chunk after chunk, is the whole text
with line feeds for its line breaks.
-/

namespace Redline.Text

open Utf8 (Bytes FallShort encode encodeChar)

theorem withLineFeeds_cons_of_ne {c : Char} (other : c ≠ '\r') (t : Text) :
    withLineFeeds (c :: t) = c :: withLineFeeds t := by
  rw [withLineFeeds]
  · simp [other]
  · intro _ eq
    exact absurd eq other

theorem withLineFeeds_return_of_ne {t : Text} (apart : t.head? ≠ some '\n') :
    withLineFeeds ('\r' :: t) = '\n' :: withLineFeeds t := by
  rw [withLineFeeds]
  · rfl
  · rintro r - rfl
    exact apart rfl

private theorem withLineFeeds_append {a b : Text} (apart : a.getLast? = some '\r' → b.head? ≠ some '\n') :
    withLineFeeds (a ++ b) = withLineFeeds a ++ withLineFeeds b := by
  fun_induction withLineFeeds a with
  | case1 => rfl
  | case2 t ih =>
    have rest : withLineFeeds (t ++ b) = withLineFeeds t ++ withLineFeeds b := by
      refine ih fun last => apart ?_
      rw [List.getLast?_cons_cons, List.getLast?_cons, last]
      rfl
    rw [List.cons_append, List.cons_append, withLineFeeds, rest]
    rfl
  | case3 c t single ih =>
    have rest : withLineFeeds (t ++ b) = withLineFeeds t ++ withLineFeeds b := by
      refine ih fun last => apart ?_
      rw [List.getLast?_cons, last]
      rfl
    by_cases held : c = '\r'
    · subst held
      have notFeed : (t ++ b).head? ≠ some '\n' := by
        cases t with
        | nil => exact apart rfl
        | cons d t =>
          intro feed
          obtain rfl : d = '\n' := by simpa using feed
          exact single t rfl rfl
      rw [List.cons_append, withLineFeeds_return_of_ne notFeed, rest]
      rfl
    · rw [List.cons_append, withLineFeeds_cons_of_ne held, rest]
      simp [held]

theorem withLineFeeds_of_return_not_mem {t : Text} (noReturn : '\r' ∉ t) : withLineFeeds t = t := by
  induction t with
  | nil => rfl
  | cons c t ih =>
    have other : c ≠ '\r' := fun eq => noReturn (eq ▸ List.mem_cons_self)
    have rest : '\r' ∉ t := fun mem => noReturn (List.mem_cons_of_mem c mem)
    rw [withLineFeeds_cons_of_ne other, ih rest]

namespace Reader

def waiting (held : Bool) : Text := if held then ['\r'] else []

private theorem release_of_ne_nil (held : Bool) {t : Text} (some : t ≠ []) :
    release held false t =
      if endsWith (waiting held ++ t) ['\r'] then ((waiting held ++ t).dropLast, true)
      else (waiting held ++ t, false) := by
  have notEmpty : t.isEmpty = false := by simpa using some
  cases held <;> simp [release, waiting, notEmpty]

private theorem withLineFeeds_release (held : Bool) (t next : Text) :
    withLineFeeds (waiting held ++ t ++ next) = withLineFeeds (release held false t).1 ++
      withLineFeeds (waiting (release held false t).2 ++ next) := by
  by_cases none : t = []
  · subst none
    simp [release, endsWith, withLineFeeds]
  · rw [release_of_ne_nil held none]
    generalize waiting held ++ t = s
    cases ends : endsWith s ['\r'] with
    | false =>
      have notLast : ¬ s.getLast? = some '\r' := by
        rw [← endsWith_singleton, ends]
        decide
      exact withLineFeeds_append fun last => absurd last notLast
    | true =>
      obtain ⟨front, rfl⟩ := List.getLast?_eq_some_iff.mp (endsWith_singleton.mp ends)
      have cut : withLineFeeds (front ++ ('\r' :: next)) =
          withLineFeeds front ++ withLineFeeds ('\r' :: next) :=
        withLineFeeds_append fun _ => by simp
      simpa [waiting] using cut

/-- Whether a reader has yet to give the line breaks of a text. -/
structure Awaits (r : Reader) (rest : Text) : Prop where
  bytes : r.kept ++ r.ahead = encode rest
  begun : FallShort r.kept rest

private theorem Awaits.eq_nil {r : Reader} {rest : Text} (awaits : Awaits r rest) (last : r.ahead = []) :
    rest = [] ∧ r.kept = [] := by
  have kept : r.kept = encode rest := by
    rw [← awaits.bytes, last, List.append_nil]
  cases rest with
  | nil => exact ⟨rfl, kept⟩
  | cons c rest =>
    have short := awaits.begun c rest rfl
    rw [kept, encode, List.flatMap_cons, List.length_append] at short
    omega

private theorem Awaits.pull {r : Reader} {rest : Text} (awaits : Awaits r rest) (some : r.ahead ≠ [])
    {size : Nat} (positive : 0 < size) :
    ∃ next r', Reader.pull size r = .ok (r', true) ∧ Awaits r' next ∧
      r'.ahead.length < r.ahead.length ∧
      r.ready ++ withLineFeeds (waiting r.held ++ rest) =
        r'.ready ++ withLineFeeds (waiting r'.held ++ next) := by
  have chunk : (r.ahead.take size).isEmpty = false := by
    simp [List.isEmpty_eq_false_iff, List.take_eq_nil_iff, some, Nat.ne_of_gt positive]
  have taken : r.kept ++ r.ahead.take size = (encode rest).take (r.kept.length + size) := by
    rw [← awaits.bytes, List.take_length_add_append]
  obtain ⟨read, next, kept, rfl, cut, short, decoded⟩ :=
    Utf8.exists_decodeFrom_take rest (r.kept.length + size) 0
  rw [← taken] at cut decoded
  have ahead : kept ++ r.ahead.drop size = encode next := by
    have whole : encode read ++ (kept ++ r.ahead.drop size) = encode read ++ encode next := by
      rw [← Utf8.encode_append, ← awaits.bytes, ← List.append_assoc, ← cut, List.append_assoc,
        List.take_append_drop]
    exact List.append_cancel_left whole
  have released := withLineFeeds_release r.held read next
  unfold Reader.pull
  simp only [chunk, Bool.false_eq_true, if_false, decoded, Except.map]
  refine ⟨next, _, rfl, ⟨ahead, short⟩, ?_, ?_⟩
  · rw [List.length_drop]
    have positive := List.length_pos_iff.mpr some
    omega
  · rw [← List.append_assoc (waiting r.held), released, List.append_assoc]

private theorem readableWithin_of_exhausted (pulls : Nat) (ready : Text) (density : Nat × Nat) :
    readableWithin pulls ⟨[], [], false, ready, density⟩ = (ready, none) := by
  cases pulls with
  | zero => rfl
  | succ pulls =>
    simp [readableWithin, pull, Utf8.decode, Utf8.decodeFrom, Except.map, release, endsWith,
      withLineFeeds]

private theorem readableWithin_of_waiting {pulls : Nat} (some : 0 < pulls) (ready : Text)
    (density : Nat × Nat) :
    readableWithin pulls ⟨[], [], true, ready, density⟩ = (ready ++ ['\n'], none) := by
  obtain ⟨pulls, rfl⟩ := Nat.exists_eq_succ_of_ne_zero (Nat.ne_of_gt some)
  have last := readableWithin_of_exhausted pulls (ready ++ ['\n']) (0, 1)
  simpa [readableWithin, pull, Utf8.decode, Utf8.decodeFrom, Except.map, release, endsWith,
    withLineFeeds] using last

private theorem readableWithin_of_awaits {pulls : Nat} {r : Reader} {rest : Text} (awaits : Awaits r rest)
    (enough : r.ahead.length < pulls) :
    readableWithin pulls r = (r.ready ++ withLineFeeds (waiting r.held ++ rest), none) := by
  induction pulls generalizing r rest with
  | zero => omega
  | succ pulls ih =>
    by_cases last : r.ahead = []
    · obtain ⟨rfl, none⟩ := awaits.eq_nil last
      obtain ⟨ahead, kept, held, ready, density⟩ := r
      obtain rfl : ahead = [] := last
      obtain rfl : kept = [] := none
      cases held with
      | false => simpa [waiting, withLineFeeds] using
          readableWithin_of_exhausted (pulls + 1) ready density
      | true => simpa [waiting, withLineFeeds] using
          readableWithin_of_waiting (Nat.succ_pos pulls) ready density
    · obtain ⟨next, r', pulled, awaits', fewer, same⟩ :=
        awaits.pull last (show 0 < chunkSize by decide)
      rw [readableWithin, pulled, same]
      exact ih awaits' (by omega)

theorem readable_encode (t : Text) : readable (encode t) = (withLineFeeds t, none) := by
  have awaits : Awaits (start (encode t)) t := by
    refine ⟨rfl, ?_⟩
    rintro c r rfl
    exact List.length_pos_iff.mpr (Utf8.sequence_encodeChar c).ne_nil
  have enough : (start (encode t)).ahead.length < (start (encode t)).chunks := by
    rw [chunks]
    omega
  exact readableWithin_of_awaits awaits enough

end Reader

end Redline.Text
