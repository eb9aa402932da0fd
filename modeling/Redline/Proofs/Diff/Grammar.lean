import Redline.Proofs.Diff.Partition

set_option autoImplicit false
set_option relaxedAutoImplicit false

/-!
The grammar of hunk headers. A header is `@@ -A[,B] +C[,D] @@` with whatever follows, and its numbers are
runs of digits of bounded length. A diff text is read exactly if each of its lines that begins with the
marker is such a header; otherwise the first of them that is none decides the error by itself.
-/

namespace Redline.Diff

open Number (maxDigits)
open Text (isDigit digitsValue)

/-- The numbers of a range, in the order in which they are written. -/
def RangeText.numbers (r : RangeText) : List Text := r.start :: r.count.toList

/-- Whether a run of digits is longer than what is read as a number. -/
def isOverlong (ds : Text) : Bool := decide (maxDigits < ds.length)

/-- Whether a line has the form of a header with these ranges, whatever follows the closing marker. -/
structure Declares (l : Line) (old new : RangeText) : Prop where
  oldWritten : old.IsWritten
  newWritten : new.IsWritten
  spells : ∃ remark, l = (Block.mk old new remark []).header

def IsHeader (l : Line) : Prop :=
  ∃ old new, Declares l old new ∧ ∀ ds ∈ old.numbers ++ new.numbers, ds.length ≤ maxDigits

/-- What is wrong with line number `n` if it begins with the marker and is no header. -/
inductive Faults (n : Nat) (l : Line) : ParseError → Prop
  | malformed : (∀ old new, ¬ Declares l old new) → Faults n l (.badHeader n l)
  | overlong {old new : RangeText} {ds : Text} : Declares l old new →
      (old.numbers ++ new.numbers).find? isOverlong = some ds → Faults n l (.longNumber ds.length)

def Hunk.IsDeclaredBy (h : Hunk) (l : Line) : Prop :=
  ∃ old new, Declares l old new ∧
    h.oldStart = (digitsValue old.start : Int) - 1 ∧ h.oldCount = old.size ∧
    h.newStart = (digitsValue new.start : Int) - 1 ∧ h.newCount = new.size

private theorem of_readDigits {t ds rest : Text} (read : readDigits t = some (ds, rest)) :
    IsDigits ds ∧ t = ds ++ rest := by
  unfold readDigits at read
  split at read
  · simp at read
  · rename_i some
    obtain ⟨rfl, rfl⟩ := Prod.mk.inj (Option.some.inj read)
    refine ⟨⟨by simpa using some, ?_⟩, List.takeWhile_append_dropWhile.symm⟩
    intro c mem
    exact List.mem_takeWhile_imp mem

private theorem of_readRange {t rest : Text} {r : RangeText} (read : readRange t = some (r, rest)) :
    r.IsWritten ∧ t = r.text ++ rest := by
  unfold readRange at read
  split at read
  · simp at read
  · rename_i start more first
    obtain ⟨⟨ds, rest'⟩, second, eq⟩ := Option.map_eq_some_iff.mp read
    obtain ⟨rfl, rfl⟩ := Prod.mk.inj eq
    obtain ⟨startDigits, rfl⟩ := of_readDigits first
    obtain ⟨countDigits, rfl⟩ := of_readDigits second
    refine ⟨⟨startDigits, ?_⟩, by simp [RangeText.text]⟩
    rintro _ ⟨⟩
    exact countDigits
  · rename_i start more _ first
    obtain ⟨rfl, rfl⟩ := Prod.mk.inj (Option.some.inj read)
    obtain ⟨startDigits, rfl⟩ := of_readDigits first
    exact ⟨⟨startDigits, by simp⟩, rfl⟩

theorem readHeader_eq_some_iff {l : Line} {old new : RangeText} :
    readHeader l = some (old, new) ↔ Declares l old new := by
  constructor
  · intro read
    unfold readHeader at read
    split at read
    · split at read
      · rename_i first
        split at read
        · rename_i remark second
          obtain ⟨rfl, rfl⟩ := Prod.mk.inj (Option.some.inj read)
          obtain ⟨oldWritten, rfl⟩ := of_readRange first
          obtain ⟨newWritten, rfl⟩ := of_readRange second
          exact ⟨oldWritten, newWritten, remark, by simp [Block.header]⟩
        · simp at read
      · simp at read
    · simp at read
  · rintro ⟨oldWritten, newWritten, remark, rfl⟩
    exact readHeader_header (b := ⟨old, new, remark, []⟩) oldWritten newWritten

private theorem readHeader_eq_none_iff {l : Line} :
    readHeader l = none ↔ ∀ old new, ¬ Declares l old new := by
  constructor
  · intro unread old new declares
    rw [readHeader_eq_some_iff.mpr declares] at unread
    simp at unread
  · intro undeclared
    cases read : readHeader l with
    | none => rfl
    | some p => exact absurd (readHeader_eq_some_iff.mp read) (undeclared p.1 p.2)

private theorem readNumber_eq (ds : Text) :
    readNumber ds = if isOverlong ds then .error (.longNumber ds.length) else .ok (digitsValue ds) := by
  simp [readNumber, isOverlong]

private theorem readNumbers_bind {α : Type} (r : RangeText) (next : Nat → Nat → Except ParseError α) :
    (readNumber r.start >>= fun start => readCount r.count >>= next start) =
      match r.numbers.find? isOverlong with
      | some ds => .error (.longNumber ds.length)
      | none => next (digitsValue r.start) r.size := by
  obtain ⟨start, count⟩ := r
  rw [RangeText.numbers, List.find?_cons, readNumber_eq]
  cases isOverlong start with
  | true => rfl
  | false =>
    cases count with
    | none => rfl
    | some ds =>
      simp only [readCount, readNumber_eq, Option.toList_some, List.find?_singleton, RangeText.size]
      cases isOverlong ds <;> rfl

private theorem ofHeader_of_declares {l : Line} {old new : RangeText} (declares : Declares l old new)
    (n : Nat) :
    Hunk.ofHeader n l =
      match (old.numbers ++ new.numbers).find? isOverlong with
      | some ds => .error (.longNumber ds.length)
      | none => .ok ((Block.mk old new [] []).hunk n) := by
  rw [Hunk.ofHeader, readHeader_eq_some_iff.mpr declares, List.find?_append]
  simp only
  rw [readNumbers_bind]
  cases old.numbers.find? isOverlong with
  | some ds => rfl
  | none =>
    simp only
    rw [readNumbers_bind]
    cases new.numbers.find? isOverlong <;> rfl

private theorem ofHeader_eq_error_iff {n : Nat} {l : Line} {e : ParseError} :
    Hunk.ofHeader n l = .error e ↔ Faults n l e := by
  constructor
  · intro fails
    by_cases declared : ∃ old new, Declares l old new
    · obtain ⟨old, new, declares⟩ := declared
      rw [ofHeader_of_declares declares n] at fails
      cases long : (old.numbers ++ new.numbers).find? isOverlong with
      | none => simp [long] at fails
      | some ds =>
        obtain rfl : _ = e := by simpa [long] using fails
        exact .overlong declares long
    · have undeclared : ∀ old new, ¬ Declares l old new := fun old new declares =>
        declared ⟨old, new, declares⟩
      rw [Hunk.ofHeader, readHeader_eq_none_iff.mpr undeclared] at fails
      obtain rfl := Except.error.inj fails
      exact .malformed undeclared
  · rintro (undeclared | ⟨declares, long⟩)
    · rw [Hunk.ofHeader, readHeader_eq_none_iff.mpr undeclared]
    · rw [ofHeader_of_declares declares, long]

private theorem ofHeader_eq_ok_iff {n : Nat} {l : Line} {h : Hunk} :
    Hunk.ofHeader n l = .ok h ↔
      ∃ old new, Declares l old new ∧ (∀ ds ∈ old.numbers ++ new.numbers, ds.length ≤ maxDigits) ∧
        h = (Block.mk old new [] []).hunk n := by
  have short (old new : RangeText) : (∀ ds ∈ old.numbers ++ new.numbers, ds.length ≤ maxDigits) ↔
      (old.numbers ++ new.numbers).find? isOverlong = none := by
    simp only [List.find?_eq_none, isOverlong, decide_eq_true_eq, Nat.not_lt]
  constructor
  · intro read
    cases header : readHeader l with
    | none =>
      rw [Hunk.ofHeader, header] at read
      simp at read
    | some p =>
      obtain ⟨old, new⟩ := p
      have declares := readHeader_eq_some_iff.mp header
      rw [ofHeader_of_declares declares] at read
      cases long : (old.numbers ++ new.numbers).find? isOverlong with
      | some ds => simp [long] at read
      | none =>
        obtain rfl : _ = h := by simpa [long] using read
        exact ⟨old, new, declares, (short old new).mpr long, rfl⟩
  · rintro ⟨old, new, declares, reads, rfl⟩
    rw [ofHeader_of_declares declares, (short old new).mp reads]

private theorem exists_ofHeader_iff {n : Nat} {l : Line} :
    (∃ h, Hunk.ofHeader n l = .ok h) ↔ IsHeader l := by
  constructor
  · rintro ⟨h, read⟩
    obtain ⟨old, new, declares, short, -⟩ := ofHeader_eq_ok_iff.mp read
    exact ⟨old, new, declares, short⟩
  · rintro ⟨old, new, declares, short⟩
    exact ⟨_, ofHeader_eq_ok_iff.mpr ⟨old, new, declares, short, rfl⟩⟩

private theorem isDeclaredBy_of_ofHeader {n : Nat} {l : Line} {h : Hunk}
    (read : Hunk.ofHeader n l = .ok h) (body : List Line) : { h with lines := body }.IsDeclaredBy l := by
  obtain ⟨old, new, declares, -, rfl⟩ := ofHeader_eq_ok_iff.mp read
  exact ⟨old, new, declares, rfl, rfl, rfl, rfl⟩

private theorem forall₂_isDeclaredBy_of_scanHunks {n : Nat} {ls body : List Line} {hs : List Hunk}
    (scanned : scanHunks n ls = .ok (body, hs)) :
    List.Forall₂ Hunk.IsDeclaredBy hs (ls.filter fun l => isMarker l) := by
  induction ls generalizing n body hs with
  | nil =>
    obtain ⟨rfl, rfl⟩ := Prod.mk.inj (Except.ok.inj scanned)
    exact .nil
  | cons l ls ih =>
    cases marker : isMarker l with
    | true =>
      obtain ⟨h, inner, more, read, below, rfl, rfl⟩ :=
        (scanHunks_cons_of_marker marker).mp scanned
      rw [List.filter_cons_of_pos marker]
      exact .cons (isDeclaredBy_of_ofHeader read inner) (ih below)
    | false =>
      obtain ⟨inner, below, rfl⟩ := (scanHunks_cons_of_not_marker marker).mp scanned
      rw [List.filter_cons_of_neg (by simp [marker])]
      exact ih below

private theorem scanHunks_cons_eq_error_iff {n : Nat} {l : Line} {ls : List Line} {e : ParseError} :
    scanHunks n (l :: ls) = .error e ↔
      (isMarker l = true ∧ Faults n l e) ∨
        ((isMarker l = true → IsHeader l) ∧ scanHunks (n + 1) ls = .error e) := by
  cases marker : isMarker l with
  | true =>
    simp only [scanHunks, marker, ↓reduceIte, bind_eq_error_iff, ofHeader_eq_error_iff,
      pure, Except.pure, reduceCtorEq, and_false, exists_false, or_false, exists_and_right,
      exists_ofHeader_iff, true_and, forall_const]
  | false =>
    simp only [scanHunks, marker, Bool.false_eq_true, ↓reduceIte, bind_eq_error_iff, pure, Except.pure,
      reduceCtorEq, and_false, exists_false, or_false, false_and, false_or, false_imp_iff, true_and]

private theorem exists_scanHunks_cons_iff {n : Nat} {l : Line} {ls : List Line} :
    (∃ p, scanHunks n (l :: ls) = .ok p) ↔
      (isMarker l = true → IsHeader l) ∧ ∃ p, scanHunks (n + 1) ls = .ok p := by
  cases marker : isMarker l with
  | true =>
    simp only [Prod.exists, scanHunks_cons_of_marker marker, forall_const, ← exists_ofHeader_iff (n := n)]
    constructor
    · rintro ⟨_, _, h, inner, more, read, below, -, -⟩
      exact ⟨⟨h, read⟩, inner, more, below⟩
    · rintro ⟨⟨h, read⟩, inner, more, below⟩
      exact ⟨_, _, h, inner, more, read, below, rfl, rfl⟩
  | false =>
    simp only [Prod.exists, scanHunks_cons_of_not_marker marker, Bool.false_eq_true, false_imp_iff,
      true_and]
    constructor
    · rintro ⟨_, hs, inner, below, -⟩
      exact ⟨inner, hs, below⟩
    · rintro ⟨inner, hs, below⟩
      exact ⟨_, hs, inner, below, rfl⟩

theorem scanHunks_eq_error_iff {n : Nat} {ls : List Line} {e : ParseError} :
    scanHunks n ls = .error e ↔
      ∃ before l after, ls = before ++ l :: after ∧
        (∀ m ∈ before, isMarker m = true → IsHeader m) ∧ isMarker l = true ∧
        Faults (n + before.length) l e := by
  induction ls generalizing n with
  | nil => simp [scanHunks]
  | cons m ls ih =>
    rw [scanHunks_cons_eq_error_iff, ih]
    constructor
    · rintro (⟨marker, fault⟩ | ⟨first, before, l, after, rfl, others, marker, fault⟩)
      · exact ⟨[], m, ls, rfl, by simp, marker, fault⟩
      · refine ⟨m :: before, l, after, rfl, List.forall_mem_cons.mpr ⟨first, others⟩, marker, ?_⟩
        rwa [List.length_cons, Nat.add_comm before.length, ← Nat.add_assoc]
    · rintro ⟨before, l, after, split, headers, marker, fault⟩
      cases before with
      | nil =>
        obtain ⟨rfl, rfl⟩ := List.cons.inj split
        exact .inl ⟨marker, fault⟩
      | cons b before =>
        obtain ⟨rfl, rfl⟩ := List.cons.inj split
        obtain ⟨first, others⟩ := List.forall_mem_cons.mp headers
        refine .inr ⟨first, before, l, after, rfl, others, marker, ?_⟩
        rwa [List.length_cons, Nat.add_comm before.length, ← Nat.add_assoc] at fault

private theorem exists_scanHunks_iff {n : Nat} {ls : List Line} :
    (∃ p, scanHunks n ls = .ok p) ↔ ∀ l ∈ ls, isMarker l = true → IsHeader l := by
  induction ls generalizing n with
  | nil => simp [scanHunks]
  | cons l ls ih => rw [exists_scanHunks_cons_iff, ih, List.forall_mem_cons]

private theorem exists_parse_iff {diff : Text} :
    (∃ hs, parse diff = .ok hs) ↔ ∀ l ∈ diff.lines, isMarker l = true → IsHeader l := by
  rw [← exists_scanHunks_iff (n := 1)]
  simp only [parse, map_eq_ok_iff]
  constructor
  · rintro ⟨_, p, scanned, -⟩
    exact ⟨p, scanned⟩
  · rintro ⟨p, scanned⟩
    exact ⟨_, p, scanned, rfl⟩

/--
A diff text is read exactly if each line that begins with the marker is a header, and then the hunks have
the numbers of the headers. Otherwise the error is that of the first such line that is no header: it
depends on that line and its number, and on nothing else in the text.
-/
theorem parse_accepts_header_grammar (diff : Text) :
    ((∃ hs, parse diff = .ok hs) ↔ ∀ l ∈ diff.lines, isMarker l = true → IsHeader l) ∧
      (∀ hs, parse diff = .ok hs →
        List.Forall₂ Hunk.IsDeclaredBy hs (diff.lines.filter fun l => isMarker l)) ∧
      ∀ e, parse diff = .error e ↔
        ∃ before l after, diff.lines = before ++ l :: after ∧
          (∀ m ∈ before, isMarker m = true → IsHeader m) ∧ isMarker l = true ∧
          Faults (before.length + 1) l e := by
  refine ⟨exists_parse_iff, fun hs parsed => ?_, fun e => ?_⟩
  · obtain ⟨⟨body, hs'⟩, scanned, rfl⟩ := map_eq_ok_iff.mp parsed
    exact forall₂_isDeclaredBy_of_scanHunks scanned
  · rw [parse, map_eq_error_iff, scanHunks_eq_error_iff]
    simp only [Nat.add_comm]

/-- The third line is no header, whatever follows it; the digits of the first may be of any script. -/
example : parse ("@@ -٣ +1,2 @@ f\n+x\n@@ -1,2 +1,3\n@@" : Text) =
    .error (.badHeader 3 "@@ -1,2 +1,3") := by
  rfl

end Redline.Diff
