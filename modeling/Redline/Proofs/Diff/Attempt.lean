import Redline.Diff.Report
import Redline.Proofs.Diff.Grammar

set_option autoImplicit false
set_option relaxedAutoImplicit false

/-!
Attempts report what applying does. Whatever applying gives or refuses, an attempt reports it as a value,
with the same content or the same error. Only a number that is too long escapes: one in the first line of
the diff that cannot be read, or the number of the line that an error about hunks at hand tells.
-/

namespace Redline.Diff

open Number (maxDigits)

/-- What an attempt says of itself. Where there is no error, its texts are empty. -/
structure Summary where
  success : Bool
  content : Text
  hunksApplied : Nat
  errorKind : Text
  errorMessage : Text
  lineNumber? : Option Int
  line? : Option Line
  deriving Repr, DecidableEq

def Attempt.summary (a : Attempt) : Summary where
  success := a.error?.isNone
  content := a.content
  hunksApplied := a.hunksApplied
  errorKind := (a.error?.map ApplyError.kind).getD []
  errorMessage := (a.error?.map ApplyError.message).getD []
  lineNumber? := a.error?.bind ApplyError.lineNumber?
  line? := a.error?.bind ApplyError.line?

def ApplyError.IsAboutDiff (e : ApplyError) : Prop := e.kind = "parse" ∨ e.kind = "patch"

/-- Whether a line has the form of a header, but one of its numbers is longer than what is read. -/
def IsOverlongHeader (l : Line) : Prop :=
  ∃ old new, Declares l old new ∧ ∃ ds ∈ old.numbers ++ new.numbers, maxDigits < ds.length

/-- Whether a line begins with the marker and is no header, while such lines above it are headers. -/
def IsFirstUnreadable (ls : List Line) (l : Line) : Prop :=
  isMarker l = true ∧ ¬ IsHeader l ∧
    ∃ before after, ls = before ++ l :: after ∧ ∀ m ∈ before, isMarker m = true → IsHeader m

variable {dedupe : Bool} {old : Text} {diff : Source}

private theorem ApplyError.isAboutDiff_iff (e : ApplyError) : e.isAboutDiff = true ↔ e.IsAboutDiff := by
  have valueError : ¬ (("ValueError" : Text) = "parse" ∨ ("ValueError" : Text) = "patch") := by decide
  cases e with
  | patch e => exact ⟨fun _ => .inr rfl, fun _ => rfl⟩
  | longNumber => exact ⟨fun about => (Bool.false_ne_true about).elim, fun about => absurd about valueError⟩
  | parse e =>
    cases e with
    | badHeader n l => exact ⟨fun _ => .inl rfl, fun _ => rfl⟩
    | longNumber digits =>
      exact ⟨fun about => (Bool.false_ne_true about).elim, fun about => absurd about valueError⟩

private theorem ApplyError.report_of_isAboutDiff {e : ApplyError} (about : e.IsAboutDiff) :
    e.report = .ok (.refused e) :=
  if_pos (e.isAboutDiff_iff.mpr about)

private theorem ApplyError.report_eq_error_iff {e e' : ApplyError} :
    e.report = .error e' ↔ e = e' ∧ ¬ e'.IsAboutDiff := by
  by_cases about : e.IsAboutDiff
  · rw [report_of_isAboutDiff about]
    refine iff_of_false (by simp) ?_
    rintro ⟨rfl, other⟩
    exact other about
  · have escapes : e.report = .error e := if_neg fun told => about (e.isAboutDiff_iff.mp told)
    rw [escapes, Except.error.injEq]
    refine ⟨?_, And.left⟩
    rintro rfl
    exact ⟨rfl, about⟩

private theorem Source.raise_isAboutDiff_iff {e : PatchError} :
    (diff.raise e).IsAboutDiff ↔ ∀ hs, diff = .hunks hs → e.isLong = false := by
  rw [← ApplyError.isAboutDiff_iff]
  cases diff with
  | text t => simp [Source.raise, ApplyError.isAboutDiff]
  | hunks hs => cases long : e.isLong <;> simp [Source.raise, long, ApplyError.isAboutDiff]

private theorem apply_eq_ok_iff {content : Text} : apply dedupe old diff = .ok content ↔
    ∃ hunks, diff.toHunks = .ok hunks ∧ applyHunks dedupe old hunks = .ok content := by
  cases parsed : diff.toHunks with
  | error e => simp [apply, parsed]
  | ok hunks => simp [apply, parsed, mapError_eq_ok_iff]

private theorem apply_eq_error_iff {e : ApplyError} : apply dedupe old diff = .error e ↔
    (∃ p, diff.toHunks = .error p ∧ e = .parse p) ∨
      ∃ hunks q, diff.toHunks = .ok hunks ∧ applyHunks dedupe old hunks = .error q ∧
        e = diff.raise q := by
  cases parsed : diff.toHunks with
  | error p => simp [apply, parsed, @eq_comm _ e]
  | ok hunks => simp [apply, parsed, mapError_eq_error_iff, @eq_comm _ e]

private theorem attempt_of_apply_eq_ok {content : Text} (applied : apply dedupe old diff = .ok content) :
    ∃ hunks, diff.toHunks = .ok hunks ∧
      attempt dedupe old diff = .ok (.applied content hunks.length) := by
  obtain ⟨hunks, parsed, emitted⟩ := apply_eq_ok_iff.mp applied
  refine ⟨hunks, parsed, ?_⟩
  simp only [attempt, parsed, emitted]

private theorem attempt_of_apply_eq_error {e : ApplyError} (fails : apply dedupe old diff = .error e) :
    attempt dedupe old diff = e.report := by
  obtain ⟨p, unread, rfl⟩ | ⟨hunks, q, parsed, stops, rfl⟩ := apply_eq_error_iff.mp fails
  · simp only [attempt, unread]
  · simp only [attempt, parsed, stops]

private theorem attempt_eq_error_iff {e : ApplyError} : attempt dedupe old diff = .error e ↔
    apply dedupe old diff = .error e ∧ ¬ e.IsAboutDiff := by
  cases result : apply dedupe old diff with
  | ok content =>
    obtain ⟨hunks, -, reported⟩ := attempt_of_apply_eq_ok result
    simp [reported]
  | error e' =>
    rw [attempt_of_apply_eq_error result, ApplyError.report_eq_error_iff, Except.error.injEq]

private theorem Declares.unique {l : Line} {old old' new new' : RangeText} (first : Declares l old new)
    (second : Declares l old' new') : old = old' ∧ new = new' := by
  have same := (readHeader_eq_some_iff.mpr first).symm.trans (readHeader_eq_some_iff.mpr second)
  exact Prod.mk.inj (Option.some.inj same)

private theorem IsOverlongHeader.not_isHeader {l : Line} (overlong : IsOverlongHeader l) :
    ¬ IsHeader l := by
  obtain ⟨old, new, declares, ds, mem, long⟩ := overlong
  rintro ⟨old', new', declares', short⟩
  obtain ⟨rfl, rfl⟩ := declares.unique declares'
  have fits := short ds mem
  omega

private theorem exists_faults_longNumber_iff {n : Nat} {l : Line} :
    (∃ digits, Faults n l (.longNumber digits)) ↔ IsOverlongHeader l := by
  constructor
  · rintro ⟨_, fault⟩
    cases fault with
    | overlong declares found =>
      have long := List.find?_some found
      exact ⟨_, _, declares, _, List.mem_of_find?_eq_some found, of_decide_eq_true long⟩
  · rintro ⟨old, new, declares, ds, mem, long⟩
    have some : ((old.numbers ++ new.numbers).find? isOverlong).isSome :=
      List.find?_isSome.mpr ⟨ds, mem, decide_eq_true long⟩
    obtain ⟨first, found⟩ := Option.isSome_iff_exists.mp some
    exact ⟨first.length, .overlong declares found⟩

private theorem exists_parse_longNumber_iff {t : Text} :
    (∃ digits, parse t = .error (.longNumber digits)) ↔
      ∃ l, IsFirstUnreadable t.lines l ∧ IsOverlongHeader l := by
  simp only [parse, map_eq_error_iff, scanHunks_eq_error_iff]
  constructor
  · rintro ⟨digits, before, l, after, split, headers, marker, fault⟩
    have overlong := exists_faults_longNumber_iff.mp ⟨digits, fault⟩
    exact ⟨l, ⟨marker, overlong.not_isHeader, before, after, split, headers⟩, overlong⟩
  · rintro ⟨l, ⟨marker, -, before, after, split, headers⟩, overlong⟩
    obtain ⟨digits, fault⟩ := exists_faults_longNumber_iff.mpr overlong
    exact ⟨digits, before, l, after, split, headers, marker, fault⟩

private theorem exists_toHunks_longNumber_iff :
    (∃ digits, diff.toHunks = .error (.longNumber digits)) ↔
      ∃ t, diff = .text t ∧ ∃ l, IsFirstUnreadable t.lines l ∧ IsOverlongHeader l := by
  cases diff with
  | hunks hs => simp [Source.toHunks]
  | text t => simp [Source.toHunks, exists_parse_longNumber_iff]

private theorem exists_apply_eq_error_iff :
    (∃ e, apply dedupe old diff = .error e ∧ ¬ e.IsAboutDiff) ↔
      (∃ digits, diff.toHunks = .error (.longNumber digits)) ∨
        ∃ hs e, diff = .hunks hs ∧ applyHunks dedupe old hs = .error e ∧ e.isLong = true := by
  constructor
  · rintro ⟨e, fails, other⟩
    obtain ⟨p, unread, rfl⟩ | ⟨hunks, q, parsed, stops, rfl⟩ := apply_eq_error_iff.mp fails
    · cases p with
      | badHeader n l => exact absurd (.inl rfl) other
      | longNumber digits => exact .inl ⟨digits, unread⟩
    · rw [Source.raise_isAboutDiff_iff] at other
      push Not at other
      obtain ⟨hs, rfl, long⟩ := other
      obtain rfl := Except.ok.inj parsed
      exact .inr ⟨hs, q, rfl, stops, by simpa using long⟩
  · rintro (⟨digits, unread⟩ | ⟨hs, e, rfl, stops, long⟩)
    · refine ⟨_, apply_eq_error_iff.mpr (.inl ⟨_, unread, rfl⟩), ?_⟩
      exact (ApplyError.isAboutDiff_iff _).not.mp Bool.false_ne_true
    · refine ⟨_, apply_eq_error_iff.mpr (.inr ⟨hs, e, rfl, stops, rfl⟩), fun about => ?_⟩
      rw [Source.raise_isAboutDiff_iff.mp about hs rfl] at long
      exact Bool.false_ne_true long

/--
What applying gives, an attempt reports with the number of hunks; what applying refuses because of the
diff, it reports with the kind, the message and the place of the error. It fails exactly if applying fails
for another reason, and in the same way: with a text, if the first line that begins with the marker and is
no header has the form of one, with a number that is too long; with hunks at hand, if the line number that
the error of the failing hunk tells is too long to be written.
-/
theorem attempt_agrees_with_apply (dedupe : Bool) (old : Text) (diff : Source) :
    (∀ content, apply dedupe old diff = .ok content →
      ∃ a hunks, attempt dedupe old diff = .ok a ∧ diff.toHunks = .ok hunks ∧
        a.summary = ⟨true, content, hunks.length, [], [], none, none⟩) ∧
    (∀ e, apply dedupe old diff = .error e → e.IsAboutDiff →
      ∃ a, attempt dedupe old diff = .ok a ∧
        a.summary = ⟨false, [], 0, e.kind, e.message, e.lineNumber?, e.line?⟩) ∧
    (∀ e, attempt dedupe old diff = .error e ↔
      apply dedupe old diff = .error e ∧ ¬ e.IsAboutDiff) ∧
    ((∃ e, attempt dedupe old diff = .error e) ↔
      (∃ t, diff = .text t ∧ ∃ l, IsFirstUnreadable t.lines l ∧ IsOverlongHeader l) ∨
        ∃ hs e, diff = .hunks hs ∧ applyHunks dedupe old hs = .error e ∧ e.isLong = true) := by
  refine ⟨?_, ?_, fun e => attempt_eq_error_iff, ?_⟩
  · intro content applied
    obtain ⟨hunks, parsed, reported⟩ := attempt_of_apply_eq_ok applied
    exact ⟨_, hunks, reported, parsed, rfl⟩
  · intro e fails aboutDiff
    refine ⟨.refused e, ?_, rfl⟩
    rw [attempt_of_apply_eq_error fails, ApplyError.report_of_isAboutDiff aboutDiff]
  · simp only [attempt_eq_error_iff]
    rw [exists_apply_eq_error_iff, exists_toHunks_longNumber_iff]

/-- A hunk that asks for one line more than there is, in a line whose number is too long. -/
def farHunk : Hunk := ⟨0, 2, 0, 0, ["-a", "-b"], Nat.pow 10 maxDigits - 2⟩

/-- Neither way of applying reports what is wrong with the hunk: both stop at the number of its line. -/
theorem attempt_stops_at_far_hunk :
    applyHunks false ("a" : Text) [farHunk] = .error (.pastEnd (Nat.pow 10 maxDigits) "b") ∧
      apply false ("a" : Text) (.hunks [farHunk]) = .error .longNumber ∧
      attempt false ("a" : Text) (.hunks [farHunk]) = .error .longNumber := by
  decide +kernel

end Redline.Diff
