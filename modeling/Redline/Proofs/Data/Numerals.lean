import Mathlib.Data.List.TakeWhile
import Redline.Data.Json

set_option autoImplicit false
set_option relaxedAutoImplicit false

/-!
Numerals that are too long to be read. Each reader of JSON leaves an end of the text that it is given. So
where reading stops at a numeral, the text has more digits on end than a number may have; a text without
so many is read or is not JSON.
-/

namespace Redline.Data.Json

/-- Whether a text has more digits on end than a number may have. -/
def HasLongRun (t : Text) : Prop :=
  ∃ ds, ds <:+: t ∧ (∀ c ∈ ds, isAsciiDigit c = true) ∧ Number.maxDigits < ds.length

/-- Whether an outcome leaves an end of a text, and refuses a numeral only if the text has a long one. -/
inductive Within {α : Type} (t : Text) : Except Fault (α × Text) → Prop where
  | ok {a : α} {rest : Text} : rest <:+ t → Within t (.ok (a, rest))
  | malformed : Within t (.error .malformed)
  | numeral {e : Number.ReadError} : HasLongRun t → Within t (.error (.numeral e))

variable {α β : Type} {s t rest : Text} {x : Except Fault (α × Text)}

theorem HasLongRun.mono (long : HasLongRun s) (part : s <:+: t) : HasLongRun t := by
  obtain ⟨ds, inside, digits, many⟩ := long
  exact ⟨ds, inside.trans part, digits, many⟩

private theorem Within.mono (within : Within s x) (part : s <:+ t) : Within t x := by
  cases within with
  | ok leaves => exact .ok (leaves.trans part)
  | malformed => exact .malformed
  | numeral long => exact .numeral (long.mono part.isInfix)

private theorem Within.map (within : Within t x) (f : α → β) :
    Within t (x.map fun p => (f p.1, p.2)) := by
  cases within with
  | ok leaves => exact .ok leaves
  | malformed => exact .malformed
  | numeral long => exact .numeral long

private theorem Within.fault {e : Fault} (within : Within t (.error e : Except Fault (α × Text))) :
    Within t (.error e : Except Fault (β × Text)) := by
  cases within with
  | malformed => exact .malformed
  | numeral long => exact .numeral long

private theorem Within.suffix {a : α} (within : Within t (.ok (a, rest))) : rest <:+ t := by
  cases within with
  | ok leaves => exact leaves

private theorem skip_suffix (t : Text) : skip t <:+ t := List.dropWhile_suffix isSpace

private theorem suffix_of_skip {c : Char} (next : skip t = c :: rest) : rest <:+ t := by
  have here : c :: rest <:+ t := next ▸ skip_suffix t
  exact (List.suffix_cons c rest).trans here

/-! Strings. -/

private theorem readUnits_suffix {us : List Nat} (reads : readUnits t = some (us, rest)) : rest <:+ t := by
  have further (front : Text) {t : Text} {u : Nat} {us : List Nat} {x : Option (List Nat × Text)}
      (ih : ∀ {us}, x = some (us, rest) → rest <:+ t)
      (reads : (x.map fun p => (u :: p.1, p.2)) = some (us, rest)) : rest <:+ front ++ t := by
    obtain ⟨⟨us', r⟩, found, same⟩ := Option.map_eq_some_iff.mp reads
    obtain rfl : r = rest := (Prod.mk.inj same).2
    exact (ih found).trans (List.suffix_append front t)
  fun_induction readUnits t generalizing us with
  | case1 => simp at reads
  | case2 t =>
    obtain rfl : t = rest := (Prod.mk.inj (Option.some.inj reads)).2
    exact List.suffix_cons '"' t
  | case3 a b c d t none => simp at reads
  | case4 a b c d t n some ih => exact further ['\\', 'u', a, b, c, d] ih reads
  | case5 e t _ none => simp at reads
  | case6 e t _ c some ih => exact further ['\\', e] ih reads
  | case7 c t _ _ _ control => simp at reads
  | case8 c t _ _ _ visible ih => exact further [c] ih reads

private theorem within_readString (t : Text) : Within t (readString t) := by
  unfold readString
  split
  · exact .malformed
  · rename_i us r reads
    exact .ok (readUnits_suffix reads)

/-! Numerals. -/

private theorem signOf_suffix (t : Text) : (Number.signOf t).2 <:+ t := by
  unfold Number.signOf
  split
  · exact List.suffix_cons _ _
  · exact List.suffix_cons _ _
  · exact List.suffix_refl t

private theorem readExponent_suffix {n : Int} (reads : readExponent t = some (n, rest)) : rest <:+ t := by
  unfold readExponent at reads
  split at reads
  case h_2 => simp at reads
  case h_1 e r =>
    split at reads
    case isFalse => simp at reads
    case isTrue =>
      have signed : (Number.signOf r).2 <:+ r := signOf_suffix r
      generalize Number.signOf r = sign at reads signed
      obtain ⟨negative, body⟩ := sign
      have past : body.dropWhile isAsciiDigit <:+ e :: r :=
        ((List.dropWhile_suffix isAsciiDigit).trans signed).trans (List.suffix_cons e r)
      by_cases bare : (body.takeWhile isAsciiDigit).isEmpty
      · simp [bare] at reads
      · simp only [bare, Bool.false_eq_true, if_false] at reads
        exact (Prod.mk.inj (Option.some.inj reads)).2 ▸ past

private theorem within_readNumeral (negative : Bool) (t : Text) : Within t (readNumeral negative t) := by
  unfold readNumeral
  extract_lets run whole r fraction r'
  -- The whole part is the run of digits, or only its first one if that is a zero.
  have start : whole <+: run := by
    unfold whole
    split
    · exact List.take_prefix 1 run
    · exact List.prefix_refl run
  have digits : ∀ c ∈ whole, isAsciiDigit c = true := by
    intro c here
    have inRun : c ∈ t.takeWhile isAsciiDigit := start.subset here
    exact List.mem_takeWhile_imp inRun
  have inside : whole <:+: t := (start.trans (List.takeWhile_prefix isAsciiDigit)).isInfix
  have left : r' <:+ t := by
    unfold r'
    split
    · exact List.drop_suffix _ t
    · exact (List.drop_suffix _ r).trans (List.drop_suffix _ t)
  split
  · exact .malformed
  split
  · split
    · rename_i e refused
      refine .numeral ⟨whole, inside, digits, ?_⟩
      unfold Number.ofDigits at refused
      split at refused
      · assumption
      · simp at refused
    · exact .ok left
  · refine .ok (List.IsSuffix.trans ?_ left)
    cases found : readExponent r' with
    | none => exact List.suffix_refl r'
    | some p => exact readExponent_suffix found

private theorem within_readAtom (t : Text) : Within t (readAtom t) := by
  unfold readAtom
  split
  case h_7 r _ => exact (within_readNumeral true r).mono (List.suffix_cons '-' r)
  case h_8 => exact within_readNumeral false t
  all_goals exact .ok (by simp [List.suffix_cons_iff])

/-! Values. -/

private theorem Within.behind {c : Char} (within : Within (skip rest) x) : Within (c :: rest) x :=
  within.mono ((skip_suffix rest).trans (List.suffix_cons c rest))

private theorem within_readers (fuel : Nat) :
    (∀ t, Within t (readValue fuel t)) ∧ (∀ t, Within t (readItems fuel t)) ∧
      ∀ before t, Within t (readMembers fuel before t) := by
  induction fuel with
  | zero => exact ⟨fun _ => .malformed, fun _ => .malformed, fun _ _ => .malformed⟩
  | succ fuel ih =>
    obtain ⟨value, items, members⟩ := ih
    refine ⟨fun t => ?_, fun t => ?_, fun before t => ?_⟩
    · rw [readValue.eq_def]
      dsimp only
      split
      case h_1 r =>
        exact ((within_readString r).map fun w => Value.atom (.ofWording w)).mono (List.suffix_cons '"' r)
      case h_2 r =>
        split
        case h_1 s closed => exact .ok ((suffix_of_skip closed).trans (List.suffix_cons '[' r))
        case h_2 => exact ((items (skip r)).map _).behind
      case h_3 r =>
        split
        case h_1 s closed => exact .ok ((suffix_of_skip closed).trans (List.suffix_cons '\x7b' r))
        case h_2 => exact ((members [] (skip r)).map _).behind
      case h_4 => exact within_readAtom t
    · rw [readItems]
      have first : Within t (readValue fuel t) := value t
      split
      case h_1 e failed => exact (failed ▸ first).fault
      case h_2 v r read =>
        have left : r <:+ t := (read ▸ first).suffix
        split
        case h_1 s closed => exact .ok ((suffix_of_skip closed).trans left)
        case h_2 s more =>
          have next : skip s <:+ t := ((skip_suffix s).trans (suffix_of_skip more)).trans left
          exact ((items (skip s)).map _).mono next
        case h_3 => exact .malformed
    · rw [readMembers.eq_def]
      dsimp only
      split
      case h_2 => exact .malformed
      case h_1 r =>
        have key : Within ('"' :: r) (readString r) :=
          (within_readString r).mono (List.suffix_cons '"' r)
        split
        case h_1 e failed => exact (failed ▸ key).fault
        case h_2 k s read =>
          have behindKey : s <:+ '"' :: r := (read ▸ key).suffix
          split
          case h_2 => exact .malformed
          case h_1 u colon =>
            have behindColon : skip u <:+ '"' :: r :=
              ((skip_suffix u).trans (suffix_of_skip colon)).trans behindKey
            have member : Within ('"' :: r) (readValue fuel (skip u)) :=
              (value (skip u)).mono behindColon
            split
            case h_1 e failed => exact (failed ▸ member).fault
            case h_2 v w read =>
              have left : w <:+ '"' :: r := (read ▸ member).suffix
              split
              case h_1 z closed => exact .ok ((suffix_of_skip closed).trans left)
              case h_2 z more =>
                have next : skip z <:+ '"' :: r :=
                  ((skip_suffix z).trans (suffix_of_skip more)).trans left
                exact (members (Value.insertEntry k v before) (skip z)).mono next
              case h_3 => exact .malformed

theorem hasLongRun_of_read {e : Number.ReadError} (refused : Json.read t = .error (.numeral e)) :
    HasLongRun t := by
  have within : Within t (readValue (t.length + 1) (skip t)) :=
    ((within_readers (t.length + 1)).1 (skip t)).mono (skip_suffix t)
  unfold Json.read at refused
  generalize readValue (t.length + 1) (skip t) = x at refused within
  cases within with
  | ok leaves =>
    dsimp only at refused
    split at refused <;> simp at refused
  | malformed => simp at refused
  | numeral long => exact long

end Redline.Data.Json
