import Redline.Data.Json
import Redline.Proofs.Text.Lines

set_option autoImplicit false
set_option relaxedAutoImplicit false

/-!
JSON objects of texts and truth values. They are written in printable ASCII, so on one line, and are read
as what they were: a character beyond the basic plane, written as a pair of surrogates, is joined again.
-/

namespace Redline.Data.Json

open Text (hexDigit)

/-! Escapes. -/

private theorem hexValue?_hexDigit {n : Nat} (small : n < 16) : hexValue? (hexDigit n) = some n := by
  have all : ∀ m < 16, hexValue? (hexDigit m) = some m := by decide
  exact all n small

/-- Adds code units before those that are read. -/
def prepend (us : List Nat) (p : List Nat × Text) : List Nat × Text := (us ++ p.1, p.2)

private theorem readUnits_escape4 {n : Nat} (small : n < 0x10000) (t : Text) :
    readUnits (escape4 n ++ t) = (readUnits t).map (prepend [n]) := by
  have digits : hex4? (hexDigit (n / 16 / 16 / 16 % 16)) (hexDigit (n / 16 / 16 % 16))
      (hexDigit (n / 16 % 16)) (hexDigit (n % 16)) = some n := by
    have value : ((n / 16 / 16 / 16 % 16 * 16 + n / 16 / 16 % 16) * 16 + n / 16 % 16) * 16 +
        n % 16 = n := by omega
    have digit (m : Nat) : hexValue? (hexDigit (m % 16)) = some (m % 16) :=
      hexValue?_hexDigit (Nat.mod_lt m (by decide))
    simp only [hex4?, digit, value]
  have spelled : escape4 n ++ t = '\\' :: 'u' :: hexDigit (n / 16 / 16 / 16 % 16) ::
      hexDigit (n / 16 / 16 % 16) :: hexDigit (n / 16 % 16) :: hexDigit (n % 16) :: t := by
    simp [escape4, Text.hex]
  rw [spelled, readUnits, digits]
  rfl

private theorem readUnits_shortEscape {e c : Char} {t : Text} (other : e ≠ 'u')
    (means : shortEscape? e = some c) :
    readUnits ('\\' :: e :: t) = (readUnits t).map (prepend [c.toNat]) := by
  rw [readUnits, means]
  · rfl
  · intro _ _ _ _ _ isUnicode _
    exact other isUnicode

private theorem readUnits_plain {c : Char} {t : Text} (notQuote : c ≠ '"') (notEscape : c ≠ '\\')
    (visible : 0x20 ≤ c.toNat) :
    readUnits (c :: t) = (readUnits t).map (prepend [c.toNat]) := by
  rw [readUnits, if_neg (by omega)]
  · rfl
  · exact notQuote
  · intro _ _ _ _ _ isEscape _
    exact notEscape isEscape
  · intro _ _ isEscape _
    exact notEscape isEscape

/-! Characters. -/

def units (c : Char) : List Nat :=
  if c.toNat < 0x10000 then [c.toNat]
  else [0xD800 + (c.toNat - 0x10000) / 1024, 0xDC00 + (c.toNat - 0x10000) % 1024]

private theorem units_of_small {c : Char} (small : c.toNat < 0x10000) : units c = [c.toNat] := if_pos small

private theorem readUnits_writeChar (c : Char) (t : Text) :
    readUnits (writeChar c ++ t) = (readUnits t).map (prepend (units c)) := by
  have bound : c.toNat < 0x110000 := by
    have valid : c.toNat < 0xD800 ∨ 0xDFFF < c.toNat ∧ c.toNat < 0x110000 := c.valid
    omega
  unfold writeChar
  simp only [beq_iff_eq]
  by_cases quote : c = '"'
  · subst quote
    exact readUnits_shortEscape (by decide) rfl
  by_cases backslash : c = '\\'
  · subst backslash
    exact readUnits_shortEscape (by decide) rfl
  by_cases feed : c = '\n'
  · subst feed
    exact readUnits_shortEscape (by decide) rfl
  by_cases return' : c = '\r'
  · subst return'
    exact readUnits_shortEscape (by decide) rfl
  by_cases tab : c = '\t'
  · subst tab
    exact readUnits_shortEscape (by decide) rfl
  rw [if_neg quote, if_neg backslash, if_neg feed, if_neg return', if_neg tab]
  by_cases backspace : c.toNat = 8
  · rw [if_pos backspace, units_of_small (by omega), backspace]
    exact readUnits_shortEscape (e := 'b') (by decide) rfl
  by_cases formFeed : c.toNat = 12
  · rw [if_neg backspace, if_pos formFeed, units_of_small (by omega), formFeed]
    exact readUnits_shortEscape (e := 'f') (by decide) rfl
  rw [if_neg backspace, if_neg formFeed]
  by_cases visible : 0x20 ≤ c.toNat ∧ c.toNat < 0x7F
  · rw [if_pos (by simpa using visible), units_of_small (by omega)]
    exact readUnits_plain quote backslash visible.1
  rw [if_neg (by simpa using visible)]
  by_cases basic : c.toNat < 0x10000
  · rw [if_pos basic, units_of_small basic]
    exact readUnits_escape4 basic t
  · rw [if_neg basic, List.append_assoc, readUnits_escape4 (by omega), readUnits_escape4 (by omega),
      Option.map_map, units, if_neg basic]
    rfl

private theorem joinUnits_units (c : Char) (us : List Nat) :
    joinUnits (units c ++ us) = c.toNat :: joinUnits us := by
  have valid : c.toNat < 0xD800 ∨ 0xDFFF < c.toNat ∧ c.toNat < 0x110000 := c.valid
  unfold units
  by_cases basic : c.toNat < 0x10000
  · rw [if_pos basic]
    cases us with
    | nil => rfl
    | cons u us =>
      have notPair : ¬ (0xD800 ≤ c.toNat ∧ c.toNat < 0xDC00 ∧ 0xDC00 ≤ u ∧ u < 0xE000) := by omega
      rw [List.singleton_append, joinUnits, if_neg notPair]
  · have value : 0x10000 + (0xD800 + (c.toNat - 0x10000) / 1024 - 0xD800) * 1024 +
        (0xDC00 + (c.toNat - 0x10000) % 1024 - 0xDC00) = c.toNat := by omega
    rw [if_neg basic, List.cons_append, List.singleton_append, joinUnits, if_pos (by omega), value]

/-! Strings. -/

private theorem readUnits_string (t r : Text) :
    readUnits (Text.expand writeChar t ++ '"' :: r) = some (t.flatMap units, r) := by
  induction t with
  | nil => rfl
  | cons c t ih =>
    have first : Text.expand writeChar (c :: t) = writeChar c ++ Text.expand writeChar t := rfl
    rw [first, List.append_assoc, readUnits_writeChar, ih]
    rfl

private theorem joinUnits_flatMap (t : Text) : joinUnits (t.flatMap units) = t.map Char.toNat := by
  induction t with
  | nil => rfl
  | cons c t ih => rw [List.flatMap_cons, joinUnits_units, ih, List.map_cons]

private theorem ofUnits_toNat (t : Text) : Wording.ofUnits (t.map Char.toNat) = .text t := by
  have whole (c : Char) : Text.isHalf c.toNat = false := by
    have valid : c.toNat < 0xD800 ∨ 0xDFFF < c.toNat ∧ c.toNat < 0x110000 := c.valid
    simp only [Text.isHalf, Bool.and_eq_false_iff, decide_eq_false_iff_not]
    omega
  rw [Wording.ofUnits, List.any_map, if_neg (by simp [whole]), List.map_map]
  simp [Function.comp_def, Char.ofNat_toNat]

private theorem readString_writeString (t r : Text) :
    readString (Text.expand writeChar t ++ '"' :: r) = .ok (.text t, r) := by
  rw [readString, readUnits_string]
  simp only [joinUnits_flatMap, ofUnits_toNat]

private theorem writeString_append (t r : Text) :
    writeString t ++ r = '"' :: (Text.expand writeChar t ++ '"' :: r) := by
  simp [writeString]

/-! Objects. -/

/-- The values that are texts or truth values. -/
inductive IsSimple : Value → Prop
  | text (t : Text) : IsSimple (.text t)
  | bool (b : Bool) : IsSimple (.bool b)

/-- The members whose key is a text and whose value is a text or a truth value. -/
inductive IsSimpleMember : Wording × Value → Prop
  | mk (k : Text) {v : Value} : IsSimple v → IsSimpleMember (.text k, v)

private theorem write_text (t : Text) : write (.text t) = writeString t := by rw [write, writeAtom]

private theorem write_bool (b : Bool) :
    write (.bool b) = if b then ['t', 'r', 'u', 'e'] else ['f', 'a', 'l', 's', 'e'] := by
  cases b <;> rw [write, writeAtom] <;> rfl

private theorem skip_of_not_space {c : Char} {t : Text} (mark : isSpace c = false) :
    skip (c :: t) = c :: t := by
  simp [skip, mark]

private theorem readValue_write {v : Value} (simple : IsSimple v) (fuel : Nat) (r : Text) :
    readValue (fuel + 1) (write v ++ r) = .ok (v, r) := by
  cases simple with
  | text t =>
    rw [write_text, writeString_append, readValue, readString_writeString]
    rfl
  | bool b =>
    rw [write_bool]
    cases b with
    | true =>
      rw [if_pos rfl, List.cons_append, readValue]
      · rfl
      all_goals simp
    | false =>
      rw [if_neg (by decide), List.cons_append, readValue]
      · rfl
      all_goals simp

private theorem insertEntry_of_not_mem {k : Wording} (v : Value) {es : List (Wording × Value)}
    (fresh : k ∉ es.map Prod.fst) : Value.insertEntry k v es = es ++ [(k, v)] := by
  induction es with
  | nil => rfl
  | cons e es ih =>
    obtain ⟨l, u⟩ := e
    simp only [List.map_cons, List.mem_cons, not_or] at fresh
    rw [Value.insertEntry, if_neg (Ne.symm fresh.1), ih fresh.2]
    rfl

private theorem skip_write {v : Value} (simple : IsSimple v) (r : Text) :
    skip (' ' :: (write v ++ r)) = write v ++ r := by
  have blank (t : Text) : skip (' ' :: t) = skip t := by simp [skip, isSpace]
  rw [blank]
  cases simple with
  | text t =>
    rw [write_text, writeString_append]
    exact skip_of_not_space (by decide)
  | bool b =>
    rw [write_bool]
    cases b <;> exact skip_of_not_space (by decide)

variable {es before : List (Wording × Value)} {fuel : Nat} {k : Text} {v : Value}

/-- The members of an object of which some are read, from what stands behind their last value. -/
def membersBehind (fuel : Nat) (read : List (Wording × Value)) :
    Text → Except Fault (List (Wording × Value) × Text)
  | '\x7d' :: s => .ok (read, s)
  | ',' :: s => readMembers fuel read (skip s)
  | _ => .error .malformed

private theorem readMembers_member (simple : IsSimple v) (r : Text) :
    readMembers (fuel + 2) before (writeString k ++ ": " ++ write v ++ r) =
      membersBehind (fuel + 1) (Value.insertEntry (.text k) v before) (skip r) := by
  have spelled : writeString k ++ ": " ++ write v ++ r =
      '"' :: (Text.expand writeChar k ++ '"' :: ':' :: ' ' :: (write v ++ r)) := by
    have between : (": " : Text) = [':', ' '] := rfl
    rw [List.append_assoc, List.append_assoc, writeString_append, between]
    rfl
  rw [spelled, readMembers, readString_writeString]
  simp only [skip_of_not_space (show isSpace ':' = false by decide), skip_write simple,
    readValue_write simple]
  rfl

private theorem joinWith_writeEntries_cons (k : Text) (v : Value) (more : es ≠ []) :
    Text.joinWith ", " (writeEntries ((.text k, v) :: es)) =
      writeString k ++ ": " ++ write v ++ (',' :: ' ' :: Text.joinWith ", " (writeEntries es)) := by
  have between : (", " : Text) = [',', ' '] := rfl
  have others : writeEntries es ≠ [] := by
    obtain ⟨⟨l, u⟩, es, rfl⟩ := List.exists_cons_of_ne_nil more
    exact List.cons_ne_nil _ _
  rw [writeEntries, writeWording, Text.joinWith_cons_of_ne_nil _ _ others, between]
  simp [List.append_assoc]

private theorem exists_joinWith_writeEntries (some : es ≠ []) :
    ∃ t, Text.joinWith ", " (writeEntries es) = '"' :: t := by
  obtain ⟨⟨w, v⟩, es, rfl⟩ := List.exists_cons_of_ne_nil some
  cases w <;> cases es <;> exact ⟨_, rfl⟩

private theorem readMembers_write (some : es ≠ []) (simple : ∀ e ∈ es, IsSimpleMember e)
    (distinct : ((before ++ es).map Prod.fst).Nodup) (enough : es.length < fuel) (r : Text) :
    readMembers fuel before (Text.joinWith ", " (writeEntries es) ++ '\x7d' :: r) =
      .ok (before ++ es, r) := by
  induction es generalizing before fuel with
  | nil => exact absurd rfl some
  | cons e es ih =>
    obtain ⟨member, others⟩ := List.forall_mem_cons.mp simple
    obtain ⟨k, first⟩ := member
    rename_i v
    obtain ⟨fuel, rfl⟩ : ∃ n, fuel = n + 2 := by
      simp only [List.length_cons] at enough
      exact ⟨fuel - 2, by omega⟩
    have fresh : .text k ∉ before.map Prod.fst := by
      rw [List.map_append, List.nodup_append] at distinct
      intro mem
      exact distinct.2.2 (.text k) mem (.text k) (by simp) rfl
    cases es with
    | nil =>
      have single : Text.joinWith ", " (writeEntries [(.text k, v)]) =
          writeString k ++ ": " ++ write v := by
        rw [writeEntries, writeEntries]
        rfl
      rw [single, readMembers_member first, skip_of_not_space (by decide),
        insertEntry_of_not_mem v fresh]
      rfl
    | cons e es =>
      have more : Text.joinWith ", " (writeEntries ((.text k, v) :: e :: es)) ++ '\x7d' :: r =
          writeString k ++ ": " ++ write v ++
            (',' :: ' ' :: (Text.joinWith ", " (writeEntries (e :: es)) ++ '\x7d' :: r)) := by
        rw [joinWith_writeEntries_cons k v (List.cons_ne_nil e es), List.append_assoc]
        rfl
      have comes : ((before ++ [(Wording.text k, v)]) ++ e :: es).map Prod.fst =
          (before ++ (Wording.text k, v) :: e :: es).map Prod.fst := by simp
      have distinct' : ((before ++ [(Wording.text k, v)] ++ e :: es).map Prod.fst).Nodup := by
        rw [comes]
        exact distinct
      have enough' : (e :: es).length < fuel + 1 := by simpa using enough
      have next := ih (by simp) others distinct' enough'
      obtain ⟨t, quoted⟩ := exists_joinWith_writeEntries (List.cons_ne_nil e es)
      have skipped : skip (' ' :: (Text.joinWith ", " (writeEntries (e :: es)) ++ '\x7d' :: r)) =
          Text.joinWith ", " (writeEntries (e :: es)) ++ '\x7d' :: r := by
        rw [quoted]
        rfl
      rw [more, readMembers_member first, skip_of_not_space (by decide),
        insertEntry_of_not_mem v fresh, membersBehind, skipped]
      simpa using next

private theorem length_le_length_joinWith (simple : ∀ e ∈ es, IsSimpleMember e) :
    es.length ≤ (Text.joinWith ", " (writeEntries es)).length := by
  induction es with
  | nil => exact Nat.zero_le _
  | cons e es ih =>
    obtain ⟨member, others⟩ := List.forall_mem_cons.mp simple
    by_cases none : es = []
    · obtain ⟨t, quoted⟩ := exists_joinWith_writeEntries (List.cons_ne_nil e es)
      rw [quoted, none]
      simp
    · have rest := ih others
      obtain ⟨k, -⟩ := member
      rw [joinWith_writeEntries_cons k _ none]
      simp only [List.length_cons, List.length_append]
      omega

private theorem readValue_members (fuel : Nat) (t : Text) :
    readValue (fuel + 1) ('\x7b' :: '"' :: t) =
      (readMembers fuel [] ('"' :: t)).map fun p => (.map p.1, p.2) := by
  rw [readValue, skip_of_not_space (by decide)]
  rfl

theorem read_write_map (simple : ∀ e ∈ es, IsSimpleMember e) (distinct : (es.map Prod.fst).Nodup) :
    read (write (.map es)) = .ok (.map es) := by
  have written : write (.map es) = '\x7b' :: (Text.joinWith ", " (writeEntries es) ++ ['\x7d']) := by
    rw [write]
    rfl
  by_cases none : es = []
  · subst none
    rfl
  · obtain ⟨t, quoted⟩ := exists_joinWith_writeEntries none
    have enough : es.length < (write (.map es)).length := by
      have most := length_le_length_joinWith simple
      rw [written]
      simp only [List.length_cons, List.length_append]
      omega
    have members := readMembers_write none simple
      (show ((([] : List (Wording × Value)) ++ es).map Prod.fst).Nodup from distinct) enough []
    rw [written, quoted, List.cons_append] at members
    rw [read, written, quoted, List.cons_append, skip_of_not_space (by decide), readValue_members,
      members]
    rfl

/-! The characters that are written. -/

def IsPrintable (t : Text) : Prop := ∀ c ∈ t, 0x20 ≤ c.toNat ∧ c.toNat < 0x7F

instance (t : Text) : Decidable (IsPrintable t) := List.decidableBAll _ t

private theorem IsPrintable.append {s t : Text} (front : IsPrintable s) (back : IsPrintable t) :
    IsPrintable (s ++ t) := by
  intro c mem
  rcases List.mem_append.mp mem with mem | mem
  · exact front c mem
  · exact back c mem

private theorem isPrintable_escape4 (n : Nat) : IsPrintable (escape4 n) := by
  have digit (m : Nat) : 0x20 ≤ (hexDigit (m % 16)).toNat ∧ (hexDigit (m % 16)).toNat < 0x7F := by
    have all : ∀ k < 16, 0x20 ≤ (hexDigit k).toNat ∧ (hexDigit k).toNat < 0x7F := by decide
    exact all _ (Nat.mod_lt m (by decide))
  intro c mem
  simp only [escape4, Text.hex, List.nil_append, List.cons_append, List.mem_cons,
    List.not_mem_nil, or_false] at mem
  rcases mem with rfl | rfl | rfl | rfl | rfl | rfl
  · decide
  · decide
  all_goals exact digit _

private theorem IsPrintable.ite {p : Prop} [Decidable p] {s t : Text} (yes : p → IsPrintable s)
    (no : ¬ p → IsPrintable t) : IsPrintable (if p then s else t) := by
  split
  · exact yes ‹p›
  · exact no ‹¬ p›

private theorem isPrintable_writeChar (c : Char) : IsPrintable (writeChar c) := by
  have self (visible : (decide (0x20 ≤ c.toNat) && decide (c.toNat < 0x7F)) = true) :
      IsPrintable [c] := by
    intro d mem
    obtain rfl := List.mem_singleton.mp mem
    simpa using visible
  have pair := (isPrintable_escape4 (0xD800 + (c.toNat - 0x10000) / 1024)).append
    (isPrintable_escape4 (0xDC00 + (c.toNat - 0x10000) % 1024))
  -- Seven characters have escapes of their own; what is left is visible or written in digits.
  exact .ite (fun _ => by decide) fun _ => .ite (fun _ => by decide) fun _ =>
    .ite (fun _ => by decide) fun _ => .ite (fun _ => by decide) fun _ =>
    .ite (fun _ => by decide) fun _ => .ite (fun _ => by decide) fun _ =>
    .ite (fun _ => by decide) fun _ => .ite self fun _ =>
    .ite (fun _ => isPrintable_escape4 _) fun _ => pair

private theorem isPrintable_writeString (t : Text) : IsPrintable (writeString t) := by
  have inside : IsPrintable (Text.expand writeChar t) := by
    intro c mem
    obtain ⟨d, -, mem⟩ := List.mem_flatMap.mp mem
    exact isPrintable_writeChar d c mem
  exact IsPrintable.append (s := ['"']) (by decide) (inside.append (by decide))

private theorem isPrintable_write {v : Value} (simple : IsSimple v) : IsPrintable (write v) := by
  cases simple with
  | text t =>
    rw [write_text]
    exact isPrintable_writeString t
  | bool b =>
    rw [write_bool]
    cases b <;> decide

theorem isPrintable_write_map (simple : ∀ e ∈ es, IsSimpleMember e) :
    IsPrintable (write (.map es)) := by
  have members : IsPrintable (Text.joinWith ", " (writeEntries es)) := by
    induction es with
    | nil => exact fun c mem => absurd mem List.not_mem_nil
    | cons e es ih =>
      obtain ⟨member, others⟩ := List.forall_mem_cons.mp simple
      obtain ⟨k, first⟩ := member
      rename_i v
      have member : IsPrintable (writeString k ++ ": " ++ write v) :=
        ((isPrintable_writeString k).append (by decide)).append (isPrintable_write first)
      by_cases none : es = []
      · subst none
        simpa [writeEntries, writeWording, Text.joinWith] using member
      · rw [joinWith_writeEntries_cons k v none]
        exact member.append (IsPrintable.append (s := [',', ' ']) (by decide) (ih others))
  have written : write (.map es) =
      ['\x7b'] ++ Text.joinWith ", " (writeEntries es) ++ ['\x7d'] := by
    rw [write]
    rfl
  rw [written]
  exact (IsPrintable.append (by decide) members).append (by decide)

theorem exists_write_map (es : List (Wording × Value)) :
    ∃ t, write (.map es) = '\x7b' :: (t ++ ['\x7d']) := by
  rw [write]
  exact ⟨_, rfl⟩

end Redline.Data.Json
