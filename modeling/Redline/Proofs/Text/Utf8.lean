import Redline.Text.Utf8

set_option autoImplicit false
set_option relaxedAutoImplicit false

/-!
Text that comes back from its bytes. The first byte of an encoded character announces how many bytes
follow and the range of the second one, which leaves out overlong forms and surrogates; a character is
neither, so it is always read as it was written.
-/

namespace Redline.Text.Utf8

theorem encode_append (a b : Text) : encode (a ++ b) = encode a ++ encode b := List.flatMap_append

theorem size_append (a b : Text) : size (a ++ b) = size a + size b := by
  rw [size, encode_append, List.length_append, ← size, ← size]

theorem size_le_of_beginning {a b : Text} (h : a <+: b) : size a ≤ size b := by
  obtain ⟨rest, rfl⟩ := h
  rw [size_append]
  exact Nat.le_add_right _ _

variable {n : Nat} {position : Nat} {a b c d : UInt8} {rest : Bytes}

private theorem toNat_ofNat_of_lt (small : n < 256) : (UInt8.ofNat n).toNat = n :=
  UInt8.toNat_ofNat_of_lt' small

private theorem within_ofNat {least greatest : Nat} (small : n < 256) :
    within least greatest (UInt8.ofNat n) = true ↔ least ≤ n ∧ n ≤ greatest := by
  rw [within, toNat_ofNat_of_lt small, Bool.and_eq_true, decide_eq_true_iff, decide_eq_true_iff]

private theorem extendBits_follower (bits : Nat) (small : n < 64) :
    extendBits bits (UInt8.ofNat (0x80 + n)) = bits * 64 + n := by
  have byte : (UInt8.ofNat (0x80 + n)).toNat = 0x80 + n := toNat_ofNat_of_lt (by omega)
  have own : 0x80 + n - 0x80 = n := Nat.add_sub_cancel_left _ _
  unfold extendBits
  rw [byte, own]

private theorem within_follower (small : n < 64) : within 0x80 0xBF (UInt8.ofNat (0x80 + n)) = true := by
  rw [within_ofNat (by omega)]
  omega

/-! What first bytes announce. -/

private theorem leadOf?_two {k : Nat} (proper : 2 ≤ k) (small : k < 32) :
    leadOf? (UInt8.ofNat (0xC0 + k)) = some ⟨k, 1, 0x80, 0xBF⟩ := by
  unfold leadOf?
  simp only [toNat_ofNat_of_lt (show 0xC0 + k < 256 by omega)]
  rw [if_neg (by omega), if_pos (by omega), Nat.add_sub_cancel_left]

private theorem leadOf?_three {k m : Nat} (small : k < 16) (middle : m < 64) (proper : k = 0 → 32 ≤ m)
    (noSurrogate : k = 13 → m < 32) : ∃ least greatest,
      leadOf? (UInt8.ofNat (0xE0 + k)) = some ⟨k, 2, least, greatest⟩ ∧
        within least greatest (UInt8.ofNat (0x80 + m)) = true := by
  unfold leadOf?
  simp only [toNat_ofNat_of_lt (show 0xE0 + k < 256 by omega), Nat.add_sub_cancel_left]
  rw [if_neg (by omega), if_neg (by omega)]
  by_cases first : k = 0
  · refine ⟨0xA0, 0xBF, by rw [if_pos (by omega), first], ?_⟩
    rw [within_ofNat (by omega)]
    omega
  · rw [if_neg (by omega)]
    by_cases surrogates : k = 13
    · refine ⟨0x80, 0x9F, by rw [if_pos (by omega), surrogates], ?_⟩
      rw [within_ofNat (by omega)]
      omega
    · exact ⟨0x80, 0xBF, by rw [if_neg (by omega), if_pos (by omega)], within_follower middle⟩

private theorem leadOf?_four {k m : Nat} (small : k ≤ 4) (middle : m < 64) (proper : k = 0 → 16 ≤ m)
    (last : k = 4 → m < 16) : ∃ least greatest,
      leadOf? (UInt8.ofNat (0xF0 + k)) = some ⟨k, 3, least, greatest⟩ ∧
        within least greatest (UInt8.ofNat (0x80 + m)) = true := by
  unfold leadOf?
  simp only [toNat_ofNat_of_lt (show 0xF0 + k < 256 by omega), Nat.add_sub_cancel_left]
  rw [if_neg (by omega), if_neg (by omega), if_neg (by omega), if_neg (by omega), if_neg (by omega)]
  by_cases first : k = 0
  · refine ⟨0x90, 0xBF, by rw [if_pos (by omega), first], ?_⟩
    rw [within_ofNat (by omega)]
    omega
  · rw [if_neg (by omega)]
    by_cases top : k = 4
    · refine ⟨0x80, 0x8F, by rw [if_neg (by omega), if_pos (by omega), top], ?_⟩
      rw [within_ofNat (by omega)]
      omega
    · exact ⟨0x80, 0xBF, by rw [if_pos (by omega)], within_follower middle⟩

/-! Reading one character. -/

private theorem beyond {k : Nat} (lead : 0x80 ≤ k ∧ k < 256) : 0x80 ≤ (UInt8.ofNat k).toNat := by
  rw [toNat_ofNat_of_lt lead.2]
  exact lead.1

private theorem decodeFrom_one (ascii : a.toNat < 0x80) :
    decodeFrom position (a :: rest) =
      decodeFrom.prepend (Char.ofNat a.toNat) (decodeFrom (position + 1) rest) := by
  rw [decodeFrom, if_pos ascii]

private theorem decodeFrom_two {lead : Lead} (beyond : 0x80 ≤ a.toNat) (announced : leadOf? a = some lead)
    (followers : lead.followers = 1) (second : within lead.least lead.greatest b = true) :
    decodeFrom position (a :: b :: rest) =
      decodeFrom.prepend (Char.ofNat (extendBits lead.bits b)) (decodeFrom (position + 2) rest) := by
  rw [decodeFrom, if_neg (by omega)]
  simp [announced, second, followers]

private theorem decodeFrom_three {lead : Lead} (beyond : 0x80 ≤ a.toNat) (announced : leadOf? a = some lead)
    (followers : lead.followers = 2) (second : within lead.least lead.greatest b = true)
    (third : within 0x80 0xBF c = true) :
    decodeFrom position (a :: b :: c :: rest) =
      decodeFrom.prepend (Char.ofNat (extendBits (extendBits lead.bits b) c))
        (decodeFrom (position + 3) rest) := by
  rw [decodeFrom, if_neg (by omega)]
  simp [announced, second, followers, third]

private theorem decodeFrom_four {lead : Lead} (beyond : 0x80 ≤ a.toNat) (announced : leadOf? a = some lead)
    (followers : lead.followers = 3) (second : within lead.least lead.greatest b = true)
    (third : within 0x80 0xBF c = true) (fourth : within 0x80 0xBF d = true) :
    decodeFrom position (a :: b :: c :: d :: rest) =
      decodeFrom.prepend (Char.ofNat (extendBits (extendBits (extendBits lead.bits b) c) d))
        (decodeFrom (position + 4) rest) := by
  rw [decodeFrom, if_neg (by omega)]
  simp [announced, second, followers, third, fourth]

/-- The bytes of a character: the first one announces the others, and together they give its value. -/
inductive Sequence : Bytes → Char → Prop where
  | one {a : UInt8} : a.toNat < 0x80 → Sequence [a] (Char.ofNat a.toNat)
  | two {a b : UInt8} {lead : Lead} : 0x80 ≤ a.toNat → leadOf? a = some lead → lead.followers = 1 →
    within lead.least lead.greatest b = true → Sequence [a, b] (Char.ofNat (extendBits lead.bits b))
  | three {a b c : UInt8} {lead : Lead} : 0x80 ≤ a.toNat → leadOf? a = some lead → lead.followers = 2 →
    within lead.least lead.greatest b = true → within 0x80 0xBF c = true →
    Sequence [a, b, c] (Char.ofNat (extendBits (extendBits lead.bits b) c))
  | four {a b c d : UInt8} {lead : Lead} : 0x80 ≤ a.toNat → leadOf? a = some lead → lead.followers = 3 →
    within lead.least lead.greatest b = true → within 0x80 0xBF c = true →
    within 0x80 0xBF d = true →
    Sequence [a, b, c, d] (Char.ofNat (extendBits (extendBits (extendBits lead.bits b) c) d))

theorem sequence_encodeChar (ch : Char) : Sequence (encodeChar ch) ch := by
  have valid : ch.toNat < 0xD800 ∨ 0xDFFF < ch.toNat ∧ ch.toNat < 0x110000 := ch.valid
  have self : ch = Char.ofNat ch.toNat := (Char.ofNat_toNat ch).symm
  unfold encodeChar
  generalize ch.toNat = n at valid self
  subst self
  simp only
  by_cases ascii : n < 0x80
  · have byte : (UInt8.ofNat n).toNat = n := toNat_ofNat_of_lt (by omega)
    have sequence := Sequence.one (a := UInt8.ofNat n) (by omega)
    rw [byte] at sequence
    simpa only [if_pos ascii] using sequence
  · by_cases two : n < 0x800
    · have announced := leadOf?_two (k := n / 64) (by omega) (by omega)
      have second := within_follower (n := n % 64) (by omega)
      have whole : n / 64 * 64 + n % 64 = n := by omega
      have sequence := Sequence.two (beyond (by omega)) announced rfl second
      rw [extendBits_follower _ (by omega), whole] at sequence
      simpa only [if_neg ascii, if_pos two] using sequence
    · by_cases three : n < 0x10000
      · obtain ⟨least, greatest, announced, second⟩ :=
          leadOf?_three (k := n / 4096) (m := n / 64 % 64) (by omega) (by omega) (by omega) (by omega)
        have third := within_follower (n := n % 64) (by omega)
        have whole : (n / 4096 * 64 + n / 64 % 64) * 64 + n % 64 = n := by omega
        have sequence := Sequence.three (beyond (by omega)) announced rfl second third
        rw [extendBits_follower _ (by omega), extendBits_follower _ (by omega), whole] at sequence
        simpa only [if_neg ascii, if_neg two, if_pos three] using sequence
      · obtain ⟨least, greatest, announced, second⟩ :=
          leadOf?_four (k := n / 262144) (m := n / 4096 % 64) (by omega) (by omega) (by omega) (by omega)
        have third := within_follower (n := n / 64 % 64) (by omega)
        have fourth := within_follower (n := n % 64) (by omega)
        have whole :
            ((n / 262144 * 64 + n / 4096 % 64) * 64 + n / 64 % 64) * 64 + n % 64 = n := by omega
        have sequence := Sequence.four (beyond (by omega)) announced rfl second third fourth
        rw [extendBits_follower _ (by omega), extendBits_follower _ (by omega),
          extendBits_follower _ (by omega), whole] at sequence
        simpa only [if_neg ascii, if_neg two, if_neg three] using sequence

variable {s : Bytes} {ch : Char}

theorem Sequence.ne_nil (sequence : Sequence s ch) : s ≠ [] := by
  cases sequence <;> exact List.cons_ne_nil _ _

private theorem Sequence.decodeFrom_append (sequence : Sequence s ch) (rest : Bytes) (position : Nat) :
    decodeFrom position (s ++ rest) =
      decodeFrom.prepend ch (decodeFrom (position + s.length) rest) := by
  cases sequence with
  | one ascii => exact decodeFrom_one ascii
  | two high announced followers second => exact decodeFrom_two high announced followers second
  | three high announced followers second third =>
    exact decodeFrom_three high announced followers second third
  | four high announced followers second third fourth =>
    exact decodeFrom_four high announced followers second third fourth

private theorem Sequence.decodeFrom_take (sequence : Sequence s ch) {n : Nat} (short : n < s.length)
    (position : Nat) : decodeFrom position (s.take n) = .ok ([], s.take n) := by
  cases sequence with
  | one ascii =>
    obtain rfl : n = 0 := by simpa using short
    rfl
  | @two a b lead high announced followers second =>
    have small : ¬ a.toNat < 0x80 := by omega
    match n, short with
    | 0, _ => rfl
    | 1, _ => simp [decodeFrom, small, announced]
  | @three a b c lead high announced followers second third =>
    have small : ¬ a.toNat < 0x80 := by omega
    match n, short with
    | 0, _ => rfl
    | 1, _ => simp [decodeFrom, small, announced]
    | 2, _ => simp [decodeFrom, small, announced, second, followers]
  | @four a b c d lead high announced followers second third fourth =>
    have small : ¬ a.toNat < 0x80 := by omega
    match n, short with
    | 0, _ => rfl
    | 1, _ => simp [decodeFrom, small, announced]
    | 2, _ => simp [decodeFrom, small, announced, second, followers]
    | 3, _ => simp [decodeFrom, small, announced, second, followers, third]

private theorem decodeFrom_encodeChar (ch : Char) (rest : Bytes) (position : Nat) :
    decodeFrom position (encodeChar ch ++ rest) =
      decodeFrom.prepend ch (decodeFrom (position + (encodeChar ch).length) rest) :=
  (sequence_encodeChar ch).decodeFrom_append rest position

private theorem decodeFrom_encode (t : Text) (position : Nat) :
    decodeFrom position (encode t) = .ok (t, []) := by
  induction t generalizing position with
  | nil => rfl
  | cons ch t ih =>
    have bytes : encode (ch :: t) = encodeChar ch ++ encode t := rfl
    rw [bytes, decodeFrom_encodeChar, ih]
    rfl

/-- Whether some bytes are too few for the first character of a text. -/
def FallShort (s : Bytes) (t : Text) : Prop := ∀ ch r, t = ch :: r → s.length < (encodeChar ch).length

theorem exists_decodeFrom_take (t : Text) (n position : Nat) :
    ∃ read rest kept, t = read ++ rest ∧ (encode t).take n = encode read ++ kept ∧
      FallShort kept rest ∧ decodeFrom position ((encode t).take n) = .ok (read, kept) := by
  induction t generalizing n position with
  | nil => exact ⟨[], [], [], rfl, by simp [encode], by simp [FallShort], by simp [encode, decodeFrom]⟩
  | cons ch t ih =>
    have bytes : encode (ch :: t) = encodeChar ch ++ encode t := rfl
    have sequence := sequence_encodeChar ch
    by_cases whole : (encodeChar ch).length ≤ n
    · obtain ⟨read, rest, kept, text, taken, short, decoded⟩ :=
        ih (n - (encodeChar ch).length) (position + (encodeChar ch).length)
      have first : (encode (ch :: t)).take n =
          encodeChar ch ++ (encode t).take (n - (encodeChar ch).length) := by
        rw [bytes, List.take_append, List.take_of_length_le whole]
      refine ⟨ch :: read, rest, kept, by rw [text]; rfl, ?_, short, ?_⟩
      · rw [first, taken]
        exact (List.append_assoc _ _ _).symm
      · rw [first, sequence.decodeFrom_append, decoded]
        rfl
    · have part : n < (encodeChar ch).length := Nat.lt_of_not_le whole
      have first : (encode (ch :: t)).take n = (encodeChar ch).take n := by
        rw [bytes, List.take_append_of_le_length (Nat.le_of_lt part)]
      refine ⟨[], ch :: t, (encodeChar ch).take n, rfl, first, ?_, ?_⟩
      · rintro _ _ ⟨rfl, rfl⟩
        rw [List.length_take]
        omega
      · rw [first, sequence.decodeFrom_take part]

theorem decode_encode (t : Text) : decode (encode t) = .ok t := by
  rw [decode, decodeFrom_encode]

end Redline.Text.Utf8
