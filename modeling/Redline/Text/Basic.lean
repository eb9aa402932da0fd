set_option autoImplicit false
set_option relaxedAutoImplicit false

/-!
Texts as lists of characters: searching, trimming, cutting into lines and joining again.
-/

namespace Redline

abbrev Text := List Char

abbrev Line := Text

/-- A literal stands for the text it spells. -/
instance : Coe String Text := ⟨String.toList⟩

namespace Text

/-- Equality of texts, decided character by character. Many lines are compared to find a diff. -/
def decEq : (s t : Text) → Decidable (s = t)
  | [], [] => isTrue rfl
  | [], _ :: _ => isFalse nofun
  | _ :: _, [] => isFalse nofun
  | c :: s, d :: t =>
    if same : c = d then
      match decEq s t with
      | isTrue rest => isTrue (by rw [same, rest])
      | isFalse differ => isFalse (by simp [differ])
    else isFalse (by simp [same])

/-- Membership of a code point in a list of inclusive ranges. -/
def inRanges (ranges : List (Nat × Nat)) (n : Nat) : Bool :=
  ranges.any fun r => decide (r.1 ≤ n) && decide (n ≤ r.2)

/-- The blank characters: white space of every script and the four separators of ASCII. -/
def isBlank (c : Char) : Bool :=
  inRanges [(0x09, 0x0D), (0x1C, 0x20), (0x85, 0x85), (0xA0, 0xA0), (0x1680, 0x1680),
    (0x2000, 0x200A), (0x2028, 0x2029), (0x202F, 0x202F), (0x205F, 0x205F), (0x3000, 0x3000)]
    c.toNat

def trimStart (t : Text) : Text := t.dropWhile isBlank

def trimEnd (t : Text) : Text := (t.reverse.dropWhile isBlank).reverse

def trim (t : Text) : Text := trimEnd (trimStart t)

def startsWith (t p : Text) : Bool := p.isPrefixOf t

def endsWith (t p : Text) : Bool := p.isSuffixOf t

def includes (p : Text) : Text → Bool
  | [] => p.isEmpty
  | c :: t => p.isPrefixOf (c :: t) || includes p t

/-- Cuts a text at every character that satisfies `cut`; the cutting characters are dropped. -/
def splitAtEach (cut : Char → Bool) : Text → List Text
  | [] => [[]]
  | c :: t =>
    if cut c then [] :: splitAtEach cut t
    else match splitAtEach cut t with
      | [] => [[c]]
      | l :: ls => (c :: l) :: ls

/-- The lines of a text: what stands between its line feeds. There is always at least one. -/
def lines (t : Text) : List Line := splitAtEach (· == '\n') t

def joinWith (sep : Text) : List Text → Text
  | [] => []
  | [l] => l
  | l :: ls => l ++ sep ++ joinWith sep ls

def unlines (ls : List Line) : Text := joinWith ['\n'] ls

def expand (f : Char → Text) (t : Text) : Text := t.flatMap f

/-- The hexadecimal digit of a number below sixteen, in lower case. -/
def hexDigit (n : Nat) : Char :=
  if n < 10 then Char.ofNat (48 + n) else Char.ofNat (87 + n)

/-- The last `width` hexadecimal digits of a number, in lower case. -/
def hex : Nat → Nat → Text
  | 0, _ => []
  | width + 1, n => hex width (n / 16) ++ [hexDigit (n % 16)]

def padLeft (width : Nat) (t : Text) : Text := List.replicate (width - t.length) ' ' ++ t

end Text

end Redline
