import Redline.Proofs.Text.Lines
import Redline.Proofs.Write.Entities

set_option autoImplicit false
set_option relaxedAutoImplicit false

/-!
Framing and unframing. A text between two fences is taken out of exactly these, whatever it holds and
however many blanks stand around. The two fences are not asked for together, though: a text that begins
with no fence loses its last line all the same if that ends with one.
-/

namespace Redline.Write

open Text (isBlank trim trimStart trimEnd startsWith endsWith)

/-- A text between two fences. What is behind the first one, on its line, is a remark. -/
def framed (remark body : Text) : Text := fence ++ (remark ++ '\n' :: (body ++ '\n' :: fence))

variable {t body last remark before after : Text}

private theorem unframe_eq (t : Text) : unframe t = decodeInTurn (closeFence (openFence (trim t))) :=
  decodeEntities_eq _

private theorem openFence_of_not_startsWith (none : startsWith t fence = false) : openFence t = t := by
  simp [openFence, none]

private theorem closeFence_of_not_endsWith (none : endsWith t fence = false) : closeFence t = t := by
  simp [closeFence, none]

private theorem endsWith_append {p : Text} (ends : endsWith t p = true) (a : Text) :
    endsWith (a ++ t) p = true := by
  rw [endsWith, List.isSuffixOf_iff_suffix] at ends ⊢
  exact ends.trans (List.suffix_append a t)

private theorem openFence_append (line : '\n' ∉ remark) (t : Text) :
    openFence (fence ++ (remark ++ '\n' :: t)) = trim t := by
  have starts : startsWith (fence ++ (remark ++ '\n' :: t)) fence = true :=
    List.isPrefixOf_iff_prefix.mpr (List.prefix_append _ _)
  have first : '\n' ∉ fence ++ remark :=
    fun mem => (List.mem_append.mp mem).elim (by decide) line
  rw [openFence, if_pos starts, ← List.append_assoc, Text.lines_append_feed first, List.drop_one,
    List.tail_cons, Text.unlines_lines]

private theorem closeFence_append (line : '\n' ∉ last) (ends : endsWith last fence = true) (body : Text) :
    closeFence (body ++ '\n' :: last) = trim body := by
  have whole : endsWith (body ++ '\n' :: last) fence = true := by
    have tail := endsWith_append ends ['\n']
    exact endsWith_append tail body
  rw [closeFence, if_pos whole, Text.lines_append_cons_feed, Text.lines_of_feed_not_mem line,
    List.dropLast_concat, Text.unlines_lines]

private theorem closeFence_line (line : '\n' ∉ t) (ends : endsWith t fence = true) : closeFence t = [] := by
  rw [closeFence, if_pos ends, Text.lines_of_feed_not_mem line]
  rfl

private theorem trimEnd_append_fence (t : Text) : trimEnd (t ++ fence) = t ++ fence := by
  have solid : isBlank '\x60' = false := by decide
  have last : t ++ fence = (t ++ ['\x60', '\x60']) ++ ['\x60'] := by simp [fence]
  rw [last, Text.trimEnd_concat_of_not_blank solid]

private theorem trim_framed (blankBefore : ∀ c ∈ before, isBlank c = true)
    (blankAfter : ∀ c ∈ after, isBlank c = true) (remark body : Text) :
    trim (before ++ (framed remark body ++ after)) = framed remark body := by
  have solid : isBlank '\x60' = false := by decide
  have start : trimStart (framed remark body ++ after) = framed remark body ++ after :=
    Text.trimStart_cons_of_not_blank solid _
  have split : framed remark body = (fence ++ (remark ++ '\n' :: (body ++ ['\n']))) ++ fence := by
    simp [framed]
  rw [Text.trim_append_of_blank blankBefore, trim, start, Text.trimEnd_append_of_blank blankAfter,
    split, trimEnd_append_fence]

private theorem closeFence_trim_append_fence (body : Text) :
    closeFence (trim (body ++ '\n' :: fence)) = trim body := by
  have solid : isBlank '\x60' = false := by decide
  obtain ⟨w, blank, rfl | ⟨c, r, rfl, other⟩⟩ := Text.exists_blanks body
  · -- The line feed before the fence is one more blank, so the fence is the only line.
    have alone : trim (body ++ '\n' :: fence) = fence := by
      have feed : ∀ c ∈ ['\n'], isBlank c = true := List.forall_mem_singleton.mpr rfl
      have start : trimStart fence = fence := Text.trimStart_cons_of_not_blank solid _
      rw [Text.trim_append_of_blank blank, ← List.singleton_append, Text.trim_append_of_blank feed,
        trim, start]
      exact trimEnd_append_fence []
    rw [alone, closeFence_line (by decide) (by decide), Text.trim_of_blank blank]
  · have kept : trim (w ++ c :: r ++ '\n' :: fence) = c :: r ++ '\n' :: fence := by
      have start : trimStart (c :: r ++ '\n' :: fence) = c :: r ++ '\n' :: fence :=
        Text.trimStart_cons_of_not_blank other _
      have split : c :: r ++ '\n' :: fence = (c :: r ++ ['\n']) ++ fence := by simp
      rw [List.append_assoc, Text.trim_append_of_blank blank, trim, start, split,
        trimEnd_append_fence]
    rw [kept, closeFence_append (by decide) (by decide), Text.trim_append_of_blank blank]

private theorem unframe_of_framed (blankBefore : ∀ c ∈ before, isBlank c = true)
    (blankAfter : ∀ c ∈ after, isBlank c = true) (line : '\n' ∉ remark) (body : Text) :
    unframe (before ++ (framed remark body ++ after)) = decodeInTurn (trim body) := by
  rw [unframe_eq, trim_framed blankBefore blankAfter, framed, openFence_append line,
    closeFence_trim_append_fence]

/--
Unframing takes a text out of one pair of fences and decodes its entities, whatever the text holds, fences
of its own included. What is escaped before it is framed comes back as it was, but for the blanks around
it, unless it had entities of its own.
-/
theorem unframe_framed (blankBefore : ∀ c ∈ before, isBlank c = true)
    (blankAfter : ∀ c ∈ after, isBlank c = true) (line : '\n' ∉ remark) :
    (∀ body, unframe (before ++ (framed remark body ++ after)) = decodeInTurn (trim body)) ∧
      ∀ t, (∀ e ∈ entities, ¬ e.1 <:+: t) →
        unframe (before ++ (framed remark (escape t) ++ after)) = trim t := by
  refine ⟨unframe_of_framed blankBefore blankAfter line, fun t free => ?_⟩
  have trimmed : trim (escape t) = escape (trim t) := keepsBlanks_escapeChar.trim_expand t
  have inner : ∀ e ∈ entities, ¬ e.1 <:+: trim t := fun e mem inside =>
    free e mem (inside.trans (Text.trim_infix t))
  rw [unframe_of_framed blankBefore blankAfter line, trimmed, decodeInTurn_escape inner]

/-- A frame around a frame, and one around a text with an ampersand that begins no entity. -/
theorem unframe_framed_twice :
    unframe (" \n" ++ (framed "py" (framed "" " a &lt; b\n") ++ "\n\t")) =
        decodeInTurn (framed "" " a &lt; b\n") ∧
      unframe (" \n" ++ (framed "py" (escape "\n if a && b < \"c\":\n") ++ "\n\t")) =
        "if a && b < \"c\":" := by
  have blankBefore : ∀ c ∈ (" \n" : Text), isBlank c = true :=
    List.all_eq_true.mp (by decide)
  have blankAfter : ∀ c ∈ ("\n\t" : Text), isBlank c = true := List.all_eq_true.mp (by decide)
  have line : '\n' ∉ ("py" : Text) := by decide
  have free : ∀ e ∈ entities, ¬ e.1 <:+: ("\n if a && b < \"c\":\n" : Text) := by
    intro e mem inside
    have ends : ∀ e ∈ entities, ';' ∈ e.1 := by decide
    exact absurd (inside.subset (ends e mem)) (by decide)
  have trimmed : trim (framed "" " a &lt; b\n") = framed "" " a &lt; b\n" := by decide
  obtain ⟨takesOut, restores⟩ := unframe_framed blankBefore blankAfter line
  refine ⟨?_, (restores _ free).trans (by decide)⟩
  rw [takesOut, trimmed]

private theorem endsWith_last (body last : Text) :
    endsWith (body ++ '\n' :: last) fence = endsWith last fence := by
  rw [Bool.eq_iff_iff]
  refine ⟨fun ends => ?_, fun ends => ?_⟩
  · rw [endsWith, List.isSuffixOf_iff_suffix] at ends ⊢
    -- The fence has no line feed, so it cannot reach over the one before the last line.
    have tail : '\n' :: last <:+ body ++ '\n' :: last := List.suffix_append _ _
    rcases List.suffix_or_suffix_of_suffix ends tail with inside | beyond
    · rcases List.suffix_cons_iff.mp inside with whole | inside
      · cases whole
      · exact inside
    · exact absurd (beyond.subset List.mem_cons_self) (by decide)
  · have tail := endsWith_append ends ['\n']
    exact endsWith_append tail body

private theorem count_decodeEntities (t : Text) : (decodeEntities t).count '\x60' = t.count '\x60' := by
  fun_induction decodeEntities t <;> simp_all [List.count_cons]

private theorem count_trim_le (c : Char) (t : Text) : (trim t).count c ≤ t.count c :=
  (Text.trim_infix t).sublist.count_le c

private theorem count_closeFence_lt (ends : endsWith t fence = true) :
    (closeFence t).count '\x60' < t.count '\x60' := by
  have marks {l : Text} (ends : endsWith l fence = true) : 0 < l.count '\x60' := by
    rw [endsWith, List.isSuffixOf_iff_suffix] at ends
    exact List.count_pos_iff.mpr (ends.subset (by decide))
  by_cases feed : '\n' ∈ t
  · obtain ⟨body, last, rfl, line⟩ := Text.exists_last_of_mem feed
    rw [endsWith_last] at ends
    rw [closeFence_append line ends, List.count_append, List.count_cons_of_ne (by decide)]
    have kept := count_trim_le '\x60' body
    have lost := marks ends
    omega
  · rw [closeFence_line feed ends]
    exact marks ends

private theorem unframe_of_not_startsWith (unopened : startsWith (trim t) fence = false) :
    unframe t = decodeInTurn (closeFence (trim t)) := by
  rw [unframe_eq, openFence_of_not_startsWith unopened]

/--
A text that begins with no fence comes through whole exactly if it does not end with one. If it does, the
whole last line is lost, whatever else stands in it, and with it the blanks above it.
-/
theorem unframe_of_unopened (unopened : startsWith (trim t) fence = false) :
    (unframe t = decodeInTurn (trim t) ↔ endsWith (trim t) fence = false) ∧
      (∀ body last, trim t = body ++ '\n' :: last → '\n' ∉ last → endsWith last fence = true →
        unframe t = decodeInTurn (trim body)) ∧
      ('\n' ∉ trim t → endsWith (trim t) fence = true → unframe t = []) := by
  have closes := unframe_of_not_startsWith unopened
  refine ⟨⟨fun same => ?_, fun unclosed => ?_⟩, ?_, ?_⟩
  · by_contra closed
    have ends : endsWith (trim t) fence = true := by simpa using closed
    have fewer := count_closeFence_lt ends
    have counts := congrArg (List.count '\x60') (closes.symm.trans same)
    rw [← decodeEntities_eq, ← decodeEntities_eq, count_decodeEntities, count_decodeEntities] at counts
    omega
  · rw [closes, closeFence_of_not_endsWith unclosed]
  · intro body last split line ends
    rw [closes, split, closeFence_append line ends]
  · intro line ends
    rw [closes, closeFence_line line ends, ← decodeEntities_eq]
    rfl

def listing : Text := "# Usage\n\n\x60\x60\x60sh\nrun\n\x60\x60\x60\n"

theorem unframe_of_unopened_listing :
    startsWith (trim listing) fence = false ∧
      unframe listing = decodeInTurn (trim "# Usage\n\n\x60\x60\x60sh\nrun") := by
  have unopened : startsWith (trim listing) fence = false := by decide
  have split : trim listing = "# Usage\n\n\x60\x60\x60sh\nrun" ++ '\n' :: fence := by decide
  exact ⟨unopened, (unframe_of_unopened unopened).2.1 _ fence split (by decide) (by decide)⟩

/-- The listing is not closed any more. -/
theorem unframe_loses_last_line : startsWith (trim listing) fence = false ∧
    unframe listing ≠ decodeInTurn (trim listing) := by
  rw [← decodeEntities_eq]
  decide

end Redline.Write
