import Redline.Proofs.Diff.Placement
import Redline.Proofs.Diff.Rendering

set_option autoImplicit false
set_option relaxedAutoImplicit false

/-!
Accurate diffs. A text is taken apart into gaps, which stay, and edits between them; each edit is
written as a block of a diff. If the first old line of an edit does not occur in the gap before it,
applying the diff makes every edit and nothing else, whatever numbers the headers give. Only an edit
without old lines needs its header, which then names the line after which to insert.
-/

namespace Redline.Diff

open Text (digitsValue)

inductive Edit where
  | keep (line : Line)
  | delete (line : Line)
  | add (line : Line)
  deriving Repr, DecidableEq

namespace Edit

def old? : Edit → Option Line
  | .keep l => some l
  | .delete l => some l
  | .add _ => none

def new? : Edit → Option Line
  | .keep l => some l
  | .delete _ => none
  | .add l => some l

def olds (es : List Edit) : List Line := es.filterMap old?

def news (es : List Edit) : List Line := es.filterMap new?

/-- Whether an edit can be written without being taken for the header of a file. -/
def IsPlain : Edit → Prop
  | .keep l => '\n' ∉ l
  | .delete l => '\n' ∉ l ∧ Text.startsWith l ['-', '-'] = false
  | .add l => '\n' ∉ l ∧ Text.startsWith l ['+', '+'] = false

instance : DecidablePred IsPlain
  | .keep l => inferInstanceAs (Decidable ('\n' ∉ l))
  | .delete l => inferInstanceAs (Decidable ('\n' ∉ l ∧ Text.startsWith l ['-', '-'] = false))
  | .add l => inferInstanceAs (Decidable ('\n' ∉ l ∧ Text.startsWith l ['+', '+'] = false))

end Edit

/--
The body lines that spell edits. A kept empty line may be written without its space, unless it is the
last line; one empty line may follow the edits.
-/
inductive Spells : List Edit → List Line → Prop
  | nil : Spells [] []
  | padding : Spells [] [[]]
  | keep (l : Line) {es : List Edit} {ls : List Line} :
      Spells es ls → Spells (.keep l :: es) ((' ' :: l) :: ls)
  | bare {es : List Edit} {ls : List Line} :
      Spells es ls → ls ≠ [] → Spells (.keep [] :: es) ([] :: ls)
  | delete (l : Line) {es : List Edit} {ls : List Line} :
      Spells es ls → Spells (.delete l :: es) (('-' :: l) :: ls)
  | add (l : Line) {es : List Edit} {ls : List Line} :
      Spells es ls → Spells (.add l :: es) (('+' :: l) :: ls)

namespace Spells

variable {es : List Edit} {ls : List Line}

private theorem ne_nil (spells : Spells es ls) (some : es ≠ []) : ls ≠ [] := by
  cases spells <;> simp_all

private theorem sourceLines_eq (spells : Spells es ls) : sourceLines ls = Edit.olds es := by
  induction spells with
  | nil => rfl
  | padding => rfl
  | keep l _ ih => exact congrArg (l :: ·) ih
  | bare _ ne ih =>
    rw [sourceLines, ih]
    · rfl
    · exact ne
  | delete l _ ih => exact congrArg (l :: ·) ih
  | add l _ ih => exact ih

private theorem targetLines_eq (spells : Spells es ls) : targetLines ls = Edit.news es := by
  induction spells with
  | nil => rfl
  | padding => rfl
  | keep l _ ih => exact congrArg (l :: ·) ih
  | bare _ ne ih =>
    rw [targetLines, ih]
    · rfl
    · exact ne
  | delete l _ ih => exact ih
  | add l _ ih => exact congrArg (l :: ·) ih

private theorem isBodyLine (spells : Spells es ls) : ∀ l ∈ ls, IsBodyLine l := by
  induction spells with
  | nil => simp
  | padding => simp [IsBodyLine]
  | keep l _ ih => exact List.forall_mem_cons.mpr ⟨by simp [IsBodyLine], ih⟩
  | bare _ _ ih => exact List.forall_mem_cons.mpr ⟨by simp [IsBodyLine], ih⟩
  | delete l _ ih => exact List.forall_mem_cons.mpr ⟨by simp [IsBodyLine], ih⟩
  | add l _ ih => exact List.forall_mem_cons.mpr ⟨by simp [IsBodyLine], ih⟩

theorem feed_not_mem_and_endsHunk (spells : Spells es ls) (plain : ∀ e ∈ es, e.IsPlain) :
    ∀ l ∈ ls, '\n' ∉ l ∧ endsHunk l = false := by
  induction spells with
  | nil => simp
  | padding => simp [endsHunk, isMarker, isFileHeader, Text.startsWith]
  | keep l _ ih =>
    obtain ⟨free, plain⟩ := List.forall_mem_cons.mp plain
    have written : '\n' ∉ ' ' :: l := by simpa using show '\n' ∉ l from free
    exact List.forall_mem_cons.mpr ⟨⟨written, rfl⟩, ih plain⟩
  | bare _ _ ih =>
    obtain ⟨-, plain⟩ := List.forall_mem_cons.mp plain
    exact List.forall_mem_cons.mpr ⟨⟨List.not_mem_nil, rfl⟩, ih plain⟩
  | delete l _ ih =>
    obtain ⟨⟨free, dashes⟩, plain⟩ := List.forall_mem_cons.mp plain
    have written : '\n' ∉ '-' :: l := by simpa using free
    have inside : endsHunk ('-' :: l) = false := by
      simpa [endsHunk, isMarker, isFileHeader, Text.startsWith, List.isPrefixOf] using dashes
    exact List.forall_mem_cons.mpr ⟨⟨written, inside⟩, ih plain⟩
  | add l _ ih =>
    obtain ⟨⟨free, pluses⟩, plain⟩ := List.forall_mem_cons.mp plain
    have written : '\n' ∉ '+' :: l := by simpa using free
    have inside : endsHunk ('+' :: l) = false := by
      simpa [endsHunk, isMarker, isFileHeader, Text.startsWith, List.isPrefixOf] using pluses
    exact List.forall_mem_cons.mpr ⟨⟨written, inside⟩, ih plain⟩

end Spells

/-- Lines that stay, the edits after them, and the block that writes the edits. -/
structure Passage where
  gap : List Line
  edits : List Edit
  block : Block

namespace Passage

def olds (p : Passage) : List Line := p.gap ++ Edit.olds p.edits

def news (p : Passage) : List Line := p.gap ++ Edit.news p.edits

/--
Whether the block of a passage writes its edits, before which `place` lines of the old text stand.
The numbers of the header count only when there is no old line to look for.
-/
structure Accurate (p : Passage) (place : Nat) : Prop where
  edits_ne_nil : p.edits ≠ []
  plain : ∀ e ∈ p.edits, e.IsPlain
  spells : Spells p.edits p.block.body
  old : p.block.old.WellFormed
  new : p.block.new.WellFormed
  remark : '\n' ∉ p.block.remark
  anchor : ∀ a ∈ (Edit.olds p.edits).head?, a ∉ p.gap
  declared : Edit.olds p.edits = [] → digitsValue p.block.old.start = place ∧ p.block.old.size = 0

variable {p : Passage} {place : Nat}

private theorem Accurate.wellFormed (accurate : p.Accurate place) : p.block.WellFormed :=
  ⟨accurate.old, accurate.new, accurate.remark,
    accurate.spells.feed_not_mem_and_endsHunk accurate.plain⟩

private theorem Accurate.valid (accurate : p.Accurate place) (n : Nat) : (p.block.hunk n).Valid :=
  ⟨accurate.spells.ne_nil accurate.edits_ne_nil, accurate.spells.isBodyLine⟩

private theorem Accurate.source_eq (accurate : p.Accurate place) (n : Nat) :
    (p.block.hunk n).source = Edit.olds p.edits :=
  accurate.spells.sourceLines_eq

private theorem Accurate.target_eq (accurate : p.Accurate place) (n : Nat) :
    (p.block.hunk n).target = Edit.news p.edits :=
  accurate.spells.targetLines_eq

end Passage

private theorem Hunk.sitsAt_append {h : Hunk} (before gap after : List Line)
    (anchor : ∀ a ∈ h.source.head?, a ∉ gap)
    (declared : h.source = [] → h.oldStart + 1 = before.length + gap.length ∧ h.oldCount = 0) :
    h.SitsAt (before ++ (gap ++ (h.source ++ after))) before.length
      (before.length + gap.length) := by
  unfold Hunk.SitsAt
  split
  · rename_i a source
    obtain ⟨more, eq⟩ : ∃ more, h.source = a :: more := by
      cases source' : h.source with
      | nil => simp [source'] at source
      | cons b more => exact ⟨more, by simp_all⟩
    refine ⟨by omega, ?_, ?_⟩
    · rw [List.getElem?_append_right (by omega), List.getElem?_append_right (by omega), eq]
      simp
    · intro j ge lt found
      rw [List.getElem?_append_right ge, List.getElem?_append_left (by omega)] at found
      exact anchor a source (List.mem_of_getElem? found)
  · rename_i source
    obtain ⟨start, count⟩ := declared (List.head?_eq_none_iff.mp source)
    simp only [count, ↓reduceIte, List.length_append]
    omega

private theorem exists_placement_of_accurate {ps : List Passage} (before rest : List Line) (n : Nat)
    (accurate : ∀ done p todo, ps = done ++ p :: todo →
      p.Accurate (before ++ (done.flatMap Passage.olds ++ p.gap)).length) :
    let olds := before ++ (ps.flatMap Passage.olds ++ rest)
    let hs := hunksFrom n (ps.map Passage.block)
    (∀ h ∈ hs, h.Valid) ∧ ∃ places, Placement olds before.length hs places ∧
      EndInside olds hs places ∧
      assemble olds before.length hs places = ps.flatMap Passage.news ++ rest := by
  -- What stands before a passage, `before`, grows with the passages that are done.
  induction ps generalizing before n with
  | nil =>
    refine ⟨by simp [hunksFrom], [], .nil _, .nil, ?_⟩
    simp [hunksFrom, assemble]
  | cons p ps ih =>
    have first : p.Accurate (before.length + p.gap.length) := by
      simpa using accurate [] p ps rfl
    have others : ∀ done q todo, ps = done ++ q :: todo →
        q.Accurate (before ++ p.olds ++ (done.flatMap Passage.olds ++ q.gap)).length := by
      intro done q todo eq
      simpa using accurate (p :: done) q todo (by rw [eq]; rfl)
    obtain ⟨valid, places, placed, ends, assembled⟩ :=
      ih (before ++ p.olds) (n + p.block.lines.length) others
    have split : before ++ ((p :: ps).flatMap Passage.olds ++ rest) =
        before ++ p.olds ++ (ps.flatMap Passage.olds ++ rest) := by
      simp [List.append_assoc]
    have spread : before ++ p.olds ++ (ps.flatMap Passage.olds ++ rest) =
        before ++ (p.gap ++ ((p.block.hunk n).source ++ (ps.flatMap Passage.olds ++ rest))) := by
      simp [Passage.olds, first.source_eq, List.append_assoc]
    have used : before.length + p.gap.length + (p.block.hunk n).source.length =
        (before ++ p.olds).length := by
      simp [Passage.olds, first.source_eq]
      omega
    have sits := Hunk.sitsAt_append (h := p.block.hunk n) before p.gap
      (ps.flatMap Passage.olds ++ rest)
      (by rw [first.source_eq]; exact first.anchor)
      (by
        intro none
        rw [first.source_eq] at none
        obtain ⟨start, size⟩ := first.declared none
        simp [Block.hunk, start, size])
    rw [← spread] at sits
    simp only [split, List.map_cons, hunksFrom]
    refine ⟨List.forall_mem_cons.mpr ⟨first.valid n, valid⟩,
      (before.length + p.gap.length) :: places, .cons sits ?_, .cons ?_ ends, ?_⟩
    · rw [used]
      exact placed
    · simp only [used, List.length_append]
      omega
    · have gap : (before ++ p.olds ++ (ps.flatMap Passage.olds ++ rest)).extract before.length
          (before.length + p.gap.length) = p.gap := by
        simp [Passage.olds]
      rw [assemble, used, assembled, gap, first.target_eq]
      simp [Passage.news, List.append_assoc]

theorem applyHunks_of_accurate {ps : List Passage} {rest : List Line} (n : Nat)
    (nonempty : ps.flatMap Passage.olds ++ rest ≠ [])
    (free : ∀ l ∈ ps.flatMap Passage.olds ++ rest, '\n' ∉ l)
    (accurate : ∀ done p todo, ps = done ++ p :: todo →
      p.Accurate (done.flatMap Passage.olds ++ p.gap).length) :
    applyHunks false (Text.unlines (ps.flatMap Passage.olds ++ rest))
        (hunksFrom n (ps.map Passage.block)) =
      .ok (Text.unlines (ps.flatMap Passage.news ++ rest)) := by
  obtain ⟨valid, places, placed, ends, assembled⟩ :=
    exists_placement_of_accurate [] rest n accurate
  rw [applyHunks_eq_ok_iff_placement, Text.lines_unlines nonempty free]
  exact ⟨valid, places, placed, ends, by rw [← assembled]; rfl⟩

theorem parse_passages {ps : List Passage} {lead : List Line}
    (leads : ∀ l ∈ lead, '\n' ∉ l ∧ isMarker l = false)
    (wf : ∀ done p todo, ps = done ++ p :: todo → p.block.WellFormed) :
    parse (Text.unlines (lead ++ ps.flatMap fun p => p.block.lines)) =
      .ok (hunksFrom (lead.length + 1) (ps.map Passage.block)) := by
  have blocks : ∀ b ∈ ps.map Passage.block, b.WellFormed := by
    intro b mem
    obtain ⟨p, inPassages, rfl⟩ := List.mem_map.mp mem
    obtain ⟨done, todo, eq⟩ := List.append_of_mem inPassages
    exact wf done p todo eq
  have parsed := parse_unlines_append leads blocks
  rwa [List.flatMap_map] at parsed

/--
A diff that writes the edits of a text accurately makes them all, and nothing else, whatever line
numbers it declares.
-/
theorem apply_accurate_diff {ps : List Passage} {rest lead : List Line}
    (nonempty : ps.flatMap Passage.olds ++ rest ≠ [])
    (free : ∀ l ∈ ps.flatMap Passage.olds ++ rest, '\n' ∉ l)
    (leads : ∀ l ∈ lead, '\n' ∉ l ∧ isMarker l = false)
    (accurate : ∀ done p todo, ps = done ++ p :: todo →
      p.Accurate (done.flatMap Passage.olds ++ p.gap).length) :
    apply false (Text.unlines (ps.flatMap Passage.olds ++ rest))
        (.text (Text.unlines (lead ++ ps.flatMap fun p => p.block.lines))) =
      .ok (Text.unlines (ps.flatMap Passage.news ++ rest)) := by
  have parsed := parse_passages leads fun done p todo eq => (accurate done p todo eq).wellFormed
  have applied := applyHunks_of_accurate (lead.length + 1) nonempty free accurate
  simp only [apply, Source.toHunks, parsed, applied]
  rfl

/--
A diff of two hunks: the first declares the wrong lines and writes a kept empty line without its
space, the second inserts after the fourth line and ends in padding.
-/
theorem apply_accurate_diff_misnumbered :
    apply false ("a\n\nb\nc\nd" : Text)
        (.text ("--- f\n@@ -99,7 +3 @@\n+x\n\n-b\n@@ -4,0 +1 @@\n+y\n" : Text)) =
      .ok ("a\nx\n\nc\ny\nd" : Text) := by
  let first : Passage :=
    { gap := ["a"], edits := [.add "x", .keep "", .delete "b"]
      block := ⟨⟨"99", some "7"⟩, ⟨"3", none⟩, "", ["+x", "", "-b"]⟩ }
  let second : Passage :=
    { gap := ["c"], edits := [.add "y"], block := ⟨⟨"4", some "0"⟩, ⟨"1", none⟩, "", ["+y", ""]⟩ }
  refine @apply_accurate_diff [first, second] ["d"] ["--- f"] (by decide) (by decide) (by decide) ?_
  intro done p todo eq
  match done with
  | [] =>
    obtain rfl : first = p := (List.cons.inj eq).1
    exact {
      edits_ne_nil := by decide
      plain := by decide
      spells := .add _ (.bare (.delete _ .nil) (by decide))
      old := by decide
      new := by decide
      remark := by decide
      anchor := by decide
      declared := by decide }
  | [q] =>
    obtain rfl : first = q := (List.cons.inj eq).1
    obtain rfl : second = p := (List.cons.inj (List.cons.inj eq).2).1
    exact {
      edits_ne_nil := by decide
      plain := by decide
      spells := .add _ .padding
      old := by decide
      new := by decide
      remark := by decide
      anchor := by decide
      declared := by decide }
  | q :: r :: done => simp at eq

end Redline.Diff
