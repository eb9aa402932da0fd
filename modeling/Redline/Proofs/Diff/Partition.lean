import Mathlib.Data.Finset.Max
import Mathlib.Data.List.TakeWhile
import Redline.Proofs.Diff.Rendering

set_option autoImplicit false
set_option relaxedAutoImplicit false

/-!
What becomes of each line of a diff text. The headers of the hunks that are read are all the lines that
begin with the marker, in order, and a hunk's body is the longest run below its header in which no line
ends a hunk. So each line is a header, or belongs to one body, or stands before the first header, or lies
between the header of a file that has ended a hunk and the next hunk.
-/

namespace Redline.Diff

/-- The lines that begin with the marker, each with its number, when the first line has the given one. -/
def markersFrom (n : Nat) (ls : List Line) : List (Line × Nat) :=
  (ls.zipIdx n).filter fun m => isMarker m.1

/-- Whether the header of a hunk is the line of index `i`, and its body is the longest run below it. -/
structure Hunk.StandsIn (ls : List Line) (i : Nat) (h : Hunk) : Prop where
  headerLine : h.headerLine = i + 1
  isMarker : ∃ l, ls[i]? = some l ∧ isMarker l = true
  lines : h.lines = (ls.drop (i + 1)).takeWhile fun l => !endsHunk l

/-- What a line of a diff text is to the hunks that are read. -/
inductive Role where
  | header
  | body
  /-- It stands before the first header. -/
  | leading
  /-- A header of a file has ended the hunk above it, and the next hunk has not begun. -/
  | passedOver
  deriving Repr, DecidableEq

/-- Whether the line of index `i`, whose number is thus `i + 1`, has a role. -/
def Role.Fits (ls : List Line) (hs : List Hunk) (i : Nat) : Role → Prop
  | .header => ∃ h ∈ hs, h.headerLine = i + 1
  | .body => ∃ h ∈ hs, h.headerLine < i + 1 ∧ (i + 1 : Int) ≤ h.headerLine + h.lines.length
  | .leading => ∀ h ∈ hs, (i + 1 : Int) < h.headerLine
  | .passedOver => ∃ h ∈ hs, ∃ (j : Nat) (l : Line), h.headerLine + h.lines.length = j ∧
      ls[j]? = some l ∧ isFileHeader l = true ∧ j ≤ i ∧
      ∀ g ∈ hs, h.headerLine < g.headerLine → (i + 1 : Int) < g.headerLine

private theorem ofHeader_headerLine {n : Nat} {l : Line} {h : Hunk} (read : Hunk.ofHeader n l = .ok h) :
    h.headerLine = n := by
  unfold Hunk.ofHeader at read
  split at read
  · simp at read
  · simp only [bind_eq_ok_iff, pure_eq_ok_iff] at read
    obtain ⟨_, -, _, -, _, -, _, -, rfl⟩ := read
    rfl

theorem scanHunks_cons_of_marker {n : Nat} {l : Line} {ls body : List Line} {hs : List Hunk}
    (marker : isMarker l = true) :
    scanHunks n (l :: ls) = .ok (body, hs) ↔
      ∃ h inner more, Hunk.ofHeader n l = .ok h ∧ scanHunks (n + 1) ls = .ok (inner, more) ∧
        body = [] ∧ hs = { h with lines := inner } :: more := by
  simp only [scanHunks, marker, ↓reduceIte, bind_eq_ok_iff, pure_eq_ok_iff, Prod.exists,
    Prod.mk.injEq]
  constructor
  · rintro ⟨h, read, inner, more, scanned, rfl, rfl⟩
    exact ⟨h, inner, more, read, scanned, rfl, rfl⟩
  · rintro ⟨h, inner, more, read, scanned, rfl, rfl⟩
    exact ⟨h, read, inner, more, scanned, rfl, rfl⟩

theorem scanHunks_cons_of_not_marker {n : Nat} {l : Line} {ls body : List Line} {hs : List Hunk}
    (plain : isMarker l = false) :
    scanHunks n (l :: ls) = .ok (body, hs) ↔
      ∃ inner, scanHunks (n + 1) ls = .ok (inner, hs) ∧
        body = if isFileHeader l then [] else l :: inner := by
  simp only [scanHunks, plain, Bool.false_eq_true, ↓reduceIte, bind_eq_ok_iff, pure_eq_ok_iff,
    Prod.exists, Prod.mk.injEq]
  constructor
  · rintro ⟨inner, more, scanned, rfl, rfl⟩
    exact ⟨inner, scanned, rfl⟩
  · rintro ⟨inner, scanned, rfl⟩
    exact ⟨inner, hs, scanned, rfl, rfl⟩

private theorem takeWhile_of_scanHunks {n : Nat} {ls body : List Line} {hs : List Hunk}
    (scanned : scanHunks n ls = .ok (body, hs)) : body = ls.takeWhile fun l => !endsHunk l := by
  induction ls generalizing n body hs with
  | nil =>
    obtain ⟨rfl, rfl⟩ := Prod.mk.inj (Except.ok.inj scanned)
    rfl
  | cons l ls ih =>
    cases marker : isMarker l with
    | true =>
      obtain ⟨h, inner, more, -, -, rfl, rfl⟩ := (scanHunks_cons_of_marker marker).mp scanned
      simp [endsHunk, marker]
    | false =>
      obtain ⟨inner, below, rfl⟩ := (scanHunks_cons_of_not_marker marker).mp scanned
      have run := ih below
      cases ends : isFileHeader l <;> simp [endsHunk, marker, ends, run]

private theorem map_headerLine_of_scanHunks {n : Nat} {ls body : List Line} {hs : List Hunk}
    (scanned : scanHunks n ls = .ok (body, hs)) :
    hs.map Hunk.headerLine = (markersFrom n ls).map fun m => (m.2 : Int) := by
  induction ls generalizing n body hs with
  | nil =>
    obtain ⟨rfl, rfl⟩ := Prod.mk.inj (Except.ok.inj scanned)
    rfl
  | cons l ls ih =>
    cases marker : isMarker l with
    | true =>
      obtain ⟨h, inner, more, read, below, rfl, rfl⟩ :=
        (scanHunks_cons_of_marker marker).mp scanned
      have number := ofHeader_headerLine read
      simpa [markersFrom, List.zipIdx_cons, marker, number] using ih below
    | false =>
      obtain ⟨inner, below, rfl⟩ := (scanHunks_cons_of_not_marker marker).mp scanned
      simpa [markersFrom, List.zipIdx_cons, marker] using ih below

private theorem exists_standsIn_of_scanHunks (above : List Line) {ls body : List Line} {hs : List Hunk}
    (scanned : scanHunks (above.length + 1) ls = .ok (body, hs)) :
    ∀ h ∈ hs, ∃ i, h.StandsIn (above ++ ls) i := by
  -- The lines above grow by the one that is done, so the whole text stays the same.
  induction ls generalizing above body hs with
  | nil =>
    obtain ⟨rfl, rfl⟩ := Prod.mk.inj (Except.ok.inj scanned)
    simp
  | cons l ls ih =>
    have whole : above ++ [l] ++ ls = above ++ l :: ls := by simp
    have number : (above ++ [l]).length + 1 = above.length + 1 + 1 := by simp
    rw [← whole]
    cases marker : isMarker l with
    | true =>
      obtain ⟨h, inner, more, read, below, rfl, rfl⟩ :=
        (scanHunks_cons_of_marker marker).mp scanned
      have run := takeWhile_of_scanHunks below
      rw [← number] at below
      refine List.forall_mem_cons.mpr ⟨⟨above.length, ?_, ⟨l, ?_, marker⟩, ?_⟩, ih _ below⟩
      · simpa using ofHeader_headerLine read
      · simp
      · have rest : (above ++ [l] ++ ls).drop (above.length + 1) = ls :=
          List.drop_left' (by simp)
        rw [rest]
        exact run
    | false =>
      obtain ⟨inner, below, rfl⟩ := (scanHunks_cons_of_not_marker marker).mp scanned
      rw [← number] at below
      exact ih _ below

variable {diff : Text} {ls : List Line} {hs : List Hunk}

namespace Hunk.StandsIn

variable {i k : Nat} {l : Line} {h : Hunk}

private theorem append_eq (stands : h.StandsIn ls i) :
    h.lines ++ (ls.drop (i + 1)).dropWhile (fun l => !endsHunk l) = ls.drop (i + 1) := by
  rw [stands.lines]
  exact List.takeWhile_append_dropWhile

theorem getElem?_of_lines (stands : h.StandsIn ls i) (found : h.lines[k]? = some l) :
    ls[i + 1 + k]? = some l := by
  have inside : k < h.lines.length := (List.getElem?_eq_some_iff.mp found).1
  have below : (ls.drop (i + 1))[k]? = some l := by
    rw [← stands.append_eq, List.getElem?_append_left inside, found]
  rwa [List.getElem?_drop] at below

private theorem endsHunk_of_mem (stands : h.StandsIn ls i) (mem : l ∈ h.lines) : endsHunk l = false := by
  rw [stands.lines] at mem
  simpa using List.mem_takeWhile_imp mem

private theorem endsHunk_below (stands : h.StandsIn ls i) (found : ls[i + 1 + h.lines.length]? = some l) :
    endsHunk l = true := by
  have first : ((ls.drop (i + 1)).dropWhile fun l => !endsHunk l).head? = some l := by
    rw [← List.getElem?_drop, ← stands.append_eq, List.getElem?_append_right (Nat.le_refl _),
      Nat.sub_self] at found
    rwa [List.head?_eq_getElem?]
  have stops := List.head?_dropWhile_not (fun l => !endsHunk l) (ls.drop (i + 1))
  rw [first] at stops
  simpa using stops

private theorem ends_above_marker (stands : h.StandsIn ls i) (found : ls[k]? = some l)
    (marker : Diff.isMarker l = true) (below : i < k) : i + h.lines.length < k := by
  -- Otherwise the marker is a line of the body, and no line of a body ends a hunk.
  by_contra reaches
  obtain ⟨j, rfl⟩ : ∃ j, k = i + 1 + j := ⟨k - (i + 1), by omega⟩
  have inside : j < h.lines.length := by omega
  have bodyLine : h.lines[j]? = some h.lines[j] := List.getElem?_eq_getElem inside
  have same : l = h.lines[j] := by
    rw [stands.getElem?_of_lines bodyLine] at found
    exact (Option.some.inj found).symm
  have stays := stands.endsHunk_of_mem (List.getElem_mem inside)
  rw [← same, endsHunk, marker] at stays
  simp at stays

end Hunk.StandsIn

/-- Whether the headers of hunks are all the lines with the marker, and each hunk stands where it says. -/
structure Layout (ls : List Line) (hs : List Hunk) : Prop where
  headers : hs.map Hunk.headerLine = (markersFrom 1 ls).map fun m => (m.2 : Int)
  stands : ∀ h ∈ hs, ∃ i, h.StandsIn ls i

theorem layout_of_parse (parsed : parse diff = .ok hs) : Layout diff.lines hs := by
  obtain ⟨⟨body, hs'⟩, scanned, rfl⟩ := map_eq_ok_iff.mp parsed
  exact ⟨map_headerLine_of_scanHunks scanned, exists_standsIn_of_scanHunks [] scanned⟩

namespace Layout

variable {i : Nat} {g h : Hunk}

private theorem exists_headerLine_iff (layout : Layout ls hs) :
    (∃ h ∈ hs, h.headerLine = i + 1) ↔ ∃ l, ls[i]? = some l ∧ isMarker l = true := by
  have mem : (∃ h ∈ hs, h.headerLine = i + 1) ↔ ((i : Int) + 1) ∈ hs.map Hunk.headerLine :=
    List.mem_map.symm
  rw [mem, layout.headers]
  simp only [markersFrom, List.mem_map, List.mem_filter, Prod.exists,
    List.mk_mem_zipIdx_iff_le_and_getElem?_sub]
  constructor
  · rintro ⟨l, n, ⟨⟨le, found⟩, marker⟩, number⟩
    obtain rfl : n = i + 1 := by omega
    exact ⟨l, found, marker⟩
  · rintro ⟨l, found, marker⟩
    exact ⟨l, i + 1, ⟨⟨by omega, found⟩, marker⟩, by simp⟩

private theorem body_above (layout : Layout ls hs) (inG : g ∈ hs) (inH : h ∈ hs)
    (below : g.headerLine < h.headerLine) : g.headerLine + g.lines.length < h.headerLine := by
  obtain ⟨i, standsG⟩ := layout.stands g inG
  obtain ⟨k, standsH⟩ := layout.stands h inH
  obtain ⟨l, found, marker⟩ := standsH.isMarker
  have numberG := standsG.headerLine
  have numberH := standsH.headerLine
  have apart := standsG.ends_above_marker found marker (by omega)
  omega

private theorem length_eq (layout : Layout ls hs) (inG : g ∈ hs) (inH : h ∈ hs)
    (same : g.headerLine = h.headerLine) : g.lines.length = h.lines.length := by
  obtain ⟨i, standsG⟩ := layout.stands g inG
  obtain ⟨k, standsH⟩ := layout.stands h inH
  have numberG := standsG.headerLine
  have numberH := standsH.headerLine
  obtain rfl : i = k := by omega
  rw [standsG.lines, standsH.lines]

private theorem not_header_of_body (layout : Layout ls hs) (body : Role.body.Fits ls hs i) :
    ¬ Role.header.Fits ls hs i := by
  obtain ⟨h, inH, below, inside⟩ := body
  rintro ⟨g, inG, number⟩
  have apart := layout.body_above inH inG (by omega)
  omega

private theorem not_header_of_passedOver (passed : Role.passedOver.Fits ls hs i) :
    ¬ Role.header.Fits ls hs i := by
  obtain ⟨h, inH, j, l, ends, -, -, le, next⟩ := passed
  rintro ⟨g, inG, number⟩
  have later := next g inG (by omega)
  omega

private theorem not_body_of_passedOver (layout : Layout ls hs) (passed : Role.passedOver.Fits ls hs i) :
    ¬ Role.body.Fits ls hs i := by
  obtain ⟨h, inH, j, l, ends, -, -, le, next⟩ := passed
  rintro ⟨g, inG, below, inside⟩
  rcases lt_trichotomy g.headerLine h.headerLine with before | same | after
  · have apart := layout.body_above inG inH before
    omega
  · have length := layout.length_eq inG inH same
    omega
  · have later := next g inG after
    omega

private theorem eq_leading_of_leading (leading : Role.leading.Fits ls hs i) {role : Role}
    (fits : role.Fits ls hs i) : role = .leading := by
  cases role with
  | leading => rfl
  | header =>
    obtain ⟨h, inH, number⟩ := fits
    have ahead := leading h inH
    omega
  | body =>
    obtain ⟨h, inH, below, -⟩ := fits
    have ahead := leading h inH
    omega
  | passedOver =>
    obtain ⟨h, inH, j, l, ends, -, -, le, -⟩ := fits
    have ahead := leading h inH
    omega

private theorem role_unique (layout : Layout ls hs) {a b : Role} (first : a.Fits ls hs i)
    (second : b.Fits ls hs i) : a = b :=
  match a, b, first, second with
  | .header, .header, _, _ => rfl
  | .body, .body, _, _ => rfl
  | .passedOver, .passedOver, _, _ => rfl
  | .leading, _, leading, other => (eq_leading_of_leading leading other).symm
  | _, .leading, other, leading => eq_leading_of_leading leading other
  | .header, .body, header, body => absurd header (layout.not_header_of_body body)
  | .body, .header, body, header => absurd header (layout.not_header_of_body body)
  | .header, .passedOver, header, passed => absurd header (not_header_of_passedOver passed)
  | .passedOver, .header, passed, header => absurd header (not_header_of_passedOver passed)
  | .body, .passedOver, body, passed => absurd body (layout.not_body_of_passedOver passed)
  | .passedOver, .body, passed, body => absurd body (layout.not_body_of_passedOver passed)

private theorem exists_last_above {hs : List Hunk} (begun : ∃ h ∈ hs, h.headerLine ≤ i) :
    ∃ h ∈ hs, h.headerLine ≤ i ∧ ∀ g ∈ hs, g.headerLine ≤ i → g.headerLine ≤ h.headerLine := by
  obtain ⟨h₀, mem, above⟩ := begun
  have some : (hs.filter fun h => decide (h.headerLine ≤ (i : Int))).toFinset.Nonempty :=
    ⟨h₀, by simpa using ⟨mem, above⟩⟩
  obtain ⟨h, inFilter, last⟩ := Finset.exists_max_image _ Hunk.headerLine some
  obtain ⟨inH, le⟩ : h ∈ hs ∧ h.headerLine ≤ i := by simpa using inFilter
  exact ⟨h, inH, le, fun g inG le => last g (by simpa using ⟨inG, le⟩)⟩

private theorem passedOver_of_last (layout : Layout ls hs) (inside : i < ls.length)
    (noHeader : ∀ g ∈ hs, g.headerLine ≠ i + 1) (inH : h ∈ hs)
    (last : ∀ g ∈ hs, g.headerLine ≤ i → g.headerLine ≤ h.headerLine)
    (beyond : h.headerLine + h.lines.length ≤ i) : Role.passedOver.Fits ls hs i := by
  obtain ⟨k, stands⟩ := layout.stands h inH
  have number := stands.headerLine
  have below : k + 1 + h.lines.length < ls.length := by omega
  have foundBelow := List.getElem?_eq_getElem below
  have ends := stands.endsHunk_below foundBelow
  -- The line below the body ends the hunk, but a marker there would begin another one.
  have plain : isMarker ls[k + 1 + h.lines.length] = false := by
    rw [Bool.eq_false_iff]
    intro marker
    obtain ⟨g, inG, number'⟩ := layout.exists_headerLine_iff.mpr ⟨_, foundBelow, marker⟩
    have other := noHeader g inG
    have le := last g inG (by omega)
    omega
  have isHeader : isFileHeader ls[k + 1 + h.lines.length] = true := by
    simpa [endsHunk, plain] using ends
  refine ⟨h, inH, _, _, by omega, foundBelow, isHeader, by omega, ?_⟩
  intro g inG later
  have other := noHeader g inG
  by_contra early
  have le := last g inG (by omega)
  omega

private theorem exists_role (layout : Layout ls hs) (inside : i < ls.length) :
    ∃ role : Role, role.Fits ls hs i := by
  have found : ls[i]? = some ls[i] := List.getElem?_eq_getElem inside
  by_cases marker : isMarker ls[i] = true
  · exact ⟨.header, layout.exists_headerLine_iff.mpr ⟨ls[i], found, marker⟩⟩
  have noHeader : ∀ g ∈ hs, g.headerLine ≠ i + 1 := by
    intro g inG number
    obtain ⟨l, found', marker'⟩ := layout.exists_headerLine_iff.mp ⟨g, inG, number⟩
    obtain rfl := Option.some.inj (found.symm.trans found')
    exact marker marker'
  by_cases begun : ∃ h ∈ hs, h.headerLine ≤ i
  · obtain ⟨h, inH, above, last⟩ := exists_last_above begun
    by_cases reached : (i + 1 : Int) ≤ h.headerLine + h.lines.length
    · exact ⟨.body, h, inH, by omega, reached⟩
    · exact ⟨.passedOver, layout.passedOver_of_last inside noHeader inH last (by omega)⟩
  · refine ⟨.leading, fun h inH => ?_⟩
    have other := noHeader h inH
    have late : ¬ h.headerLine ≤ i := fun le => begun ⟨h, inH, le⟩
    omega

end Layout

/--
Reading hunks partitions the lines of a diff text. The headers are the lines that begin with the marker,
in order; each body is the longest run below its header in which no line ends a hunk; and each line has
one role.
-/
theorem parse_partitions (parsed : parse diff = .ok hs) :
    hs.map Hunk.headerLine = (markersFrom 1 diff.lines).map (fun m => (m.2 : Int)) ∧
      (∀ h ∈ hs, ∃ i, h.StandsIn diff.lines i) ∧
      ∀ i < diff.lines.length, ∃! role : Role, role.Fits diff.lines hs i := by
  have layout := layout_of_parse parsed
  refine ⟨layout.headers, layout.stands, fun i inside => ?_⟩
  obtain ⟨role, fits⟩ := layout.exists_role inside
  exact ⟨role, fits, fun other fits' => layout.role_unique fits' fits⟩

/-- A diff with two hunks, the first of which the header of a file ends. -/
def interruptedDiff : Text := "see\n@@ -1 +1 @@\n-a\n--- f\n+b\n@@ -2 +2 @@"

def interruptedHunks : List Hunk := [⟨0, 1, 0, 1, ["-a"], 2⟩, ⟨1, 1, 1, 1, [], 6⟩]

/-- The fifth line lies between the header of the file and the second hunk, and is nothing else. -/
theorem parse_partitions_interrupted :
    parse interruptedDiff = .ok interruptedHunks ∧
      ∀ role : Role, role.Fits interruptedDiff.lines interruptedHunks 4 ↔ role = .passedOver := by
  have parsed : parse interruptedDiff = .ok interruptedHunks := by rfl
  have passed : Role.passedOver.Fits interruptedDiff.lines interruptedHunks 4 :=
    ⟨⟨0, 1, 0, 1, ["-a"], 2⟩, by decide, 3, "--- f", by decide, by decide, by decide, by decide,
      by decide⟩
  obtain ⟨role, -, only⟩ := (parse_partitions parsed).2.2 4 (by decide)
  refine ⟨parsed, fun other => ⟨fun fits => ?_, fun eq => eq ▸ passed⟩⟩
  rw [only other fits, only .passedOver passed]

end Redline.Diff
