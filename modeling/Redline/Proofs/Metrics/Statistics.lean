import Redline.Proofs.Data.Json
import Redline.Proofs.Metrics.Journal
import Redline.Proofs.Outcome
import Redline.Proofs.Text.Rows

set_option autoImplicit false
set_option relaxedAutoImplicit false

/-!
What the statistics say of a write log whose lines are all objects. Each object is read as it was written,
so the rates over a window are those over the last entries, and the counts of the error kinds, in
whatever order they are listed, add up to the number of errors.
-/

namespace Redline.Metrics

open Data (Atom Value)
open Data.Json (IsSimpleMember IsPrintable)
open Disk (Tree Place Spells)
open Text (terminated)

/-- Whether members make an object that is read as it is written. -/
structure IsEntry (es : List (Wording × Value)) : Prop where
  simple : ∀ e ∈ es, IsSimpleMember e
  distinct : (es.map Prod.fst).Nodup

def objectLines (entries : List (List (Wording × Value))) : List Line :=
  entries.map fun es => Data.Json.write (.map es)

def logText (entries : List (List (Wording × Value))) : Text := terminated (objectLines entries)

variable {entries : List (List (Wording × Value))} {es : List (Wording × Value)}

theorem logText_append (entries : List (List (Wording × Value))) (es : List (Wording × Value)) :
    logText (entries ++ [es]) = logText entries ++ (Data.Json.write (.map es) ++ ['\n']) := by
  simp [logText, objectLines, terminated, Text.closed]

/-! Reading the lines again. -/

theorem isPrintable_of_mem_objectLines (valid : ∀ es ∈ entries, IsEntry es) {l : Line}
    (mem : l ∈ objectLines entries) : IsPrintable l := by
  obtain ⟨es, inside, rfl⟩ := List.mem_map.mp mem
  exact Data.Json.isPrintable_write_map (valid es inside).simple

private theorem return_not_mem_terminated {ls : List Line} (printable : ∀ l ∈ ls, IsPrintable l) :
    '\r' ∉ terminated ls := by
  intro mem
  obtain ⟨l, inside, mem⟩ := List.mem_flatMap.mp mem
  rcases List.mem_append.mp mem with mem | mem
  · exact absurd (printable l inside '\r' mem).1 (by decide)
  · exact absurd mem (by decide)

theorem feed_not_mem_of_isPrintable {l : Line} (printable : IsPrintable l) : '\n' ∉ l :=
  fun mem => absurd (printable '\n' mem).1 (by decide)

private theorem lines_logText (valid : ∀ es ∈ entries, IsEntry es) :
    Text.lines (logText entries) = objectLines entries ++ [[]] :=
  Text.lines_terminated fun _ mem =>
    feed_not_mem_of_isPrintable (isPrintable_of_mem_objectLines valid mem)

theorem trim_write_map (es : List (Wording × Value)) :
    Text.trim (Data.Json.write (.map es)) = Data.Json.write (.map es) := by
  obtain ⟨t, written⟩ := Data.Json.exists_write_map es
  have opening : Text.isBlank '\x7b' = false := by decide
  have closing : Text.isBlank '\x7d' = false := by decide
  rw [written]
  simp [Text.trim, Text.trimStart, Text.trimEnd, opening, closing]

private theorem entryTexts_logText (valid : ∀ es ∈ entries, IsEntry es) :
    entryTexts (Text.lines (logText entries)) = objectLines entries := by
  have trimmed : (objectLines entries).map Text.trim = objectLines entries := by
    rw [objectLines, List.map_map]
    exact List.map_congr_left fun es _ => trim_write_map es
  have filled : ∀ t ∈ objectLines entries, (!t.isEmpty) = true := by
    intro t mem
    obtain ⟨es, -, rfl⟩ := List.mem_map.mp mem
    obtain ⟨t, written⟩ := Data.Json.exists_write_map es
    rw [written]
    rfl
  rw [entryTexts, lines_logText valid, List.map_append, trimmed, List.filter_append,
    List.filter_eq_self.mpr filled]
  exact List.append_nil _

theorem map_read_objectLines (valid : ∀ es ∈ entries, IsEntry es) :
    (objectLines entries).map Data.Json.read = entries.map fun es => .ok (.map es) := by
  rw [objectLines, List.map_map]
  refine List.map_congr_left fun es mem => ?_
  rw [Function.comp_apply]
  exact Data.Json.read_write_map (valid es mem).simple (valid es mem).distinct

private theorem readEntries_of_map_read {texts : List Text} {values : List Value}
    (read : texts.map Data.Json.read = values.map .ok) : readEntries texts = .ok values := by
  induction texts generalizing values with
  | nil =>
    obtain rfl : values = [] := by simpa using read.symm
    rfl
  | cons t texts ih =>
    obtain ⟨v, values, rfl⟩ : ∃ v vs, values = v :: vs := by
      cases values with
      | nil => simp at read
      | cons v values => exact ⟨v, values, rfl⟩
    rw [List.map_cons, List.map_cons] at read
    obtain ⟨first, rest⟩ := List.cons.inj read
    rw [readEntries, first, ih rest]
    rfl

private theorem readEntries_objectLines (valid : ∀ es ∈ entries, IsEntry es) :
    readEntries (objectLines entries) = .ok (entries.map .map) := by
  refine readEntries_of_map_read ?_
  rw [map_read_objectLines valid, List.map_map]
  rfl

/-! Counting. -/

private theorem exists_countable (valid : IsEntry es) : ∃ a, countable (errorKind es) = .ok a := by
  have kind : ∃ a, member "error_kind" es = .atom a := by
    unfold member
    cases found : es.lookup (.text "error_kind") with
    | none => exact ⟨.null, rfl⟩
    | some v =>
      obtain ⟨before, after, split, -⟩ := List.lookup_eq_some_iff.mp found
      have mem : (.text "error_kind", v) ∈ es := split ▸ by simp
      obtain ⟨_, simple⟩ := valid.simple _ mem
      cases simple with
      | text t => exact ⟨.text t, rfl⟩
      | bool b => exact ⟨.bool b, rfl⟩
  obtain ⟨a, kind⟩ := kind
  unfold errorKind
  rw [kind]
  simp only
  split
  · exact ⟨a, rfl⟩
  · exact ⟨.text "other", rfl⟩

private theorem exists_mapM_countable {kinds : List Value} (each : ∀ v ∈ kinds, ∃ a, countable v = .ok a) :
    ∃ atoms, kinds.mapM countable = .ok atoms ∧ atoms.length = kinds.length := by
  induction kinds with
  | nil => exact ⟨[], rfl, rfl⟩
  | cons v kinds ih =>
    obtain ⟨⟨a, first⟩, rest⟩ := List.forall_mem_cons.mp each
    obtain ⟨atoms, others, length⟩ := ih rest
    refine ⟨a :: atoms, ?_, by simp [length]⟩
    rw [List.mapM_cons, first, others]
    rfl

/-- The number of what has been counted, over all kinds. -/
def counted : List (Atom × Nat) → Nat
  | [] => 0
  | t :: ts => t.2 + counted ts

private theorem counted_tallyOne (kind : Atom) (ts : List (Atom × Nat)) :
    counted (tallyOne kind ts) = counted ts + 1 := by
  induction ts with
  | nil => rfl
  | cons t ts ih =>
    unfold tallyOne
    split
    · simp only [counted]
      omega
    · simp only [counted, ih]
      omega

private theorem counted_tally (kinds : List Atom) : counted (tally kinds) = kinds.length := by
  have onto (ts : List (Atom × Nat)) :
      counted (kinds.foldl (fun ts k => tallyOne k ts) ts) = counted ts + kinds.length := by
    induction kinds generalizing ts with
    | nil => rfl
    | cons k kinds ih =>
      rw [List.foldl_cons, ih, counted_tallyOne, List.length_cons]
      omega
  have all := onto []
  rwa [show counted [] = 0 from rfl, Nat.zero_add] at all

private theorem counted_eq_of_perm {ts us : List (Atom × Nat)} (perm : ts.Perm us) :
    counted ts = counted us := by
  induction perm with
  | nil => rfl
  | cons t _ ih => rw [counted, counted, ih]
  | swap t u ts =>
    simp only [counted]
    omega
  | trans _ _ first second => exact first.trans second

private theorem counted_ranked (ts : List (Atom × Nat)) : counted (ranked ts) = counted ts :=
  counted_eq_of_perm (List.mergeSort_perm ts _)

theorem exists_countEntries (valid : ∀ es ∈ entries, IsEntry es) :
    ∃ kinds, countEntries entries = .ok {
      total := entries.length
      successRate := rate (entries.countP (memberIn "status" ["success"])) entries.length
      patchRate := rate (entries.countP (memberIn "mode" ["udiff"])) entries.length
      omissionRate := rate (entries.countP fun es => (member "has_omission" es).isTrue) entries.length
      rejectionRate := rate (entries.countP (memberIn "status" ["rejected", "feedback"])) entries.length
      errorKinds := kinds } ∧ counted kinds = entries.countP (memberIn "status" ["error"]) := by
  have each : ∀ v ∈ (entries.filter (memberIn "status" ["error"])).map errorKind,
      ∃ a, countable v = .ok a := by
    intro v mem
    obtain ⟨es, inside, rfl⟩ := List.mem_map.mp mem
    exact exists_countable (valid es (List.mem_filter.mp inside).1)
  obtain ⟨atoms, counts, length⟩ := exists_mapM_countable each
  refine ⟨ranked (tally atoms), ?_, ?_⟩
  · rw [countEntries, counts]
    rfl
  · rw [counted_ranked, counted_tally, length, List.length_map, List.countP_eq_length_filter]

/-- The last of some entries, as many as are asked for or as there are. -/
def recent (last : Int) {α : Type} (xs : List α) : List α := xs.drop (xs.length - last.toNat)

theorem length_recent (last : Int) {α : Type} (xs : List α) :
    (recent last xs).length = min xs.length last.toNat := by
  rw [recent, List.length_drop]
  omega

private theorem mapM_members (entries : List (List (Wording × Value))) :
    (entries.map Value.map).mapM members = .ok entries := by
  induction entries with
  | nil => rfl
  | cons es entries ih =>
    rw [List.map_cons, List.mapM_cons, ih]
    rfl

theorem statisticsOf_map {last : Int} (positive : 1 ≤ last) (entries : List (List (Wording × Value))) :
    statisticsOf last (entries.map .map) = countEntries (recent last entries) := by
  have window : window last (entries.map .map) = (recent last entries).map .map := by
    rw [window, if_pos (by omega), recent, List.length_map, List.map_drop]
  rw [statisticsOf, window, mapM_members]
  rfl

namespace HasLog

variable {base : Place} {root : Text} {d : Tree}

theorem journalText_logText (holds : HasLog base d (Text.Utf8.encode (logText entries)))
    (valid : ∀ es ∈ entries, IsEntry es) (spells : Spells base root)
    (small : Text.Utf8.size (journalPath root) < Disk.pathSizeLimit) :
    journalText d root = (logText entries, none) := by
  have noReturn : '\r' ∉ logText entries :=
    return_not_mem_terminated fun _ mem => isPrintable_of_mem_objectLines valid mem
  rw [holds.journalText_eq spells small, Text.withLineFeeds_of_return_not_mem noReturn]

theorem statistics_eq (holds : HasLog base d (Text.Utf8.encode (logText entries)))
    (valid : ∀ es ∈ entries, IsEntry es) (spells : Spells base root)
    (small : Text.Utf8.size (journalPath root) < Disk.pathSizeLimit) {last : Int}
    (positive : 1 ≤ last) : statistics d root last = countEntries (recent last entries) := by
  have text := holds.journalText_logText valid spells small
  rw [statistics, Metrics.entries, text]
  simp only [entryTexts_logText valid, readEntries_objectLines valid]
  exact statisticsOf_map positive entries

end HasLog

end Redline.Metrics
