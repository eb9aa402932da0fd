import Redline.Proofs.Data.Numerals
import Redline.Proofs.Metrics.Ranking
import Redline.Proofs.Metrics.Statistics
import Redline.Proofs.Text.Ends

set_option autoImplicit false
set_option relaxedAutoImplicit false

/-!
What the statistics say of a write log that is damaged. Blank lines and lines that are not JSON are passed
over, whatever ends a line, so the statistics are the counts over the last of the objects that are left, and
the same as without the other lines. One more object at the end counts once.
-/

namespace Redline.Metrics

open Data (Atom Value)
open Data.Json (HasLongRun)
open Text (Ended endedLines)

/-- The object that a line of a write log holds. -/
def objectIn? (l : Text) : Option (List (Wording × Value)) :=
  match Data.Json.read (Text.trim l) with
  | .ok (.map es) => some es
  | _ => none

def objects (t : Text) : List (List (Wording × Value)) := (endedLines t).filterMap objectIn?

/-- A write log without the lines that hold no object. -/
def cleaned (t : Text) : Text := ((endedLines t).filter fun l => (objectIn? l).isSome).flatten

/-- Whether an object's error kind is missing or a wording. -/
def IsRecord (es : List (Wording × Value)) : Prop :=
  es.lookup (.text "error_kind") = none ∨
    ∃ w, es.lookup (.text "error_kind") = some (.atom (.ofWording w))

/-- Whether a line is blank, is not JSON, or is an object whose error kind is missing or a wording. -/
structure IsLogLine (l : Text) : Prop where
  short : ¬HasLongRun l
  holds : Text.trim l = [] ∨ (∀ v, Data.Json.read (Text.trim l) ≠ .ok v) ∨
    ∃ es, Data.Json.read (Text.trim l) = .ok (.map es) ∧ IsRecord es

def IsLog (t : Text) : Prop := ∀ l ∈ endedLines t, IsLogLine l

/-- The kind under which an object's error is counted. -/
def kindOf (es : List (Wording × Value)) : Wording :=
  match es.lookup (.text "error_kind") with
  | some (.text (c :: cs)) => .text (c :: cs)
  | some (.atom (.broken (n :: ns))) => .broken (n :: ns)
  | _ => .text "other"

def isError (es : List (Wording × Value)) : Bool := memberIn "status" ["error"] es

def kindsOf (window : List (List (Wording × Value))) : List Wording := (window.filter isError).map kindOf

/-- Whether statistics are the counts over a window of entries. -/
structure Summarizes (s : Statistics) (window : List (List (Wording × Value))) : Prop where
  total : s.total = window.length
  successes : s.successRate = rate (window.countP (memberIn "status" ["success"])) window.length
  patches : s.patchRate = rate (window.countP (memberIn "mode" ["udiff"])) window.length
  omissions : s.omissionRate =
    rate (window.countP fun es => (member "has_omission" es).isTrue) window.length
  rejections : s.rejectionRate =
    rate (window.countP (memberIn "status" ["rejected", "feedback"])) window.length
  kinds : ∃ ranking, s.errorKinds = listed ranking ∧ Ranks (kindsOf window) ranking

variable {t l : Text} {es : List (Wording × Value)} {window : List (List (Wording × Value))}

/-! Counting a window. -/

private theorem recent_of_le {α : Type} {last : Int} {xs : List α} (room : xs.length ≤ last) :
    recent last xs = xs := by
  have none : xs.length - last.toNat = 0 := by omega
  rw [recent, none, List.drop_zero]

private theorem errorKind_of_isRecord (valid : IsRecord es) :
    errorKind es = .atom (.ofWording (kindOf es)) := by
  rcases valid with none | ⟨w, some⟩
  · have absent : member "error_kind" es = .null := by rw [member, none]; rfl
    rw [kindOf, none, errorKind, absent]
    rfl
  · have present : member "error_kind" es = .atom (.ofWording w) := by rw [member, some]; rfl
    rw [kindOf, some, errorKind, present]
    rcases w with (_ | _) | (_ | _) <;> rfl

private theorem mapM_countable_ofWording (ks : List Wording) :
    (ks.map fun k => Value.atom (.ofWording k)).mapM countable = .ok (ks.map Atom.ofWording) := by
  induction ks with
  | nil => rfl
  | cons k ks ih =>
    rw [List.map_cons, List.mapM_cons, ih]
    rfl

private theorem exists_summarizes (valid : ∀ es ∈ window, IsRecord es) :
    ∃ s, countEntries window = .ok s ∧ Summarizes s window := by
  have texts : (window.filter (memberIn "status" ["error"])).map errorKind =
      (kindsOf window).map fun k => .atom (.ofWording k) := by
    rw [kindsOf, List.map_map]
    exact List.map_congr_left fun es mem => errorKind_of_isRecord (valid es (List.mem_filter.mp mem).1)
  obtain ⟨ranking, sorted, ranks⟩ := exists_ranks (kindsOf window)
  rw [countEntries, texts, mapM_countable_ofWording]
  exact ⟨_, rfl, rfl, rfl, rfl, rfl, rfl, ranking, sorted, ranks⟩

private theorem Summarizes.countOf_eq {s : Statistics} (sums : Summarizes s window) (k : Wording) :
    countOf s.errorKinds k = (kindsOf window).count k := by
  obtain ⟨ranking, same, ranks⟩ := sums.kinds
  rw [same, ranks.countOf_listed]

private theorem count_kindsOf_concat (window : List (List (Wording × Value))) (es : List (Wording × Value))
    (k : Wording) : (kindsOf (window ++ [es])).count k =
      (kindsOf window).count k + if isError es ∧ k = kindOf es then 1 else 0 := by
  have last : (kindsOf [es]).count k = if isError es ∧ k = kindOf es then 1 else 0 := by
    cases error : isError es with
    | false => simp [kindsOf, error]
    | true =>
      by_cases same : k = kindOf es
      · simp [kindsOf, error, same]
      · simp [kindsOf, error, same, Ne.symm same]
  rw [← last, ← List.count_append, kindsOf, kindsOf, kindsOf, List.filter_append, List.map_append]

/-! Reading the lines. -/

private theorem entryTexts_lines (t : Text) :
    entryTexts (Text.lines (Text.withLineFeeds t)) = entryTexts (endedLines t) := by
  obtain ⟨closing, read, empty⟩ := Text.exists_lines_withLineFeeds t
  have trimmed : ((endedLines t).map Text.body).map Text.trim = (endedLines t).map Text.trim := by
    rw [List.map_map]
    exact List.map_congr_left fun l mem => Text.trim_body_of_mem mem
  have none : (closing.map Text.trim).filter (fun t => !t.isEmpty) = [] := by
    refine List.filter_eq_nil_iff.mpr fun l mem => ?_
    obtain ⟨l, inside, rfl⟩ := List.mem_map.mp mem
    rw [empty l inside]
    decide
  rw [entryTexts, entryTexts, read, List.map_append, trimmed, List.filter_append, none,
    List.append_nil]

private theorem objectIn?_eq_some_iff :
    objectIn? l = some es ↔ Data.Json.read (Text.trim l) = .ok (.map es) := by
  unfold objectIn?
  split
  · rename_i found
    simp [found]
  · rename_i other
    constructor
    · intro some
      cases some
    · intro found
      exact absurd found (other es)

private theorem objectIn?_of_malformed (bad : Data.Json.read (Text.trim l) = .error .malformed) :
    objectIn? l = none := by
  rw [objectIn?, bad]

private theorem IsLogLine.read_cases (line : IsLogLine l) :
    Data.Json.read (Text.trim l) = .error .malformed ∨
      ∃ es, Data.Json.read (Text.trim l) = .ok (.map es) ∧ IsRecord es := by
  rcases line.holds with blank | other | object
  · rw [blank]
    exact .inl rfl
  · left
    cases read : Data.Json.read (Text.trim l) with
    | ok v => exact absurd read (other v)
    | error e =>
      cases e with
      | malformed => rfl
      | numeral e =>
        have long := (Data.Json.hasLongRun_of_read read).mono (Text.trim_infix l)
        exact absurd long line.short
  · exact .inr object

private theorem isLogLine_of_objectIn? (short : ¬HasLongRun l) (holds : objectIn? l = some es)
    (valid : IsRecord es) : IsLogLine l :=
  ⟨short, .inr (.inr ⟨es, objectIn?_eq_some_iff.mp holds, valid⟩)⟩

private theorem entryTexts_cons (l : Text) (ls : List Text) : entryTexts (l :: ls) =
    if Text.trim l = [] then entryTexts ls else Text.trim l :: entryTexts ls := by
  by_cases blank : Text.trim l = []
  · simp [entryTexts, blank]
  · simp [entryTexts, blank]

private theorem readEntries_entryTexts {ls : List Text} (valid : ∀ l ∈ ls, IsLogLine l) :
    readEntries (entryTexts ls) = .ok ((ls.filterMap objectIn?).map .map) := by
  induction ls with
  | nil => rfl
  | cons l ls ih =>
    obtain ⟨line, others⟩ := List.forall_mem_cons.mp valid
    have rest := ih others
    rw [entryTexts_cons]
    rcases line.read_cases with bad | ⟨es, found, -⟩
    · rw [List.filterMap_cons_none (objectIn?_of_malformed bad)]
      split
      · exact rest
      · rw [readEntries, bad]
        exact rest
    · have filled : Text.trim l ≠ [] := by
        intro blank
        rw [blank] at found
        cases found
      rw [if_neg filled, List.filterMap_cons_some (objectIn?_eq_some_iff.mpr found), readEntries, found,
        rest]
      rfl

private theorem isRecord_of_mem_objects (log : IsLog t) (mem : es ∈ objects t) : IsRecord es := by
  obtain ⟨l, inside, found⟩ := List.mem_filterMap.mp mem
  rcases (log l inside).read_cases with bad | ⟨es', read, valid⟩
  · rw [objectIn?_of_malformed bad] at found
    cases found
  · rw [objectIn?_eq_some_iff.mpr read] at found
    exact Option.some.inj found ▸ valid

private theorem exists_statistics {d : Disk.Tree} {root : Text} {last : Int}
    (reads : d.readFile (journalPath root) = .ok (Text.Utf8.encode t)) (log : IsLog t)
    (positive : 1 ≤ last) :
    ∃ s, statistics d root last = .ok s ∧ countEntries (recent last (objects t)) = .ok s ∧
      Summarizes s (recent last (objects t)) := by
  have valid : ∀ es ∈ recent last (objects t), IsRecord es := fun es mem =>
    isRecord_of_mem_objects log (List.mem_of_mem_drop mem)
  obtain ⟨s, counts, sums⟩ := exists_summarizes valid
  refine ⟨s, ?_, counts, sums⟩
  rw [statistics, entries, journalText_of_readFile reads]
  simp only [entryTexts_lines, readEntries_entryTexts log]
  rw [← counts]
  exact statisticsOf_map positive (objects t)

private theorem objectIn?_write_map (valid : IsEntry es) {ending : Text}
    (blank : ∀ c ∈ ending, Text.isBlank c = true) :
    objectIn? (Data.Json.write (.map es) ++ ending) = some es := by
  rw [objectIn?_eq_some_iff, Text.trim_append_blanks _ blank, trim_write_map]
  exact Data.Json.read_write_map valid.simple valid.distinct

/-! Cleaning and appending. -/

private theorem endedLines_cleaned (t : Text) :
    endedLines (cleaned t) = (endedLines t).filter fun l => (objectIn? l).isSome :=
  Text.endedLines_flatten_filter (by decide) t

private theorem objects_cleaned (t : Text) : objects (cleaned t) = objects t := by
  rw [objects, endedLines_cleaned, List.filterMap_filter, objects]
  refine List.filterMap_congr fun l _ => ?_
  cases objectIn? l <;> rfl

private theorem isLog_cleaned (log : IsLog t) : IsLog (cleaned t) := by
  intro l mem
  rw [endedLines_cleaned] at mem
  exact log l (List.mem_filter.mp mem).1

private theorem endedLines_concat (ended : t = [] ∨ Ended t) (single : endedLines l = [l])
    (holds : objectIn? l = some es) : endedLines (t ++ l) = endedLines t ++ [l] := by
  -- A line feed would join a carriage return before it, but as a line it holds no object.
  have apart : l.head? ≠ some '\n' := by
    intro feed
    obtain rfl := Text.eq_feed_of_head? single feed
    cases holds
  rw [Text.endedLines_append ended apart, single]

private theorem exists_statistics_concat {d : Disk.Tree} {root : Text} {last : Int} (log : IsLog t)
    (ended : t = [] ∨ Ended t) (single : endedLines l = [l]) (short : ¬HasLongRun l)
    (holds : objectIn? l = some es) (valid : IsRecord es) (room : (objects t).length < last)
    (reads : d.readFile (journalPath root) = .ok (Text.Utf8.encode (t ++ l))) :
    ∃ s, statistics d root last = .ok s ∧ Summarizes s (objects t ++ [es]) := by
  have lines := endedLines_concat ended single holds
  have log' : IsLog (t ++ l) := by
    intro m mem
    rw [lines] at mem
    rcases List.mem_append.mp mem with mem | mem
    · exact log m mem
    · obtain rfl := List.mem_singleton.mp mem
      exact isLogLine_of_objectIn? short holds valid
  have more : objects (t ++ l) = objects t ++ [es] := by
    rw [objects, lines, List.filterMap_append, List.filterMap_cons_some holds]
    rfl
  have positive : 1 ≤ last := by omega
  obtain ⟨s, result, -, sums⟩ := exists_statistics reads log' positive
  have all : ((objects t ++ [es]).length : Int) ≤ last := by
    rw [List.length_append, List.length_singleton]
    omega
  rw [more, recent_of_le all] at sums
  exact ⟨s, result, sums⟩

/--
Whatever the damage, there are statistics, and they are the same as without the lines that hold no object.
They are the counts over the last of the objects, with a ranking of their error kinds. One more object, on
a line of its own and with room for it, raises the total by one and the count of its error kind, if it
records an error, by one, and no other.
-/
theorem statistics_of_damaged_log {d : Disk.Tree} {root t : Text} {last : Int}
    (reads : d.readFile (journalPath root) = .ok (Text.Utf8.encode t)) (log : IsLog t)
    (positive : 1 ≤ last) :
    ∃ s, statistics d root last = .ok s ∧
      s.total = min last.toNat (objects t).length ∧
      Summarizes s ((objects t).drop ((objects t).length - s.total)) ∧
      (∀ (d' : Disk.Tree) (root' : Text),
        d'.readFile (journalPath root') = .ok (Text.Utf8.encode (cleaned t)) →
        statistics d' root' last = .ok s) ∧
      ∀ (d' : Disk.Tree) (root' l : Text) (es : List (Wording × Value)),
        endedLines l = [l] → ¬HasLongRun l → objectIn? l = some es → IsRecord es →
        t = [] ∨ Ended t → (objects t).length < last →
        d'.readFile (journalPath root') = .ok (Text.Utf8.encode (t ++ l)) →
        ∃ s', statistics d' root' last = .ok s' ∧ Summarizes s' (objects t ++ [es]) ∧
          s'.total = s.total + 1 ∧
          ∀ k, countOf s'.errorKinds k =
            countOf s.errorKinds k + if isError es ∧ k = kindOf es then 1 else 0 := by
  obtain ⟨s, result, counts, sums⟩ := exists_statistics reads log positive
  have total : s.total = min last.toNat (objects t).length := by
    rw [sums.total, length_recent, Nat.min_comm]
  have window : recent last (objects t) = (objects t).drop ((objects t).length - s.total) := by
    rw [recent, total]
    congr 1
    omega
  refine ⟨s, result, total, window ▸ sums, ?_, ?_⟩
  · intro d' root' reads'
    obtain ⟨s', result', counts', -⟩ := exists_statistics reads' (isLog_cleaned log) positive
    rw [objects_cleaned, counts] at counts'
    obtain rfl := Except.ok.inj counts'
    exact result'
  · intro d' root' l es single short holds valid ended room reads'
    obtain ⟨s', result', sums'⟩ :=
      exists_statistics_concat log ended single short holds valid room reads'
    have all : recent last (objects t) = objects t := recent_of_le (by omega)
    rw [all] at sums
    refine ⟨s', result', sums', ?_, ?_⟩
    · rw [sums'.total, sums.total, List.length_append, List.length_singleton]
    · intro k
      rw [sums'.countOf_eq, sums.countOf_eq, count_kindsOf_concat]

def logDisk (t : Text) : Disk.Tree := ⟨[], [(["p".toList], .directory),
  (folderPlace ["p".toList], .directory),
  (journalPlace ["p".toList], .file (Text.Utf8.encode t))]⟩

def failure (kind : Text) : List (Wording × Value) :=
  [(.text "status", .text "error"), (.text "error_kind", .text kind)]

def failureLine (kind ending : Text) : Text := Data.Json.write (.map (failure kind)) ++ ending

/-- A write log with a line that is not JSON, a blank one and lines that end in different ways. -/
def damagedLog : Text :=
  failureLine "patch" "\r\n" ++ "né \x7b\r" ++ "  \n" ++ failureLine "" "\n" ++
    failureLine "patch" "\r"

private theorem endedLines_damagedLog : endedLines damagedLog =
    [failureLine "patch" "\r\n", "né \x7b\r", "  \n", failureLine "" "\n",
      failureLine "patch" "\r"] := by
  decide +kernel

private theorem isRecord_failure (kind : Text) : IsRecord (failure kind) := .inr ⟨kind, rfl⟩

private theorem objectIn?_failureLine (kind : Text) {ending : Text}
    (blank : ending.all Text.isBlank = true) :
    objectIn? (failureLine kind ending) = some (failure kind) := by
  refine objectIn?_write_map ⟨?_, ?_⟩ (List.all_eq_true.mp blank)
  · exact List.forall_mem_cons.mpr
      ⟨⟨_, .text _⟩, List.forall_mem_cons.mpr ⟨⟨_, .text _⟩, by simp⟩⟩
  · have keys : (failure kind).map Prod.fst = [.text "status", .text "error_kind"] := rfl
    rw [keys]
    decide

private theorem not_hasLongRun_of_length (few : l.length ≤ Number.maxDigits) : ¬HasLongRun l := by
  rintro ⟨ds, inside, -, many⟩
  have fits := inside.length_le
  omega

private theorem isLog_damagedLog : IsLog damagedLog := by
  have few : ∀ l ∈ endedLines damagedLog, l.length ≤ Number.maxDigits := by decide +kernel
  intro l mem
  have short : ¬HasLongRun l := not_hasLongRun_of_length (few l mem)
  rw [endedLines_damagedLog] at mem
  simp only [List.mem_cons, List.not_mem_nil, or_false] at mem
  rcases mem with rfl | rfl | rfl | rfl | rfl
  · exact isLogLine_of_objectIn? short (objectIn?_failureLine "patch" (by decide)) (isRecord_failure _)
  · have bad : Data.Json.read (Text.trim "né \x7b\r") = .error .malformed := rfl
    refine ⟨short, .inr (.inl fun v read => ?_)⟩
    rw [bad] at read
    cases read
  · exact ⟨short, .inl (by decide)⟩
  · exact isLogLine_of_objectIn? short (objectIn?_failureLine "" (by decide)) (isRecord_failure _)
  · exact isLogLine_of_objectIn? short (objectIn?_failureLine "patch" (by decide)) (isRecord_failure _)

private theorem objects_damagedLog :
    objects damagedLog = [failure "patch", failure "", failure "patch"] := by
  have bad : objectIn? "né \x7b\r" = none := rfl
  have blank : objectIn? "  \n" = none := rfl
  rw [objects, endedLines_damagedLog,
    List.filterMap_cons_some (objectIn?_failureLine "patch" (by decide)),
    List.filterMap_cons_none bad, List.filterMap_cons_none blank,
    List.filterMap_cons_some (objectIn?_failureLine "" (by decide)),
    List.filterMap_cons_some (objectIn?_failureLine "patch" (by decide))]
  rfl

/-- Two failures of one kind, one without a kind and, when it is added, one of another kind. -/
theorem statistics_of_damaged_log_mixed : ∃ s s' : Statistics,
    statistics (logDisk damagedLog) "/p" 4 = .ok s ∧
      statistics (logDisk (cleaned damagedLog)) "/p" 4 = .ok s ∧
      s.total = 3 ∧ countOf s.errorKinds "patch" = 2 ∧ countOf s.errorKinds "other" = 1 ∧
      statistics (logDisk (damagedLog ++ failureLine "é" [])) "/p" 4 = .ok s' ∧
      s'.total = 4 ∧ countOf s'.errorKinds "é" = countOf s.errorKinds "é" + 1 := by
  have reads (t : Text) :
      (logDisk t).readFile (journalPath "/p") = .ok (Text.Utf8.encode t) := rfl
  have holds : objectIn? (failureLine "é" []) = some (failure "é") :=
    objectIn?_failureLine "é" (by decide)
  have single : endedLines (failureLine "é" []) = [failureLine "é" []] := by decide +kernel
  have short : ¬HasLongRun (failureLine "é" []) := not_hasLongRun_of_length (by decide +kernel)
  have ended : Ended damagedLog := ⟨'\r', by decide +kernel, rfl⟩
  have room : ((objects damagedLog).length : Int) < 4 := by
    rw [objects_damagedLog]
    decide
  obtain ⟨s, result, total, sums, clean, grows⟩ :=
    statistics_of_damaged_log (reads damagedLog) isLog_damagedLog (show (1 : Int) ≤ 4 by decide)
  obtain ⟨s', result', -, total', counts⟩ := grows (logDisk (damagedLog ++ failureLine "é" [])) "/p" _ _
    single short holds (isRecord_failure "é") (.inr ended) room (reads _)
  rw [objects_damagedLog] at total sums
  have three : s.total = 3 := total
  rw [three] at sums
  refine ⟨s, s', result, clean _ "/p" (reads _), three, ?_, ?_, result', by rw [total', three], ?_⟩
  · rw [sums.countOf_eq]
    decide +kernel
  · rw [sums.countOf_eq]
    decide +kernel
  · rw [counts, if_pos]
    decide +kernel

/-- A failure whose kind is half of a pair of units. -/
def brokenLine (digit : Char) : Text :=
  "\x7b\"status\": \"error\", \"error_kind\": \"\\ud80" ++ digit :: "\"\x7d\n"

example : kindsOf (objects (brokenLine '0' ++ brokenLine '1')) =
    [.broken [0xD800], .broken [0xD801]] := by
  decide +kernel

end Redline.Metrics
