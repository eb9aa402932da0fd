import Redline.Proofs.Omission.Findings

set_option autoImplicit false
set_option relaxedAutoImplicit false

/-!
The passes of a scan. Each of the three passes puts one question to every line of the candidate, in
turn. So its findings on two texts, one below the other, are those on the first and then those on the
second, as many lines further down. How comments and suspicious marks are told does not matter here: the
patterns of a rule table are one way, and the laws hold for any other.
-/

namespace Redline.Omission

/-- What a scan asks of lines: any way to tell comments and suspicious marks, and the phrases. -/
structure Criteria where
  isComment : Line → Bool
  phrases : List Text
  isSuspicious : Line → Bool

/-- The criteria of a rule table, whose patterns tell comments and suspicious marks. -/
def Rules.criteria (rules : Rules) : Criteria where
  isComment := isComment rules.comments
  phrases := rules.phrases
  isSuspicious l := rules.suspicious.any fun p => occursIn p l

inductive Pass where
  | comments
  | ellipses
  | suspicious
  deriving Repr, DecidableEq

def Criteria.keyword? (c : Criteria) (olds : List Line) : Pass → Line → Option Text
  | .comments, l =>
    if c.isComment l && !(olds.map normalized).elem (normalized l) then
      c.phrases.find? fun p => Text.includes (Text.lower p) (normalized l)
    else none
  | .ellipses, l =>
    if olds.any fun l => Text.includes ellipsis l then none else ellipsisKeyword? l
  | .suspicious, l => if c.isSuspicious l then some suspiciousKeyword else none

/-- The findings of a pass over the lines of a candidate. -/
def Criteria.findings (c : Criteria) (olds news : List Line) (p : Pass) : List Finding :=
  pass (c.keyword? olds p) 1 news

def Criteria.scan (c : Criteria) (old candidate : Text) : Report where
  findings := c.findings old.lines candidate.lines .comments ++
    c.findings old.lines candidate.lines .ellipses ++
    c.findings old.lines candidate.lines .suspicious

/-- The finding on the same line, when as many lines are put before it. -/
def Finding.shift (m : Nat) (f : Finding) : Finding := { f with lineNumber := f.lineNumber + m }

variable {keyword? fewer? : Line → Option Text} {n : Nat} {ls : List Line} {f : Finding}

/-! What a pass makes of its lines, whatever it asks. -/

private theorem pass_append (keyword? : Line → Option Text) (n : Nat) (ls ms : List Line) :
    pass keyword? n (ls ++ ms) = pass keyword? n ls ++ pass keyword? (n + ls.length) ms := by
  induction ls generalizing n with
  | nil => rfl
  | cons l ls ih =>
    have number : n + (l :: ls).length = n + 1 + ls.length := by
      rw [List.length_cons]
      omega
    rw [List.cons_append, pass, pass, ih, number]
    cases keyword? l <;> rfl

private theorem pass_add (keyword? : Line → Option Text) (n m : Nat) (ls : List Line) :
    pass keyword? (n + m) ls = (pass keyword? n ls).map (Finding.shift m) := by
  induction ls generalizing n with
  | nil => rfl
  | cons l ls ih =>
    rw [pass, pass, Nat.add_right_comm n m 1, ih]
    cases keyword? l <;> rfl

private theorem le_lineNumber_of_mem_pass (mem : f ∈ pass keyword? n ls) : n ≤ f.lineNumber := by
  obtain ⟨i, -, number, -⟩ := mem_pass_iff.mp mem
  omega

private theorem pairwise_lineNumber_pass (keyword? : Line → Option Text) (n : Nat) (ls : List Line) :
    ((pass keyword? n ls).map Finding.lineNumber).Pairwise (· < ·) := by
  induction ls generalizing n with
  | nil => exact .nil
  | cons l ls ih =>
    rw [pass]
    cases keyword? l with
    | none => exact ih (n + 1)
    | some k =>
      -- The lines below have higher numbers, whichever of them are reported.
      refine List.pairwise_cons.mpr ⟨?_, ih (n + 1)⟩
      intro later mem
      obtain ⟨f, below, rfl⟩ := List.mem_map.mp mem
      exact le_lineNumber_of_mem_pass below

theorem pass_sublist (fewer : ∀ l k, fewer? l = some k → keyword? l = some k) (n : Nat)
    (ls : List Line) : (pass fewer? n ls).Sublist (pass keyword? n ls) := by
  induction ls generalizing n with
  | nil => exact .slnil
  | cons l ls ih =>
    rw [pass, pass]
    cases found : fewer? l with
    | some k =>
      rw [fewer l k found]
      exact (ih (n + 1)).cons_cons _
    | none =>
      cases keyword? l with
      | none => exact ih (n + 1)
      | some k => exact (ih (n + 1)).cons _

theorem pass_eq_nil (none : ∀ l ∈ ls, keyword? l = none) (n : Nat) : pass keyword? n ls = [] := by
  refine List.eq_nil_iff_forall_not_mem.mpr fun f mem => ?_
  obtain ⟨i, here, -, found⟩ := mem_pass_iff.mp mem
  rw [none f.line (List.mem_of_getElem? here)] at found
  simp at found

/-! The scan by a rule table. -/

private theorem commentPass_eq_findings (rules : Rules) (olds news : List Line) :
    commentPass rules olds news = rules.criteria.findings olds news .comments := rfl

private theorem suspiciousPass_eq_findings (rules : Rules) (olds news : List Line) :
    suspiciousPass rules news = rules.criteria.findings olds news .suspicious := rfl

private theorem ellipsisPass_eq_findings (c : Criteria) (olds news : List Line) :
    ellipsisPass olds news = c.findings olds news .ellipses := by
  unfold ellipsisPass Criteria.findings
  split
  · -- A pass that is switched off finds what it would find if it asked nothing.
    rename_i has
    exact (pass_eq_nil (fun l _ => if_pos has) 1).symm
  · rename_i none
    have asked : c.keyword? olds .ellipses = ellipsisKeyword? := funext fun l => if_neg none
    rw [asked]

theorem detect_eq_scan (rules : Rules) (old candidate : Text) :
    detect rules old candidate = rules.criteria.scan old candidate := by
  rw [detect, Criteria.scan, commentPass_eq_findings, ellipsisPass_eq_findings rules.criteria,
    suspiciousPass_eq_findings rules old.lines]

/-- Whether findings go down the lines of a candidate: one a line at most, and each as it stands. -/
structure GoesDown (news : List Line) (fs : List Finding) : Prop where
  ascending : (fs.map Finding.lineNumber).Pairwise (· < ·)
  verbatim : ∀ f ∈ fs, ∃ i, f.lineNumber = i + 1 ∧ news[i]? = some f.line

private theorem goesDown_findings (c : Criteria) (olds news : List Line) (p : Pass) :
    GoesDown news (c.findings olds news p) where
  ascending := pairwise_lineNumber_pass _ 1 news
  verbatim f mem := by
    obtain ⟨i, here, number, -⟩ := mem_pass_iff.mp mem
    exact ⟨i, number.trans (Nat.add_comm 1 i), here⟩

private theorem findings_append (c : Criteria) (olds firsts seconds : List Line) (p : Pass) :
    c.findings olds (firsts ++ seconds) p = c.findings olds firsts p ++
      (c.findings olds seconds p).map (Finding.shift firsts.length) := by
  rw [Criteria.findings, pass_append, pass_add]
  rfl

/--
Whatever tells comments and suspicious marks, a rule table or something else, each pass goes down the
lines of the candidate and takes each on its own: on two texts, one below the other, it finds what it
finds on the first and then, further down, what it finds on the second. The report lists the passes one
after another.
-/
theorem scan_local_to_lines (c : Criteria) (old : Text) :
    (∀ rules candidate, detect rules old candidate = rules.criteria.scan old candidate) ∧
    (∀ (first second : Text) p, c.findings old.lines (Text.lines (first ++ '\n' :: second)) p =
      c.findings old.lines first.lines p ++
        (c.findings old.lines second.lines p).map (Finding.shift first.lines.length)) ∧
    ∀ candidate : Text,
      (c.scan old candidate).findings = c.findings old.lines candidate.lines .comments ++
        c.findings old.lines candidate.lines .ellipses ++
        c.findings old.lines candidate.lines .suspicious ∧
      ∀ p, GoesDown candidate.lines (c.findings old.lines candidate.lines p) := by
  refine ⟨fun rules => detect_eq_scan rules old, ?_, ?_⟩
  · intro first second p
    rw [Text.lines_append_cons_feed, findings_append]
  · intro candidate
    exact ⟨rfl, goesDown_findings c old.lines candidate.lines⟩

end Redline.Omission
