import Redline.Proofs.Omission.Passes

set_option autoImplicit false
set_option relaxedAutoImplicit false

/-!
Further phrases. The first phrase of the vocabulary that a comment has is its keyword, and further
phrases go to the end. So what was found is still found, by the same phrase, and a phrase that occurs once
more at the end finds nothing: it does not matter how often, or in how many steps, phrases are added.
-/

namespace Redline.Omission

def addedForm? (phrase : Text) : Option Text :=
  if Text.trim phrase = [] then none else some (Text.lower (Text.trim phrase))

/-- The criteria with further phrases after those at hand. -/
def Criteria.extended (c : Criteria) (extra : List Text) : Criteria :=
  { c with phrases := c.phrases ++ extra.filterMap (addable? c.phrases) }

variable {c : Criteria} {olds : List Line} {xs : List Text} {l : Line} {k : Text}

private theorem criteria_extended (rules : Rules) (xs : List Text) :
    (rules.extended xs).criteria = rules.criteria.extended xs := rfl

/-! The phrases. -/

private theorem addable?_eq_filter (known : List Text) (phrase : Text) :
    addable? known phrase = (addedForm? phrase).filter fun p => !known.elem p := by
  unfold addable? addedForm?
  by_cases blank : Text.trim phrase = []
  · simp [blank]
  · by_cases has : Text.lower (Text.trim phrase) ∈ known
    · simp [blank, has, Option.filter]
    · simp [blank, has, Option.filter]

private theorem phrases_extended (c : Criteria) (xs : List Text) :
    (c.extended xs).phrases =
      c.phrases ++ (xs.filterMap addedForm?).filter fun p => !c.phrases.elem p := by
  have each : addable? c.phrases = fun x => (addedForm? x).filter fun p => !c.phrases.elem p :=
    funext fun x => addable?_eq_filter c.phrases x
  rw [List.filter_filterMap, ← each]
  rfl

private theorem exists_of_addedForm? {phrase : Text} (form : addedForm? phrase = some k) :
    Text.trim phrase ≠ [] ∧ k = Text.lower (Text.trim phrase) := by
  unfold addedForm? at form
  split at form
  · simp at form
  · rename_i filled
    exact ⟨filled, (Option.some.inj form).symm⟩

private theorem find?_append_filter_not_elem (asks : Text → Bool) (ps qs : List Text) :
    (ps ++ qs.filter fun q => !ps.elem q).find? asks = (ps ++ qs).find? asks := by
  rw [List.find?_append, List.find?_append]
  cases first : ps.find? asks with
  | some p => rfl
  | none =>
    have others : ∀ q, asks q = true → q ∉ ps := by
      intro q has mem
      exact absurd has (List.find?_eq_none.mp first q mem)
    have same : (fun q => !ps.elem q && asks q) = asks := by
      funext q
      cases has : asks q with
      | false => simp
      | true => simpa using others q has
    rw [List.find?_filter]
    simp only [Bool.decide_and, Bool.decide_eq_true, same]

private theorem find?_phrases_extended (asks : Text → Bool) (c : Criteria) (xs : List Text) :
    (c.extended xs).phrases.find? asks = (c.phrases ++ xs.filterMap addedForm?).find? asks := by
  rw [phrases_extended, find?_append_filter_not_elem]

private theorem find?_phrases_extended_extended (asks : Text → Bool) (c : Criteria) (xs ys : List Text) :
    ((c.extended xs).extended ys).phrases.find? asks = (c.extended (xs ++ ys)).phrases.find? asks := by
  calc ((c.extended xs).extended ys).phrases.find? asks
      = ((c.extended xs).phrases.find? asks).or ((ys.filterMap addedForm?).find? asks) := by
        rw [find?_phrases_extended, List.find?_append]
    _ = ((c.phrases ++ xs.filterMap addedForm?).find? asks).or
          ((ys.filterMap addedForm?).find? asks) := by rw [find?_phrases_extended]
    _ = (c.phrases ++ (xs ++ ys).filterMap addedForm?).find? asks := by
        rw [← List.find?_append, List.filterMap_append, List.append_assoc]
    _ = (c.extended (xs ++ ys)).phrases.find? asks := (find?_phrases_extended asks c (xs ++ ys)).symm

private theorem phrases_extended_twice (c : Criteria) (xs : List Text) :
    ((c.extended xs).extended xs).phrases = (c.extended xs).phrases := by
  have known : ∀ p ∈ xs.filterMap addedForm?, p ∈ (c.extended xs).phrases := by
    intro p mem
    rw [phrases_extended]
    by_cases before : p ∈ c.phrases
    · exact List.mem_append_left _ before
    · have fresh : (!c.phrases.elem p) = true := by simpa using before
      exact List.mem_append_right _ (List.mem_filter.mpr ⟨mem, fresh⟩)
  have none : (xs.filterMap addedForm?).filter (fun p => !(c.extended xs).phrases.elem p) = [] := by
    refine List.filter_eq_nil_iff.mpr fun p mem => ?_
    simpa using known p mem
  rw [phrases_extended (c.extended xs), none, List.append_nil]

/-! The passes. -/

private theorem keyword?_extended_of_ne {p : Pass} (other : p ≠ .comments) :
    (c.extended xs).keyword? olds p = c.keyword? olds p := by
  cases p with
  | comments => exact absurd rfl other
  | ellipses => rfl
  | suspicious => rfl

private theorem keyword?_extended (c : Criteria) (xs : List Text) (olds : List Line) (l : Line) :
    (c.extended xs).keyword? olds .comments l = (c.keyword? olds .comments l).or
      (Criteria.keyword? { c with phrases := xs.filterMap addedForm? } olds .comments l) := by
  have same : (c.extended xs).isComment = c.isComment := rfl
  simp only [Criteria.keyword?]
  rw [same, find?_phrases_extended, List.find?_append]
  split <;> rfl

private theorem keyword?_extended_of_some (found : c.keyword? olds .comments l = some k) :
    (c.extended xs).keyword? olds .comments l = some k := by
  rw [keyword?_extended, found]
  rfl

private theorem mem_phrases_of_keyword? (found : c.keyword? olds .comments l = some k) : k ∈ c.phrases := by
  simp only [Criteria.keyword?] at found
  split at found
  · exact List.mem_of_find?_eq_some found
  · simp at found

private theorem keyword?_extended_of_none (before : c.keyword? olds .comments l = none)
    (found : (c.extended xs).keyword? olds .comments l = some k) :
    ∃ x ∈ xs, Text.trim x ≠ [] ∧ k = Text.lower (Text.trim x) := by
  rw [keyword?_extended, before, Option.none_or] at found
  obtain ⟨x, mem, form⟩ := List.mem_filterMap.mp (mem_phrases_of_keyword? found)
  exact ⟨x, mem, exists_of_addedForm? form⟩

private theorem filter_pass {fewer? more? : Line → Option Text}
    (more : ∀ l k, fewer? l = some k → more? l = some k) (n : Nat) (ls : List Line) :
    (pass more? n ls).filter (fun f => (fewer? f.line).isSome) = pass fewer? n ls := by
  induction ls generalizing n with
  | nil => rfl
  | cons l ls ih =>
    rw [pass, pass]
    cases found : fewer? l with
    | some k =>
      rw [more l k found, List.filter_cons_of_pos (by simp [found]), ih]
    | none =>
      cases more? l with
      | none => exact ih (n + 1)
      | some k =>
        rw [List.filter_cons_of_neg (by simp [found])]
        exact ih (n + 1)

/-- Whether the findings `gs` are the findings `fs` and others, for further phrases, on other lines. -/
structure OnlyAdds (xs : List Text) (fs gs : List Finding) : Prop where
  /-- What is found on lines that were reported before is what was found there. -/
  kept : gs.filter (fun g => fs.any fun f => f.lineNumber == g.lineNumber) = fs
  added : ∀ g ∈ gs, (∀ f ∈ fs, f.lineNumber ≠ g.lineNumber) →
    ∃ x ∈ xs, Text.trim x ≠ [] ∧ g.keyword = Text.lower (Text.trim x)

private theorem any_lineNumber_pass (fewer? : Line → Option Text) {more? : Line → Option Text} {n : Nat}
    {ls : List Line} {g : Finding} (mem : g ∈ pass more? n ls) :
    ((pass fewer? n ls).any fun f => f.lineNumber == g.lineNumber) = (fewer? g.line).isSome := by
  obtain ⟨i, here, number, -⟩ := mem_pass_iff.mp mem
  rw [Bool.eq_iff_iff, List.any_eq_true, Option.isSome_iff_exists]
  constructor
  · rintro ⟨f, reported, same⟩
    obtain ⟨j, there, number', found⟩ := mem_pass_iff.mp reported
    have lineNumber : f.lineNumber = g.lineNumber := by simpa using same
    obtain rfl : i = j := by omega
    have line : f.line = g.line := Option.some.inj (there.symm.trans here)
    exact ⟨f.keyword, line ▸ found⟩
  · rintro ⟨k, found⟩
    have reported : (⟨g.line, k, g.lineNumber⟩ : Finding) ∈ pass fewer? n ls :=
      mem_pass_iff.mpr ⟨i, here, number, found⟩
    exact ⟨_, reported, by simp⟩

private theorem onlyAdds_findings (c : Criteria) (xs : List Text) (olds news : List Line) :
    OnlyAdds xs (c.findings olds news .comments) ((c.extended xs).findings olds news .comments) where
  kept := by
    have more (l : Line) (k : Text) (found : c.keyword? olds .comments l = some k) :
        (c.extended xs).keyword? olds .comments l = some k := keyword?_extended_of_some found
    have same := filter_pass more 1 news
    rw [Criteria.findings, Criteria.findings, ← same]
    refine List.filter_congr fun g mem => ?_
    rw [same]
    exact any_lineNumber_pass _ mem
  added := by
    intro g mem unreported
    have silent : ((c.findings olds news .comments).any fun f => f.lineNumber == g.lineNumber) =
        false := by simpa using unreported
    have before : c.keyword? olds .comments g.line = none := by
      rw [Criteria.findings, any_lineNumber_pass _ mem] at silent
      simpa using silent
    obtain ⟨i, -, -, found⟩ := mem_pass_iff.mp mem
    exact keyword?_extended_of_none before found

private theorem findings_extended_of_ne (c : Criteria) (xs : List Text) (olds news : List Line) {p : Pass}
    (other : p ≠ .comments) : (c.extended xs).findings olds news p = c.findings olds news p := by
  rw [Criteria.findings, keyword?_extended_of_ne other, Criteria.findings]

private theorem OnlyAdds.sublist {fs gs : List Finding} (adds : OnlyAdds xs fs gs) : fs.Sublist gs := by
  rw [← adds.kept]
  exact List.filter_sublist

private theorem scan_extended_sublist (c : Criteria) (xs : List Text) (old candidate : Text) :
    (c.scan old candidate).findings.Sublist ((c.extended xs).scan old candidate).findings := by
  have comments := (onlyAdds_findings c xs old.lines candidate.lines).sublist
  have ellipses := findings_extended_of_ne c xs old.lines candidate.lines
    (show Pass.ellipses ≠ .comments by decide)
  have suspicious := findings_extended_of_ne c xs old.lines candidate.lines
    (show Pass.suspicious ≠ .comments by decide)
  rw [Criteria.scan, Criteria.scan, ellipses, suspicious]
  exact (comments.append_right _).append_right _

private theorem scan_extended_extended (c : Criteria) (xs ys : List Text) (old candidate : Text) :
    ((c.extended xs).extended ys).scan old candidate = (c.extended (xs ++ ys)).scan old candidate := by
  have same : ((c.extended xs).extended ys).keyword? old.lines =
      (c.extended (xs ++ ys)).keyword? old.lines := by
    funext p l
    cases p with
    | comments =>
      simp only [Criteria.keyword?]
      rw [find?_phrases_extended_extended]
      rfl
    | ellipses => rfl
    | suspicious => rfl
  simp only [Criteria.scan, Criteria.findings, same]

/--
Whatever tells comments and suspicious marks, a rule table or something else, a scan with further phrases
finds what it found without them, in the same order, and besides only comments that it did not report,
each for one of the further phrases. Phrases may be added in one step or in two, and adding them once more
adds none.
-/
theorem vocabulary_grows_conservatively (c : Criteria) (xs ys : List Text) (old candidate : Text) :
    (∀ rules, detect rules old candidate = rules.criteria.scan old candidate ∧
      (rules.extended xs).criteria = rules.criteria.extended xs) ∧
    ((c.scan old candidate).findings.Sublist ((c.extended xs).scan old candidate).findings ∧
      OnlyAdds xs (c.findings old.lines candidate.lines .comments)
        ((c.extended xs).findings old.lines candidate.lines .comments) ∧
      ∀ p, p ≠ .comments → (c.extended xs).findings old.lines candidate.lines p =
        c.findings old.lines candidate.lines p) ∧
    ((c.extended xs).extended ys).scan old candidate = (c.extended (xs ++ ys)).scan old candidate ∧
    ((c.extended xs).extended xs).phrases = (c.extended xs).phrases := by
  refine ⟨?_, ?_, scan_extended_extended c xs ys old candidate, phrases_extended_twice c xs⟩
  · intro rules
    exact ⟨detect_eq_scan rules old candidate, criteria_extended rules xs⟩
  · refine ⟨scan_extended_sublist c xs old candidate, onlyAdds_findings c xs _ _, ?_⟩
    intro p other
    exact findings_extended_of_ne c xs _ _ other

/-- A phrase of the table within one that is added keeps its keyword. -/
example : detect (defaultRules.extended [" Rest of THE file ", "", "todo"]) ""
    "# rest of the file\n# todo" = ⟨[⟨"# rest of the file", "rest", 1⟩, ⟨"# todo", "todo", 2⟩]⟩ := by
  decide

end Redline.Omission
