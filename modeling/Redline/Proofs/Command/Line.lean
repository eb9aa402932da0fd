import Redline.Command.Arguments
import Redline.Proofs.Outcome

set_option autoImplicit false
set_option relaxedAutoImplicit false

/-!
The line of an unattended write: `write`, a path, a diff and `--auto`, with flags that switch off what a
write does besides. It asks for what it says, whatever path and diff are, if neither begins with a dash.
-/

namespace Redline.Command

/-- The flags that switch something off. -/
def optionalFlags : List Text := ["--no-dedupe", "--no-syntax-check", "--no-metrics"]

/-- The line that has a diff applied to a file without a review. -/
def unattendedLine (path diff : Text) (flags : List Text) : List Text :=
  "write" :: path :: "--diff" :: diff :: "--auto" :: flags

def unattendedWrite (path diff : Text) (flags : List Text) : WriteArguments where
  path
  diff := some (.file diff)
  content := none
  root := some ['.']
  surface := some .unattended
  keepRepeats := flags.elem ("--no-dedupe" : Text)
  skipSyntaxCheck := flags.elem ("--no-syntax-check" : Text)
  skipMetrics := flags.elem ("--no-metrics" : Text)

variable {path diff : Text} {flags : List Text}

private theorem reading_of_undashed (g : Grammar) {t : Text} (undashed : Text.startsWith t ['-'] = false) :
    g.reading t = .ok .word := by
  unfold Grammar.reading
  split <;> first | rfl | simp [Text.startsWith, List.isPrefixOf] at undashed

private theorem ne_separator {t : Text} (undashed : Text.startsWith t ['-'] = false) : t ≠ separator := by
  rintro rfl
  exact Bool.false_ne_true (undashed.symm.trans rfl)

private theorem readAll_cons {g : Grammar} {a : Text} {r : Reading} (plain : a ≠ separator)
    (read : g.reading a = .ok r) (as : List Text) :
    g.readAll (a :: as) = (g.readAll as).map (⟨a, r⟩ :: ·) := by
  simp only [Grammar.readAll, if_neg plain, read]

private theorem exists_readAll {g : Grammar} {as : List Text} (read : ∀ a ∈ as, ∃ r, g.reading a = .ok r) :
    ∃ arguments, g.readAll as = .ok arguments ∧ arguments.map Argument.text = as := by
  induction as with
  | nil => exact ⟨[], rfl, rfl⟩
  | cons a as ih =>
    obtain ⟨⟨r, first⟩, rest⟩ := List.forall_mem_cons.mp read
    by_cases bare : a = separator
    · exact ⟨_, by rw [Grammar.readAll, if_pos bare], by simp [Function.comp_def]⟩
    · obtain ⟨arguments, later, texts⟩ := ih rest
      exact ⟨⟨a, r⟩ :: arguments, by rw [readAll_cons bare first, later]; rfl, by simp [texts]⟩

private theorem topGrammar_read (undashedPath : Text.startsWith path ['-'] = false)
    (undashedDiff : Text.startsWith diff ['-'] = false) (optional : ∀ f ∈ flags, f ∈ optionalFlags) :
    topGrammar.read (unattendedLine path diff flags) =
      .ok ⟨[some "write"], [], [], false, (unattendedLine path diff flags).tail⟩ := by
  have read : ∀ a ∈ (unattendedLine path diff flags).tail, ∃ r, topGrammar.reading a = .ok r := by
    have dashed : ∀ a ∈ optionalFlags, topGrammar.reading a = .ok .unknown := by
      simp only [optionalFlags, List.forall_mem_cons, List.not_mem_nil, false_imp_iff, implies_true,
        and_true]
      exact ⟨rfl, rfl, rfl⟩
    simp only [unattendedLine, List.tail_cons, List.forall_mem_cons]
    exact ⟨⟨_, reading_of_undashed _ undashedPath⟩, ⟨.unknown, rfl⟩,
      ⟨_, reading_of_undashed _ undashedDiff⟩, ⟨.unknown, rfl⟩,
      fun f mem => ⟨_, dashed f (optional f mem)⟩⟩
  obtain ⟨arguments, later, texts⟩ := exists_readAll read
  have name : topGrammar.reading "write" = .ok .word := rfl
  unfold Grammar.read
  rw [unattendedLine, readAll_cons (by decide) name]
  rw [unattendedLine, List.tail_cons] at later texts
  rw [later, List.tail_cons, ← texts]
  rfl

def switch (f : Text) : Argument := ⟨f, .flag (plain (f.drop 2)) none⟩

private theorem readAll_switches (optional : ∀ f ∈ flags, f ∈ optionalFlags) :
    writeGrammar.readAll flags = .ok (flags.map switch) := by
  have read : ∀ f ∈ optionalFlags, f ≠ separator ∧
      writeGrammar.reading f = .ok (.flag (plain (f.drop 2)) none) := by
    simp only [optionalFlags, List.forall_mem_cons, List.not_mem_nil, false_imp_iff, implies_true,
      and_true]
    exact ⟨⟨by decide, rfl⟩, ⟨by decide, rfl⟩, ⟨by decide, rfl⟩⟩
  induction flags with
  | nil => rfl
  | cons f flags ih =>
    obtain ⟨first, rest⟩ := List.forall_mem_cons.mp optional
    obtain ⟨bare, reading⟩ := read f first
    rw [readAll_cons bare reading, ih rest]
    rfl

private theorem take_switches (g : Grammar) (given : Given) (flags : List Text) :
    g.take .other given (flags.map switch) =
      g.take .other { given with switches := (flags.map (List.drop 2)).reverse ++ given.switches } [] := by
  induction flags generalizing given with
  | nil => rfl
  | cons f flags ih =>
    have step : g.take .other given ((f :: flags).map switch) =
        g.take .other { given with switches := f.drop 2 :: given.switches } (flags.map switch) := rfl
    rw [step, ih]
    simp

private theorem writeGrammar_read (undashedPath : Text.startsWith path ['-'] = false)
    (undashedDiff : Text.startsWith diff ['-'] = false) (optional : ∀ f ∈ flags, f ∈ optionalFlags) :
    writeGrammar.read (unattendedLine path diff flags).tail =
      .ok ⟨[some path], [("diff", some diff)],
        (flags.map (List.drop 2)).reverse ++ [("auto" : Text)], false, []⟩ := by
  have readDiff : writeGrammar.reading "--diff" = .ok (.flag (anyValue "diff") none) := rfl
  have readAuto : writeGrammar.reading "--auto" = .ok (.flag (plain "auto") none) := rfl
  have bare := ne_separator undashedPath
  unfold Grammar.read
  rw [unattendedLine, List.tail_cons, readAll_cons bare (reading_of_undashed _ undashedPath),
    readAll_cons (by decide) readDiff,
    readAll_cons (ne_separator undashedDiff) (reading_of_undashed _ undashedDiff),
    readAll_cons (by decide) readAuto, readAll_switches optional]
  have taken : writeGrammar.take .other .nothing
      (⟨path, .word⟩ :: ⟨"--diff", .flag (anyValue "diff") none⟩ :: ⟨diff, .word⟩ ::
        ⟨"--auto", .flag (plain "auto") none⟩ :: flags.map switch) =
      writeGrammar.take .other ⟨[wordOf .other path], [("diff", some diff)], ["auto"], false, []⟩
        (flags.map switch) := rfl
  have word : wordOf .other path = some path := by simp [wordOf, bare]
  simp only [Except.map]
  rw [taken, word, take_switches]
  rfl

private theorem elem_switches (optional : ∀ f ∈ flags, f ∈ optionalFlags) (name : Text)
    (notAuto : name ≠ "auto") :
    ((flags.map (List.drop 2)).reverse ++ [("auto" : Text)]).elem name =
      flags.elem ('-' :: '-' :: name) := by
  have dashes : ∀ f ∈ optionalFlags, f = '-' :: '-' :: f.drop 2 := by decide
  rw [Bool.eq_iff_iff, List.elem_iff, List.elem_iff]
  simp only [List.mem_append, List.mem_reverse, List.mem_map, List.mem_singleton, notAuto, or_false]
  constructor
  · rintro ⟨f, mem, rfl⟩
    rwa [← dashes f (optional f mem)]
  · exact fun mem => ⟨_, mem, rfl⟩

theorem ofArguments_unattendedLine (undashedPath : Text.startsWith path ['-'] = false)
    (undashedDiff : Text.startsWith diff ['-'] = false) (optional : ∀ f ∈ flags, f ∈ optionalFlags) :
    Invocation.ofArguments (unattendedLine path diff flags) =
      .ok ⟨none, .write (unattendedWrite path diff flags)⟩ := by
  have command : commandNamed? "write" = some (writeGrammar, writeOf) := rfl
  have source : Source.ofWord diff = .file diff := by
    refine if_neg fun dash => ?_
    rw [dash] at undashedDiff
    exact Bool.false_ne_true (undashedDiff.symm.trans rfl)
  have given : writeOf ⟨[some path], [("diff", some diff)],
      (flags.map (List.drop 2)).reverse ++ [("auto" : Text)], false, []⟩ =
      .write (unattendedWrite path diff flags) := by
    have auto : ((flags.map (List.drop 2)).reverse ++ [("auto" : Text)]).elem ("auto" : Text) =
        true := by
      simp
    have value : (Given.value? ⟨[some path], [("diff", some diff)],
        (flags.map (List.drop 2)).reverse ++ [("auto" : Text)], false, []⟩ "diff") =
        some (some diff) := rfl
    simp only [writeOf, unattendedWrite, surfaceGiven, Given.has, auto, if_true, value, Option.map_some,
      Source.ofPlace, source, elem_switches optional "no-dedupe" (by decide),
      elem_switches optional "no-syntax-check" (by decide),
      elem_switches optional "no-metrics" (by decide)]
    rfl
  unfold Invocation.ofArguments
  rw [topGrammar_read undashedPath undashedDiff optional]
  simp only [List.head?_cons, Option.join_some, Option.getD_some, command]
  rw [writeGrammar_read undashedPath undashedDiff optional]
  simp only [given]
  rfl

end Redline.Command
