import Redline.Proofs.Data.Renumbered
import Redline.Settings.Basic

set_option autoImplicit false
set_option relaxedAutoImplicit false

/-!
Settings by priority. What is in force for a setting is the text of its variable, or else the value under
its key in the settings file, or else its default. Settings are refused exactly if what is in force for
the update interval is no number, or a text that is asked for would hold a number too long to be written;
and two runs in which the same is in force for a setting agree on it, whatever else they differ in.
-/

namespace Redline.Settings

open Data (Document Element)
open Review (Surface)

def IsMap (d : Document) : Prop := ∃ es, d.part d.root = .map es

/-- Whether the settings file has the part with a number under a key, and it is not nothing. -/
def Sources.Sets (s : Sources) (key : Text) (n : Nat) : Prop :=
  s.file.entry? s.file.root key = some n ∧ s.file.part n ≠ .single .null

/-- What may be in force for a setting: a variable's text, a part of the settings file, or the default. -/
inductive Held where
  | text (t : Text)
  | part (n : Nat)
  | default

inductive Sources.InForce (s : Sources) (name : Name) : Held → Prop
  | text {t : Text} : s.environment.lookup name.inEnvironment = some t → InForce s name (.text t)
  | part {n : Nat} : s.environment.lookup name.inEnvironment = none → s.Sets name.inFile n →
      InForce s name (.part n)
  | default : s.environment.lookup name.inEnvironment = none → (∀ n, ¬ s.Sets name.inFile n) →
      InForce s name .default

namespace Held

def switch (file : Document) (standard : Bool) : Held → Bool
  | .text t => Text.lower t == ("true" : Text)
  | .part n => (file.part n).isTrue
  | .default => standard

/-- The whole number that something in force stands for. -/
def number (file : Document) (standard : Int) : Held → Except Fault Int
  | .text t => numberOfText t
  | .part n => numberOfPart (file.part n)
  | .default => .ok standard

/-- The wording that something in force stands for, unless it is too long to be written. -/
def wording? (file : Document) (standard : Wording) : Held → Option Wording
  | .text t => some (.text t)
  | .part n => file.plain? (.part n)
  | .default => some standard

/-- What something in force is read as, if a text and a part each have their own reading. -/
def read {α : Type} (standard : α) (ofVariable : Text → Except Fault α)
    (ofPart : Nat → Except Fault α) : Held → Except Fault α
  | .text t => ofVariable t
  | .part n => ofPart n
  | .default => .ok standard

/-- Whether the same is in force with two files, which may number their parts differently. -/
inductive Alike (file file' : Document) (sameDefault : Prop) : Held → Held → Prop
  | text (t : Text) : Alike file file' sameDefault (.text t) (.text t)
  | part {n m : Nat} : file.SameValue file' n m → Alike file file' sameDefault (.part n) (.part m)
  | default : sameDefault → Alike file file' sameDefault .default .default

end Held

def SameInForce (s s' : Sources) (name : Name) (sameDefault : Prop) : Prop :=
  ∃ held held', s.InForce name held ∧ s'.InForce name held' ∧
    held.Alike s.file s'.file sameDefault held'

/-- Whether what is in force for a number cannot be read as one. -/
inductive Sources.Unread (s : Sources) (name : Name) : Prop
  | text {t : Text} : s.InForce name (.text t) → (∀ k, numberOfText t ≠ .ok k) → Unread s name
  | part {n : Nat} : s.InForce name (.part n) → (∀ k, numberOfPart (s.file.part n) ≠ .ok k) →
      Unread s name

/-- Whether what is in force for a text holds a number that is too long to be written. -/
def Sources.Unwritten (s : Sources) (name : Name) : Prop :=
  ∃ n, s.InForce name (.part n) ∧ s.file.HoldsLong (.part n)

/-- Whether an element is in the list of phrases of the settings file. -/
def Sources.Lists (s : Sources) (e : Element) : Prop :=
  ∃ n m es, s.Sets "omission" n ∧ s.file.entry? n "extra_phrases" = some m ∧
    s.file.items? m = some es ∧ e ∈ es

def Sources.NamesSurface (s : Sources) (standard : Surface) : Prop :=
  ∃ held u, s.InForce .surface held ∧
    (held.wording? s.file (.text (surfaceName standard))).bind surfaceOf? = some u

/-- Whether each setting is what is in force for it; a surface that has no such name is the default. -/
structure Follows (default : Choices) (s : Sources) (c : Choices) : Prop where
  dedupe : ∀ held, s.InForce .dedupe held → c.dedupe = held.switch s.file default.dedupe
  updateInterval : ∀ held, s.InForce .updateInterval held →
    held.number s.file default.updateInterval = .ok c.updateInterval
  checkSyntax : ∀ held, s.InForce .checkSyntax held →
    c.checkSyntax = held.switch s.file default.checkSyntax
  metrics : ∀ held, s.InForce .metrics held → c.metrics = held.switch s.file default.metrics
  logDirectory : ∀ held, s.InForce .logDirectory held →
    held.wording? s.file default.logDirectory = some c.logDirectory
  surface : ∀ held, s.InForce .surface held →
    c.surface = ((held.wording? s.file (.text (surfaceName default.surface))).bind surfaceOf?).getD
      default.surface

/--
Whether two runs agree on each setting for which the same is in force. Where that is the name of no
surface, the defaults must be the same, too.
-/
structure Agree (default default' : Choices) (s s' : Sources) (c c' : Choices) : Prop where
  dedupe : SameInForce s s' .dedupe (default.dedupe = default'.dedupe) → c.dedupe = c'.dedupe
  updateInterval :
    SameInForce s s' .updateInterval (default.updateInterval = default'.updateInterval) →
      c.updateInterval = c'.updateInterval
  checkSyntax : SameInForce s s' .checkSyntax (default.checkSyntax = default'.checkSyntax) →
    c.checkSyntax = c'.checkSyntax
  metrics : SameInForce s s' .metrics (default.metrics = default'.metrics) → c.metrics = c'.metrics
  logDirectory : SameInForce s s' .logDirectory (default.logDirectory = default'.logDirectory) →
    c.logDirectory = c'.logDirectory
  surface : SameInForce s s' .surface (default.surface = default'.surface) →
    s.NamesSurface default.surface ∨ default.surface = default'.surface → c.surface = c'.surface

variable {s s' : Sources} {name : Name} {default default' : Choices} {c c' : Choices}

private theorem inFile_of_isMap (isMap : IsMap s.file) (key : Text) :
    ∃ found, s.inFile key = .ok found ∧ ∀ n, found = some n ↔ s.Sets key n := by
  obtain ⟨es, root⟩ := isMap
  refine ⟨_, by rw [Sources.inFile, root], fun n => ?_⟩
  rw [Option.filter_eq_some_iff, Sources.Sets]
  refine and_congr_right fun _ => ?_
  split
  · rename_i null
    simp [null]
  · rename_i other
    exact iff_of_true rfl other

private theorem exists_inForce (s : Sources) (name : Name) : ∃ held, s.InForce name held := by
  cases set : s.environment.lookup name.inEnvironment with
  | some t => exact ⟨_, .text set⟩
  | none =>
    by_cases sets : ∃ n, s.Sets name.inFile n
    · obtain ⟨n, sets⟩ := sets
      exact ⟨_, .part set sets⟩
    · exact ⟨_, .default set (not_exists.mp sets)⟩

private theorem Sources.InForce.unique {held held' : Held} (first : s.InForce name held)
    (second : s.InForce name held') : held = held' := by
  cases first with
  | text set =>
    cases second with
    | text set' => rw [Option.some.inj (set.symm.trans set')]
    | part unset _ => cases set.symm.trans unset
    | default unset _ => cases set.symm.trans unset
  | part unset sets =>
    cases second with
    | text set' => cases unset.symm.trans set'
    | part _ sets' => rw [Option.some.inj (sets.1.symm.trans sets'.1)]
    | default _ lacks => exact absurd sets (lacks _)
  | default unset lacks =>
    cases second with
    | text set' => cases unset.symm.trans set'
    | part _ sets' => exact absurd sets' (lacks _)
    | default _ _ => rfl

section Choose

variable {α : Type} {ofVariable : Text → Except Fault α} {ofPart : Nat → Except Fault α} {standard : α}

private theorem choose_of_inForce (isMap : IsMap s.file) {held : Held} (inForce : s.InForce name held) :
    s.choose name standard ofVariable ofPart = held.read standard ofVariable ofPart := by
  obtain ⟨found, inFile, iff⟩ := inFile_of_isMap isMap name.inFile
  cases inForce with
  | text set =>
    rw [Sources.choose, set]
    rfl
  | part unset sets =>
    rw [Sources.choose, unset, inFile, (iff _).mpr sets]
    rfl
  | default unset lacks =>
    have missing : found = none := Option.eq_none_iff_forall_ne_some.mpr fun n some =>
      lacks n ((iff n).mp some)
    rw [Sources.choose, unset, inFile, missing]
    rfl

private theorem exists_choose_eq_error_iff (isMap : IsMap s.file) :
    (∃ f, s.choose name standard ofVariable ofPart = .error f) ↔
      (∃ t, s.InForce name (.text t) ∧ ∃ f, ofVariable t = .error f) ∨
        ∃ n, s.InForce name (.part n) ∧ ∃ f, ofPart n = .error f := by
  constructor
  · rintro ⟨f, fails⟩
    obtain ⟨held, inForce⟩ := exists_inForce s name
    rw [choose_of_inForce isMap inForce] at fails
    cases held with
    | text t => exact .inl ⟨t, inForce, f, fails⟩
    | part n => exact .inr ⟨n, inForce, f, fails⟩
    | default => cases fails
  · rintro (⟨t, inForce, f, fails⟩ | ⟨n, inForce, f, fails⟩)
    · exact ⟨f, (choose_of_inForce isMap inForce).trans fails⟩
    · exact ⟨f, (choose_of_inForce isMap inForce).trans fails⟩

end Choose

/-! What each kind of setting makes of what is in force. -/

private theorem switch_of_inForce (isMap : IsMap s.file) {held : Held} (inForce : s.InForce name held)
    (standard : Bool) : s.switch name standard = .ok (held.switch s.file standard) := by
  rw [Sources.switch, choose_of_inForce isMap inForce]
  cases held <;> rfl

private theorem exists_switch_eq_ok (isMap : IsMap s.file) (name : Name) (standard : Bool) :
    ∃ b, s.switch name standard = .ok b := by
  obtain ⟨held, inForce⟩ := exists_inForce s name
  exact ⟨_, switch_of_inForce isMap inForce standard⟩

private theorem number_of_inForce (isMap : IsMap s.file) {held : Held} (inForce : s.InForce name held)
    (standard : Int) : s.number name standard = held.number s.file standard := by
  rw [Sources.number, choose_of_inForce isMap inForce]
  cases held <;> rfl

private theorem exists_number_eq_error_iff (isMap : IsMap s.file) (standard : Int) :
    (∃ f, s.number name standard = .error f) ↔ s.Unread name := by
  rw [Sources.number, exists_choose_eq_error_iff isMap]
  simp only [exists_eq_error_iff]
  constructor
  · rintro (⟨t, held, fails⟩ | ⟨n, held, fails⟩)
    · exact .text held fails
    · exact .part held fails
  · intro unread
    cases unread with
    | text held fails => exact .inl ⟨_, held, fails⟩
    | part held fails => exact .inr ⟨_, held, fails⟩

private theorem exists_plain_eq_error_iff {e : Element} (has : s.file.Has e) :
    (∃ f, s.plain e = .error f) ↔ s.file.HoldsLong e := by
  rw [← Document.plain?_eq_none_iff has, Sources.plain]
  cases s.file.plain? e <;> simp

private theorem plain_eq_ok_iff {e : Element} {w : Wording} :
    s.plain e = .ok w ↔ s.file.plain? e = some w := by
  rw [Sources.plain]
  cases s.file.plain? e <;> simp

private theorem exists_wording_eq_error_iff (isMap : IsMap s.file) (standard : Wording) :
    (∃ f, s.wording name standard = .error f) ↔ s.Unwritten name := by
  rw [Sources.wording, exists_choose_eq_error_iff isMap]
  have part (n : Nat) : (∃ f, s.plain (.part n) = .error f) ↔ s.file.HoldsLong (.part n) :=
    exists_plain_eq_error_iff trivial
  simp [part, Sources.Unwritten]

private theorem wording_eq_ok_iff (isMap : IsMap s.file) {held : Held} (inForce : s.InForce name held)
    {standard w : Wording} :
    s.wording name standard = .ok w ↔ held.wording? s.file standard = some w := by
  rw [Sources.wording, choose_of_inForce isMap inForce]
  cases held with
  | text t => simp [Held.read, Held.wording?]
  | part n => exact plain_eq_ok_iff
  | default => simp [Held.read, Held.wording?]

private theorem eq_of_surface_eq_ok (isMap : IsMap s.file) {held : Held} (inForce : s.InForce .surface held)
    {standard u : Surface} (chosen : s.surface standard = .ok u) :
    u = ((held.wording? s.file (.text (surfaceName standard))).bind surfaceOf?).getD standard := by
  obtain ⟨w, worded, rfl⟩ := map_eq_ok_iff.mp chosen
  rw [(wording_eq_ok_iff isMap inForce).mp worded, Option.bind_some]

private theorem exists_listed? (isMap : IsMap s.file) :
    ∃ listed, s.listed? = .ok listed ∧ ∀ e, (∃ es, listed = some es ∧ e ∈ es) ↔ s.Lists e := by
  obtain ⟨found, read, sets⟩ := inFile_of_isMap isMap "omission"
  refine ⟨_, by rw [Sources.listed?, read]; rfl, fun e => ?_⟩
  constructor
  · rintro ⟨es, listed, mem⟩
    cases place : found.bind fun n => s.file.entry? n "extra_phrases" with
    | none =>
      rw [place] at listed
      cases listed
      cases mem
    | some m =>
      rw [place] at listed
      obtain ⟨n, here, entry⟩ := Option.bind_eq_some_iff.mp place
      exact ⟨n, m, es, (sets n).mp here, entry, listed, mem⟩
  · rintro ⟨n, m, es, here, entry, items, mem⟩
    have place : (found.bind fun n => s.file.entry? n "extra_phrases") = some m :=
      Option.bind_eq_some_iff.mpr ⟨n, (sets n).mpr here, entry⟩
    exact ⟨es, by rw [place]; exact items, mem⟩

private theorem Sources.Lists.has {e : Element} (lists : s.Lists e) : s.file.Has e := by
  obtain ⟨n, m, es, -, -, items, mem⟩ := lists
  exact Document.has_of_mem_items items mem

private theorem exists_phrases_eq_error_iff (isMap : IsMap s.file) (standard : List Wording) :
    (∃ f, s.phrases standard = .error f) ↔ ∃ e, s.Lists e ∧ s.file.HoldsLong e := by
  obtain ⟨listed, read, lists⟩ := exists_listed? isMap
  simp only [Sources.phrases, read, ← lists]
  cases listed with
  | none => simp [bind, Except.bind, pure, Except.pure]
  | some es =>
    have has : ∀ e ∈ es, s.file.Has e := fun e mem => ((lists e).mp ⟨es, rfl, mem⟩).has
    simp only [bind, Except.bind, exists_mapM_eq_error_iff, Option.some.injEq, exists_eq_left']
    exact exists_congr fun e => and_congr_right fun mem => exists_plain_eq_error_iff (has e mem)

private theorem of_mem_phrases (isMap : IsMap s.file) {standard ws : List Wording} {w : Wording}
    (chosen : s.phrases standard = .ok ws) (mem : w ∈ ws) :
    w ∈ standard ∨ ∃ e, s.Lists e ∧ s.file.plain? e = some w := by
  obtain ⟨listed, read, lists⟩ := exists_listed? isMap
  simp only [Sources.phrases, read, bind, Except.bind] at chosen
  cases listed with
  | none =>
    obtain rfl : standard = ws := pure_eq_ok_iff.mp chosen
    exact .inl mem
  | some es =>
    obtain ⟨e, mem, written⟩ := exists_of_mem_mapM chosen mem
    exact .inr ⟨e, (lists e).mp ⟨es, rfl, mem⟩, plain_eq_ok_iff.mp written⟩

private theorem choices_eq_ok_iff : s.choices default = .ok c ↔
    s.switch .dedupe default.dedupe = .ok c.dedupe ∧
      s.number .updateInterval default.updateInterval = .ok c.updateInterval ∧
      s.switch .checkSyntax default.checkSyntax = .ok c.checkSyntax ∧
      s.switch .metrics default.metrics = .ok c.metrics ∧
      s.wording .logDirectory default.logDirectory = .ok c.logDirectory ∧
      s.surface default.surface = .ok c.surface ∧
      s.phrases default.extraPhrases = .ok c.extraPhrases := by
  simp only [Sources.choices, bind_eq_ok_iff, pure_eq_ok_iff]
  constructor
  · rintro ⟨_, dedupe, _, interval, _, syntaxes, _, metrics, _, logs, _, surface, _, phrases, rfl⟩
    exact ⟨dedupe, interval, syntaxes, metrics, logs, surface, phrases⟩
  · rintro ⟨dedupe, interval, syntaxes, metrics, logs, surface, phrases⟩
    exact ⟨_, dedupe, _, interval, _, syntaxes, _, metrics, _, logs, _, surface, _, phrases, rfl⟩

private theorem exists_choices_eq_error_iff (isMap : IsMap s.file) : (∃ f, s.choices default = .error f) ↔
    s.Unread .updateInterval ∨ s.Unwritten .logDirectory ∨ s.Unwritten .surface ∨
      ∃ e, s.Lists e ∧ s.file.HoldsLong e := by
  have total (name : Name) (standard : Bool) : ¬ ∃ f, s.switch name standard = .error f := by
    obtain ⟨b, chosen⟩ := exists_switch_eq_ok isMap name standard
    simp [chosen]
  have surface : (∃ f, s.surface default.surface = .error f) ↔ s.Unwritten .surface := by
    simp only [Sources.surface, map_eq_error_iff]
    exact exists_wording_eq_error_iff isMap _
  have chain : (∃ f, s.choices default = .error f) ↔
      (∃ f, s.switch .dedupe default.dedupe = .error f) ∨
      (∃ f, s.number .updateInterval default.updateInterval = .error f) ∨
      (∃ f, s.switch .checkSyntax default.checkSyntax = .error f) ∨
      (∃ f, s.switch .metrics default.metrics = .error f) ∨
      (∃ f, s.wording .logDirectory default.logDirectory = .error f) ∨
      (∃ f, s.surface default.surface = .error f) ∨
      (∃ f, s.phrases default.extraPhrases = .error f) ∨ False :=
    exists_bind_eq_error_iff fun _ => exists_bind_eq_error_iff fun _ =>
      exists_bind_eq_error_iff fun _ => exists_bind_eq_error_iff fun _ =>
        exists_bind_eq_error_iff fun _ => exists_bind_eq_error_iff fun _ =>
          exists_bind_eq_error_iff fun _ => by simp [pure, Except.pure]
  rw [chain]
  simp only [total, false_or, or_false, exists_number_eq_error_iff isMap,
    exists_wording_eq_error_iff isMap, surface, exists_phrases_eq_error_iff isMap]

private theorem follows_of_choices (isMap : IsMap s.file) (chosen : s.choices default = .ok c) :
    Follows default s c := by
  obtain ⟨dedupe, interval, syntaxes, metrics, logs, surface, -⟩ := choices_eq_ok_iff.mp chosen
  have switched {name : Name} {standard b : Bool} (chosen : s.switch name standard = .ok b)
      (held : Held) (inForce : s.InForce name held) : b = held.switch s.file standard :=
    Except.ok.inj (chosen.symm.trans (switch_of_inForce isMap inForce standard))
  constructor
  · exact switched dedupe
  · exact fun held inForce => (number_of_inForce isMap inForce _).symm.trans interval
  · exact switched syntaxes
  · exact switched metrics
  · exact fun held inForce => (wording_eq_ok_iff isMap inForce).mp logs
  · exact fun held inForce => eq_of_surface_eq_ok isMap inForce surface

namespace Held.Alike

variable {held held' : Held} {d d' : Document}

private theorem switch_eq {standard standard' : Bool}
    (alike : held.Alike d d' (standard = standard') held') :
    held.switch d standard = held'.switch d' standard' := by
  cases alike with
  | text t => rfl
  | part value =>
    obtain ⟨r, corresponds, related⟩ := value
    exact (corresponds.alike related).isTrue_eq
  | default same => exact same

private theorem number_eq {standard standard' : Int}
    (alike : held.Alike d d' (standard = standard') held') :
    held.number d standard = held'.number d' standard' := by
  cases alike with
  | text t => rfl
  | @part n m value =>
    obtain ⟨r, corresponds, related⟩ := value
    have parts := corresponds.alike related
    rw [Held.number, Held.number]
    generalize d.part n = p, d'.part m = p' at parts ⊢
    cases parts <;> rfl
  | default same => exact congrArg Except.ok same

private theorem wording?_eq {standard standard' : Wording}
    (alike : held.Alike d d' (standard = standard') held') :
    held.wording? d standard = held'.wording? d' standard' := by
  cases alike with
  | text t => rfl
  | part value => exact value.plain?_eq
  | default same => exact congrArg some same

private theorem mono {p q : Prop} (alike : held.Alike d d' p held') (implies : p → q) :
    held.Alike d d' q held' := by
  cases alike with
  | text t => exact .text t
  | part value => exact .part value
  | default same => exact .default (implies same)

end Held.Alike

private theorem agree_of_follows (follows : Follows default s c) (follows' : Follows default' s' c') :
    Agree default default' s s' c c' := by
  have switched {name : Name} {standard standard' b b' : Bool}
      (chosen : ∀ held, s.InForce name held → b = held.switch s.file standard)
      (chosen' : ∀ held, s'.InForce name held → b' = held.switch s'.file standard')
      (same : SameInForce s s' name (standard = standard')) : b = b' := by
    obtain ⟨held, held', inForce, inForce', alike⟩ := same
    rw [chosen held inForce, chosen' held' inForce', alike.switch_eq]
  constructor
  · exact switched follows.dedupe follows'.dedupe
  · rintro ⟨held, held', inForce, inForce', alike⟩
    have same := alike.number_eq
    rw [follows.updateInterval held inForce, follows'.updateInterval held' inForce'] at same
    exact Except.ok.inj same
  · exact switched follows.checkSyntax follows'.checkSyntax
  · exact switched follows.metrics follows'.metrics
  · rintro ⟨held, held', inForce, inForce', alike⟩
    have same := alike.wording?_eq
    rw [follows.logDirectory held inForce, follows'.logDirectory held' inForce'] at same
    exact Option.some.inj same
  · rintro ⟨held, held', inForce, inForce', alike⟩ fallback
    have names : default.surface = default'.surface →
        Wording.text (surfaceName default.surface) = .text (surfaceName default'.surface) :=
      fun same => by rw [same]
    rw [follows.surface held inForce, follows'.surface held' inForce', (alike.mono names).wording?_eq]
    rcases fallback with ⟨held₁, u, inForce₁, named⟩ | same
    · -- A name that is that of a surface leaves no room for the defaults.
      rw [inForce₁.unique inForce, (alike.mono names).wording?_eq] at named
      rw [named, Option.getD_some, Option.getD_some]
    · rw [same]

/--
Settings go by priority alone. Choosing fails exactly if what is in force for the update interval is no
number, or what is in force for the log directory or the surface, or a phrase that the file lists, holds a
number too long to be written. What is chosen follows what is in force, names a known surface, and has as
phrases the defaults or plain forms of what the file lists. Another run, with any other sources and
defaults, agrees on each setting for which the same is in force.
-/
theorem choices_by_priority (default : Choices) (s : Sources) (isMap : IsMap s.file) :
    ((∃ f, s.choices default = .error f) ↔
      s.Unread .updateInterval ∨ s.Unwritten .logDirectory ∨ s.Unwritten .surface ∨
        ∃ e, s.Lists e ∧ s.file.HoldsLong e) ∧
    ∀ c, s.choices default = .ok c →
      Follows default s c ∧
      surfaceName c.surface ∈ (["textual", "console", "auto"] : List Text) ∧
      (∀ w ∈ c.extraPhrases,
        w ∈ default.extraPhrases ∨ ∃ e, s.Lists e ∧ s.file.plain? e = some w) ∧
      ∀ default' s' c', IsMap s'.file → s'.choices default' = .ok c' →
        Agree default default' s s' c c' := by
  refine ⟨exists_choices_eq_error_iff isMap, fun c chosen => ?_⟩
  have follows := follows_of_choices isMap chosen
  refine ⟨follows, ?_, ?_, ?_⟩
  · cases c.surface <;> decide
  · obtain ⟨-, -, -, -, -, -, phrases⟩ := choices_eq_ok_iff.mp chosen
    exact fun w mem => of_mem_phrases isMap phrases mem
  · intro default' s' c' isMap' chosen'
    exact agree_of_follows follows (follows_of_choices isMap' chosen')

/-- A file with a log directory that is a list, and a variable with a name of no surface. -/
def listedDirectory : Sources where
  environment := [("UDIFF_REVIEW_UI", "gui")]
  file := .ofValue (.map [("log_dir", .list [.int 1, .text "a"]), ("review_ui", .text "textual")])

/-- The same directory in a file with other keys, and another surface where it is not in force. -/
def renumberedDirectory : Sources where
  environment := [("UDIFF_METRICS", "TRUE"), ("UDIFF_REVIEW_UI", "gui")]
  file := .ofValue (.map [("review_ui", .text "auto"), ("metrics", .bool false),
    ("log_dir", .list [.int 1, .text "a"])])

private theorem sameValue_listed : listedDirectory.file.SameValue renumberedDirectory.file 2 4 := by
  refine ⟨fun n m => n < 3 ∧ m = n + 2, .of_biUnique ⟨?_, ?_⟩ ?_, by decide⟩
  · rintro a b c ⟨-, rfl⟩ ⟨-, same⟩
    omega
  · rintro a b c ⟨-, rfl⟩ ⟨-, rfl⟩
    rfl
  · rintro n m ⟨low, rfl⟩
    match n, low with
    | 0, _ => exact .single _
    | 1, _ => exact .single _
    | 2, _ => exact .list (.cons (by decide) (.cons (by decide) .nil))

private theorem sets_listed : listedDirectory.Sets "log_dir" 2 := by
  have part : listedDirectory.file.part 2 = .list [0, 1] := by rfl
  exact ⟨by rfl, by simp [part]⟩

private theorem sets_renumbered : renumberedDirectory.Sets "log_dir" 4 := by
  have part : renumberedDirectory.file.part 4 = .list [2, 3] := by rfl
  exact ⟨by rfl, by simp [part]⟩

/-- Neither other keys nor other defaults nor a value below a variable with no sense make a difference. -/
theorem choices_by_priority_listed :
    IsMap listedDirectory.file ∧ IsMap renumberedDirectory.file ∧
      ∃ c c', listedDirectory.choices .builtIn = .ok c ∧
        renumberedDirectory.choices { Choices.builtIn with logDirectory := .text "logs" } = .ok c' ∧
        c.logDirectory = .text "[1, 'a']" ∧ c.logDirectory = c'.logDirectory ∧
        c.surface = .console ∧ c.surface = c'.surface := by
  let c : Choices := { Choices.builtIn with logDirectory := .text "[1, 'a']" }
  have isMap : IsMap listedDirectory.file := ⟨_, by rfl⟩
  have isMap' : IsMap renumberedDirectory.file := ⟨_, by rfl⟩
  have chosen : listedDirectory.choices .builtIn = .ok c := by decide +kernel
  have chosen' :
      renumberedDirectory.choices { Choices.builtIn with logDirectory := .text "logs" } = .ok c := by
    decide +kernel
  have agree := ((choices_by_priority .builtIn _ isMap).2 c chosen).2.2.2 _ _ c isMap' chosen'
  have logs := agree.logDirectory
    ⟨_, _, .part (by decide) sets_listed, .part (by decide) sets_renumbered, .part sameValue_listed⟩
  have surface := agree.surface ⟨_, _, .text (by rfl), .text (by rfl), .text "gui"⟩ (.inr rfl)
  exact ⟨isMap, isMap', c, c, chosen, chosen', rfl, logs, rfl, surface⟩

def longDirectory : Sources where
  environment := []
  file := .ofValue (.map [("log_dir", .int (.ofNat (Nat.pow 10 4300)))])

def unknownSurface : Sources where
  environment := []
  file := .ofValue (.map [("review_ui", .text "gui")])

/-- Not only the interval can be refused, and a name of no surface leaves the default to decide. -/
theorem choices_beyond_priority :
    (IsMap longDirectory.file ∧
      ¬ ((∃ f, longDirectory.choices .builtIn = .error f) ↔ longDirectory.Unread .updateInterval)) ∧
    IsMap unknownSurface.file ∧ (∃ n, unknownSurface.InForce .surface (.part n)) ∧
      ∃ c c', unknownSurface.choices .builtIn = .ok c ∧
        unknownSurface.choices { Choices.builtIn with surface := .viewer } = .ok c' ∧
        c.surface ≠ c'.surface := by
  have isMap : IsMap longDirectory.file := ⟨_, by rfl⟩
  have fails : longDirectory.choices .builtIn = .error .longNumber := by decide +kernel
  have interval : longDirectory.number .updateInterval 8 = .ok 8 := by rfl
  refine ⟨⟨isMap, fun only => ?_⟩, ⟨_, by rfl⟩, ⟨0, ?_⟩, ?_⟩
  · obtain ⟨f, unread⟩ := (exists_number_eq_error_iff isMap 8).mpr (only.mp ⟨_, fails⟩)
    cases interval.symm.trans unread
  · have part : unknownSurface.file.part 0 = .single (.atom (.text "gui")) := by rfl
    exact .part (by decide) ⟨by rfl, by simp [part]⟩
  · refine ⟨.builtIn, { Choices.builtIn with surface := .viewer }, ?_, ?_, by decide⟩
    · decide +kernel
    · decide +kernel

end Redline.Settings
