import Redline.Proofs.Text.Trim
import Redline.Write.Framing

set_option autoImplicit false
set_option relaxedAutoImplicit false

/-!
Entities. Decoding them in one pass is replacing one after the other, each throughout the text: no
replacement makes or breaks an entity. Decoding undoes escaping where no entity stands in the text before.
-/

namespace Redline.Write

open Text (isBlank startsWith)

/-- The entities in the order in which they are replaced, each with the character it stands for. -/
def entities : List (Text × Char) := [("&gt;", '>'), ("&lt;", '<'), ("&quot;", '"')]

/-- A text in which each occurrence of `p`, found from the left, is replaced by `r`. -/
def replaceEach (p r : Text) : Text → Text
  | [] => []
  | c :: t =>
    if startsWith (c :: t) p then r ++ replaceEach p r (t.drop (p.length - 1))
    else c :: replaceEach p r t
termination_by t => t.length

/-- A text in which one entity after the other is replaced by its character. -/
def decodeInTurn (t : Text) : Text := entities.foldl (fun t e => replaceEach e.1 [e.2] t) t

def escapeChar : Char → Text
  | '<' => "&lt;"
  | '>' => "&gt;"
  | '"' => "&quot;"
  | c => [c]

/-- Writes angle brackets and quotes as entities. -/
def escape (t : Text) : Text := Text.expand escapeChar t

/-- Whether a character can stand within an entity, but neither begin one nor be what one stands for. -/
def IsInner (c : Char) : Prop := c ≠ '&' ∧ ∀ e ∈ entities, c ≠ e.2

instance (c : Char) : Decidable (IsInner c) := inferInstanceAs (Decidable (_ ∧ _))

private theorem inner_of_entity :
    ∀ e ∈ entities, e.1 = '&' :: e.1.tail ∧ ∀ c ∈ e.1.tail, IsInner c := by
  have table : ∀ e ∈ entities,
      e.1 = '&' :: e.1.tail ∧ e.1.tail.all (fun c => decide (IsInner c)) = true := by
    decide
  intro e mem
  obtain ⟨split, inner⟩ := table e mem
  exact ⟨split, fun c inTail => of_decide_eq_true (List.all_eq_true.mp inner c inTail)⟩

private theorem not_blank_of_entity :
    ∀ e ∈ entities, isBlank e.2 = false ∧ ∀ c ∈ e.1, isBlank c = false := by
  have table : ∀ e ∈ entities, isBlank e.2 = false ∧ e.1.all (fun c => !isBlank c) = true := by
    decide
  intro e mem
  obtain ⟨char, text⟩ := table e mem
  exact ⟨char, fun c inText => by simpa using List.all_eq_true.mp text c inText⟩

variable {e : Text × Char} {c : Char} {q t : Text}

private theorem replaceEach_cons_of_absent {p r : Text} (none : ¬ p <+: c :: t) :
    replaceEach p r (c :: t) = c :: replaceEach p r t := by
  have unstarted : startsWith (c :: t) p ≠ true := mt List.isPrefixOf_iff_prefix.mp none
  rw [replaceEach, if_neg unstarted]

private theorem prefix_of_prefix_replaceEach (mem : e ∈ entities) (inner : ∀ d ∈ q, IsInner d)
    (start : q <+: replaceEach e.1 [e.2] t) : q <+: t := by
  induction q generalizing t with
  | nil => exact List.nil_prefix
  | cons d q ih =>
    obtain ⟨first, others⟩ := List.forall_mem_cons.mp inner
    cases t with
    | nil => simp [replaceEach] at start
    | cons c t =>
      rw [replaceEach] at start
      split at start
      · have head := (List.cons_prefix_cons.mp start).1
        exact absurd head (first.2 e mem)
      · obtain ⟨rfl, rest⟩ := List.cons_prefix_cons.mp start
        exact List.cons_prefix_cons.mpr ⟨rfl, ih others rest⟩

private theorem entity_prefix_of_inner {u : Text} (mem : e ∈ entities)
    (back : ∀ q : Text, (∀ d ∈ q, IsInner d) → q <+: u → q <+: t) (start : e.1 <+: c :: u) :
    e.1 <+: c :: t := by
  obtain ⟨split, inner⟩ := inner_of_entity e mem
  rw [split] at start ⊢
  obtain ⟨head, rest⟩ := List.cons_prefix_cons.mp start
  exact List.cons_prefix_cons.mpr ⟨head, back _ inner rest⟩

private theorem foldl_replaceEach_cons {es : List (Text × Char)} (sub : ∀ e ∈ es, e ∈ entities)
    (none : ∀ e ∈ es, ¬ e.1 <+: c :: t) :
    es.foldl (fun t e => replaceEach e.1 [e.2] t) (c :: t) =
      c :: es.foldl (fun t e => replaceEach e.1 [e.2] t) t := by
  induction es generalizing t with
  | nil => rfl
  | cons e es ih =>
    obtain ⟨isEntity, sub⟩ := List.forall_mem_cons.mp sub
    obtain ⟨here, later⟩ := List.forall_mem_cons.mp none
    rw [List.foldl_cons, List.foldl_cons, replaceEach_cons_of_absent here]
    refine ih sub fun e' mem start => later e' mem ?_
    exact entity_prefix_of_inner (sub e' mem)
      (fun _ inner => prefix_of_prefix_replaceEach isEntity inner) start

private theorem decodeInTurn_cons (none : ∀ e ∈ entities, ¬ e.1 <+: c :: t) :
    decodeInTurn (c :: t) = c :: decodeInTurn t :=
  foldl_replaceEach_cons (fun _ mem => mem) none

private theorem decodeInTurn_entity (mem : e ∈ entities) (t : Text) :
    decodeInTurn (e.1 ++ t) = e.2 :: decodeInTurn t := by
  simp only [entities, List.mem_cons, List.not_mem_nil, or_false] at mem
  rcases mem with rfl | rfl | rfl <;>
    simp [decodeInTurn, entities, replaceEach, startsWith, List.isPrefixOf]

theorem decodeEntities_eq (t : Text) : decodeEntities t = decodeInTurn t := by
  fun_induction decodeEntities t with
  | case1 => simp [decodeInTurn, entities, replaceEach]
  | case2 t ih => rw [ih]; exact (decodeInTurn_entity (e := ("&gt;", '>')) (by decide) t).symm
  | case3 t ih => rw [ih]; exact (decodeInTurn_entity (e := ("&lt;", '<')) (by decide) t).symm
  | case4 t ih => rw [ih]; exact (decodeInTurn_entity (e := ("&quot;", '"')) (by decide) t).symm
  | case5 c t notGt notLt notQuot ih =>
    rw [ih]
    refine (decodeInTurn_cons ?_).symm
    intro e mem start
    simp only [entities, List.mem_cons, List.not_mem_nil, or_false] at mem
    obtain ⟨rest, eq⟩ := start
    rcases mem with rfl | rfl | rfl
    · obtain ⟨head, tail⟩ := List.cons.inj eq
      exact notGt rest head.symm tail.symm
    · obtain ⟨head, tail⟩ := List.cons.inj eq
      exact notLt rest head.symm tail.symm
    · obtain ⟨head, tail⟩ := List.cons.inj eq
      exact notQuot rest head.symm tail.symm

private theorem escapeChar_eq (c : Char) :
    escapeChar c = [c] ∨ ∃ e ∈ entities, e.2 = c ∧ escapeChar c = e.1 := by
  unfold escapeChar
  split
  · exact .inr ⟨("&lt;", '<'), by decide, rfl, rfl⟩
  · exact .inr ⟨("&gt;", '>'), by decide, rfl, rfl⟩
  · exact .inr ⟨("&quot;", '"'), by decide, rfl, rfl⟩
  · exact .inl rfl

private theorem escape_cons (c : Char) (t : Text) : escape (c :: t) = escapeChar c ++ escape t := rfl

private theorem prefix_of_prefix_escape (inner : ∀ d ∈ q, IsInner d) (start : q <+: escape t) :
    q <+: t := by
  induction q generalizing t with
  | nil => exact List.nil_prefix
  | cons d q ih =>
    obtain ⟨first, others⟩ := List.forall_mem_cons.mp inner
    cases t with
    | nil => exact start
    | cons c t =>
      rw [escape_cons] at start
      rcases escapeChar_eq c with plain | ⟨e, mem, -, entity⟩
      · rw [plain] at start
        obtain ⟨rfl, rest⟩ := List.cons_prefix_cons.mp start
        exact List.cons_prefix_cons.mpr ⟨rfl, ih others rest⟩
      · rw [entity, (inner_of_entity e mem).1] at start
        have head := (List.cons_prefix_cons.mp start).1
        exact absurd head first.1

theorem decodeInTurn_escape (free : ∀ e ∈ entities, ¬ e.1 <:+: t) :
    decodeInTurn (escape t) = t := by
  induction t with
  | nil => simp [escape, Text.expand, decodeInTurn, entities, replaceEach]
  | cons c t ih =>
    have rest := ih fun e mem inside => free e mem (List.infix_cons inside)
    rw [escape_cons]
    rcases escapeChar_eq c with plain | ⟨e, mem, rfl, entity⟩
    · have none : ∀ e ∈ entities, ¬ e.1 <+: c :: escape t := fun e mem start =>
        free e mem (entity_prefix_of_inner mem (fun _ => prefix_of_prefix_escape) start).isInfix
      rw [plain, List.singleton_append, decodeInTurn_cons none, rest]
    · rw [entity, decodeInTurn_entity mem, rest]

theorem keepsBlanks_escapeChar : Text.KeepsBlanks escapeChar where
  blank := by
    intro c blank
    rcases escapeChar_eq c with plain | ⟨e, mem, rfl, -⟩
    · exact plain
    · rw [(not_blank_of_entity e mem).1] at blank
      cases blank
  ne_nil := by
    intro c _
    rcases escapeChar_eq c with plain | ⟨e, mem, -, entity⟩
    · simp [plain]
    · rw [entity, (inner_of_entity e mem).1]
      simp
  solid := by
    intro c solid d inChar
    rcases escapeChar_eq c with plain | ⟨e, mem, -, entity⟩
    · rw [plain] at inChar
      rwa [List.mem_singleton.mp inChar]
    · rw [entity] at inChar
      exact (not_blank_of_entity e mem).2 d inChar

end Redline.Write
