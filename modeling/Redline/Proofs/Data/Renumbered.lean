import Mathlib.Data.List.Forall2
import Redline.Proofs.Data.Written

set_option autoImplicit false
set_option relaxedAutoImplicit false

/-!
The same value in two documents. The numbers of the parts of a value, how far its parts are shared, and
whatever else a document holds do not matter: values whose parts correspond have the same plain form. Only
what stands inside itself must do so in both documents, since it is shown by dots there.
-/

namespace Redline.Data

open Relation (TransGen)

inductive Part.Alike (r : Nat → Nat → Prop) : Part → Part → Prop
  | single (s : Scalar) : Alike r (.single s) (.single s)
  | list {ns ms : List Nat} : List.Forall₂ r ns ms → Alike r (.list ns) (.list ms)
  | map {es es' : List (Scalar × Nat)} :
      List.Forall₂ (fun e e' => e.1 = e'.1 ∧ r e.2 e'.2) es es' → Alike r (.map es) (.map es')
  | set (ms : List Scalar) : Alike r (.set ms) (.set ms)
  | pairs {es es' : List (Nat × Nat)} :
      List.Forall₂ (fun e e' => r e.1 e'.1 ∧ r e.2 e'.2) es es' → Alike r (.pairs es) (.pairs es')

inductive Element.Alike (r : Nat → Nat → Prop) : Element → Element → Prop
  | part {n m : Nat} : r n m → Alike r (.part n) (.part m)
  | pair {n m : Nat} (place : Nat) : r n m → Alike r (.pair n place) (.pair m place)

/-- Whether an element stands in another, however deep. -/
def Document.Inside (d : Document) (m e : Element) : Prop := TransGen (fun a b => b ∈ d.members a) e m

/--
Whether parts of two documents that correspond are alike, and so are the parts in them. What stands inside
itself in one document does so in the other.
-/
structure Document.Corresponds (d d' : Document) (r : Nat → Nat → Prop) : Prop where
  alike : ∀ {n m : Nat}, r n m → (d.part n).Alike r (d'.part m)
  returns : ∀ {e e' m m' : Element}, e.Alike r e' → m.Alike r m' → d.Inside m e → d'.Inside m' e' →
    (m = e ↔ m' = e')

/-- Whether the value at a number in one document is the value at a number in another. -/
def Document.SameValue (d d' : Document) (n m : Nat) : Prop := ∃ r, d.Corresponds d' r ∧ r n m

/-- Whether elements stand in elements that are alike, one by one. -/
def Document.Around (d d' : Document) (r : Nat → Nat → Prop) (m m' : Element) :
    List Element → List Element → Prop :=
  List.Forall₂ fun e e' => e.Alike r e' ∧ d.Inside m e ∧ d'.Inside m' e'

variable {r : Nat → Nat → Prop} {d d' : Document} {n m : Nat}

theorem Part.Alike.isTrue_eq {p p' : Part} (alike : p.Alike r p') : p.isTrue = p'.isTrue := by
  cases alike with
  | single s => rfl
  | list each => cases each <;> rfl
  | map each => cases each <;> rfl
  | set ms => rfl
  | pairs each => cases each <;> rfl

private theorem Element.Alike.biUnique (oneToOne : Relator.BiUnique r) :
    Relator.BiUnique (Element.Alike r) := by
  constructor
  · intro a b c first second
    cases first with
    | part here =>
      cases second with
      | part there => rw [oneToOne.1 here there]
    | pair place here =>
      cases second with
      | pair _ there => rw [oneToOne.1 here there]
  · intro a b c first second
    cases first with
    | part here =>
      cases second with
      | part there => rw [oneToOne.2 here there]
    | pair place here =>
      cases second with
      | pair _ there => rw [oneToOne.2 here there]

private theorem mapM_eq_of_forall₂ {α β γ : Type} {rel : α → β → Prop} {f : α → Option γ} {g : β → Option γ}
    {as : List α} {bs : List β} (each : List.Forall₂ rel as bs)
    (same : ∀ a ∈ as, ∀ b ∈ bs, rel a b → f a = g b) : as.mapM f = bs.mapM g := by
  induction each with
  | nil => rfl
  | cons first _ ih =>
    have rest := ih fun a mem b mem' => same a (.tail _ mem) b (.tail _ mem')
    rw [List.mapM_cons, List.mapM_cons, same _ (.head _) _ (.head _) first, rest]

private theorem forall₂_zipIdx {α β : Type} {rel : α → β → Prop} {as : List α} {bs : List β}
    (each : List.Forall₂ rel as bs) (k : Nat) :
    List.Forall₂ (fun a b => rel a.1 b.1 ∧ a.2 = b.2) (as.zipIdx k) (bs.zipIdx k) := by
  induction each generalizing k with
  | nil => exact .nil
  | cons first _ ih => exact .cons ⟨first, rfl⟩ (ih (k + 1))

namespace Document

private theorem pairInner?_eq {show? show?' : List Element → Nat → Option Text}
    {within within' : List Element}
    {place : Nat} {entry entry' : Nat × Nat}
    (shown : within.elem (.pair n place) = within'.elem (.pair m place))
    (first : show? (.pair n place :: within) entry.1 = show?' (.pair m place :: within') entry'.1)
    (second : show? (.pair n place :: within) entry.2 = show?' (.pair m place :: within') entry'.2) :
    pairInner? show? within n place entry = pairInner? show?' within' m place entry' := by
  simp only [pairInner?, shown, first, second]

theorem Corresponds.of_biUnique (oneToOne : Relator.BiUnique r)
    (alike : ∀ {n m : Nat}, r n m → (d.part n).Alike r (d'.part m)) : d.Corresponds d' r := by
  refine ⟨alike, fun {e e' m m'} outer inner _ _ => ?_⟩
  have unique := Element.Alike.biUnique oneToOne
  constructor
  · rintro rfl
    exact unique.2 inner outer
  · rintro rfl
    exact unique.1 inner outer

section Around

variable {within within' : List Element} {e e' k k' : Element}

private theorem Corresponds.elem_eq (corresponds : d.Corresponds d' r) (alike : e.Alike r e')
    (around : d.Around d' r e e' within within') : within.elem e = within'.elem e' := by
  have same : e ∈ within ↔ e' ∈ within' := by
    induction around with
    | nil => simp
    | cons first _ ih =>
      obtain ⟨outer, inside, inside'⟩ := first
      rw [List.mem_cons, List.mem_cons, corresponds.returns outer alike inside inside', ih]
  rw [List.elem_eq_mem, List.elem_eq_mem, decide_eq_decide]
  exact same

private theorem Around.cons (around : d.Around d' r e e' within within') (alike : e.Alike r e')
    (mem : k ∈ d.members e) (mem' : k' ∈ d'.members e') :
    d.Around d' r k k' (e :: within) (e' :: within') := by
  refine List.Forall₂.cons ⟨alike, .single mem, .single mem'⟩ (around.imp fun x x' outer => ?_)
  obtain ⟨alike, inside, inside'⟩ := outer
  exact ⟨alike, inside.tail mem, inside'.tail mem'⟩

end Around

private theorem Corresponds.innerWithin?_eq (corresponds : d.Corresponds d' r) {fuel fuel' : Nat}
    {within within' : List Element} (around : d.Around d' r (.part n) (.part m) within within')
    (enough : d.unshown within < fuel) (enough' : d'.unshown within' < fuel') (related : r n m) :
    d.innerWithin? fuel within n = d'.innerWithin? fuel' within' m := by
  induction fuel generalizing fuel' within within' n m with
  | zero => omega
  | succ fuel ih =>
    obtain ⟨fuel', rfl⟩ : ∃ k, fuel' = k + 1 := ⟨fuel' - 1, by omega⟩
    have shown := corresponds.elem_eq (.part related) around
    have alike := corresponds.alike related
    rw [innerWithin?, innerWithin?, ← shown]
    have fewer (some : d.part n ≠ .single .null) (fresh : ¬ within.elem (.part n) = true) :
        d.unshown (.part n :: within) < fuel :=
      unshown_cons_part some (by simpa using fresh) enough
    have fewer' (some : d'.part m ≠ .single .null) (fresh : ¬ within.elem (.part n) = true) :
        d'.unshown (.part m :: within') < fuel' := by
      rw [shown] at fresh
      exact unshown_cons_part some (by simpa using fresh) enough'
    have deeper {k k' : Element} (mem : k ∈ d.members (.part n)) (mem' : k' ∈ d'.members (.part m)) :=
      around.cons (.part related) mem mem'
    generalize part : d.part n = p, part' : d'.part m = p' at alike fewer fewer' ⊢
    cases alike with
    | single s => rfl
    | set ms => rfl
    | list each =>
      simp only
      split
      · rfl
      · rename_i fresh
        refine congrArg (Option.map _) (mapM_eq_of_forall₂ each fun a mem b mem' pair => ?_)
        have inside := deeper (mem_members_list part mem) (mem_members_list part' mem')
        exact ih inside (fewer (by simp) fresh) (fewer' (by simp) fresh) pair
    | map each =>
      simp only
      split
      · rfl
      · rename_i fresh
        refine congrArg (Option.map _) (mapM_eq_of_forall₂ each fun e mem e' mem' pair => ?_)
        have inside := deeper (mem_members_map part mem) (mem_members_map part' mem')
        have value := ih inside (fewer (by simp) fresh) (fewer' (by simp) fresh) pair.2
        rw [pair.1, value]
    | pairs each =>
      simp only
      split
      · rfl
      · rename_i fresh
        refine congrArg (Option.map _) (mapM_eq_of_forall₂ (forall₂_zipIdx each 0) ?_)
        rintro ⟨e, i⟩ mem ⟨e', _⟩ mem' ⟨⟨first, second⟩, rfl⟩
        have found := List.mem_zipIdx_iff_getElem?.mp mem
        have found' := List.mem_zipIdx_iff_getElem?.mp mem'
        have inside := deeper (mem_members_pairs part found) (mem_members_pairs part' found')
        have both := members_pair part found
        have both' := members_pair part' found'
        -- A pair takes no fuel of its own.
        have enough : d.unshown (.pair n i :: .part n :: within) < fuel := by
          rw [unshown_cons_pair]
          exact fewer (by simp) fresh
        have enough' : d'.unshown (.pair m i :: .part m :: within') < fuel' := by
          rw [unshown_cons_pair]
          exact fewer' (by simp) fresh
        have deepest {k k' : Nat} (mem : .part k ∈ d.members (.pair n i))
            (mem' : .part k' ∈ d'.members (.pair m i)) (related' : r k k') :=
          ih (inside.cons (.pair i related) mem mem') enough enough' related'
        exact pairInner?_eq (corresponds.elem_eq (.pair i related) inside)
          (deepest (by simp [both]) (by simp [both']) first)
          (deepest (by simp [both]) (by simp [both']) second)

theorem SameValue.plain?_eq (same : d.SameValue d' n m) :
    d.plain? (.part n) = d'.plain? (.part m) := by
  obtain ⟨r, corresponds, related⟩ := same
  have inner := corresponds.innerWithin?_eq List.Forall₂.nil (unshown_nil_lt_depth d)
    (unshown_nil_lt_depth d') related
  have alike := corresponds.alike related
  rw [plain?, plain?, inner]
  generalize d.part n = p, d'.part m = p' at alike ⊢
  cases alike <;> rfl

end Document

end Redline.Data
