set_option autoImplicit false
set_option relaxedAutoImplicit false

/-!
Outcomes: computations that give a value or an error. A chain of them succeeds exactly when each of
its links does.
-/

namespace Redline

variable {ε α β : Type}

theorem bind_eq_ok_iff {x : Except ε α} {f : α → Except ε β} {b : β} :
    (x >>= f) = .ok b ↔ ∃ a, x = .ok a ∧ f a = .ok b := by
  cases x with
  | error e => simp [bind, Except.bind]
  | ok a => simp [bind, Except.bind]

theorem map_eq_ok_iff {x : Except ε α} {f : α → β} {b : β} :
    x.map f = .ok b ↔ ∃ a, x = .ok a ∧ f a = b := by
  cases x with
  | error e => simp [Except.map]
  | ok a => simp [Except.map]

theorem bind_eq_error_iff {x : Except ε α} {f : α → Except ε β} {e : ε} :
    (x >>= f) = .error e ↔ x = .error e ∨ ∃ a, x = .ok a ∧ f a = .error e := by
  cases x with
  | error e' => simp [bind, Except.bind]
  | ok a => simp [bind, Except.bind]

theorem map_eq_error_iff {x : Except ε α} {f : α → β} {e : ε} :
    x.map f = .error e ↔ x = .error e := by
  cases x with
  | error e' => simp [Except.map]
  | ok a => simp [Except.map]

theorem functorMap_eq_ok_iff {x : Except ε α} {f : α → β} {b : β} :
    f <$> x = .ok b ↔ ∃ a, x = .ok a ∧ f a = b :=
  map_eq_ok_iff

@[simp]
theorem mapError_ok {ε' : Type} (a : α) (f : ε → ε') :
    (Except.ok a : Except ε α).mapError f = .ok a := rfl

@[simp]
theorem mapError_error {ε' : Type} (e : ε) (f : ε → ε') :
    (Except.error e : Except ε α).mapError f = .error (f e) := rfl

theorem mapError_eq_ok_iff {ε' : Type} {x : Except ε α} {f : ε → ε'} {a : α} :
    x.mapError f = .ok a ↔ x = .ok a := by
  cases x with
  | error e => simp
  | ok b => simp

theorem mapError_eq_error_iff {ε' : Type} {x : Except ε α} {f : ε → ε'} {e' : ε'} :
    x.mapError f = .error e' ↔ ∃ e, x = .error e ∧ f e = e' := by
  cases x with
  | error e => simp
  | ok b => simp

theorem pure_eq_ok_iff {a b : α} : (pure a : Except ε α) = .ok b ↔ a = b := by
  simp [pure, Except.pure]

theorem exists_eq_error_iff {x : Except ε α} : (∃ e, x = .error e) ↔ ∀ a, x ≠ .ok a := by
  cases x <;> simp

theorem exists_bind_eq_error_iff {x : Except ε α} {f : α → Except ε β} {fails : Prop}
    (rest : ∀ a, (∃ e, f a = .error e) ↔ fails) :
    (∃ e, (x >>= f) = .error e) ↔ (∃ e, x = .error e) ∨ fails := by
  cases x with
  | error e => simp [bind, Except.bind]
  | ok a => simpa [bind, Except.bind] using rest a

theorem mapM_eq_none_iff {f : α → Option β} {as : List α} :
    as.mapM f = none ↔ ∃ a ∈ as, f a = none := by
  induction as with
  | nil => simp
  | cons a as ih =>
    simp only [List.mapM_cons, List.mem_cons, exists_eq_or_imp, ← ih]
    cases f a <;> cases as.mapM f <;> simp

theorem exists_mapM_eq_error_iff {f : α → Except ε β} {as : List α} :
    (∃ e, as.mapM f = .error e) ↔ ∃ a ∈ as, ∃ e, f a = .error e := by
  induction as with
  | nil => simp [pure, Except.pure]
  | cons a as ih =>
    simp only [List.mapM_cons, List.mem_cons, exists_eq_or_imp, ← ih]
    cases f a <;> cases as.mapM f <;> simp [bind, Except.bind, pure, Except.pure]

theorem exists_of_mem_mapM {f : α → Except ε β} {as : List α} {bs : List β} {b : β}
    (made : as.mapM f = .ok bs) (mem : b ∈ bs) : ∃ a ∈ as, f a = .ok b := by
  induction as generalizing bs with
  | nil =>
    obtain rfl : [] = bs := by simpa [pure, Except.pure] using made
    cases mem
  | cons a as ih =>
    rw [List.mapM_cons] at made
    obtain ⟨first, here, made⟩ := bind_eq_ok_iff.mp made
    obtain ⟨others, below, made⟩ := bind_eq_ok_iff.mp made
    obtain rfl := pure_eq_ok_iff.mp made
    rcases List.mem_cons.mp mem with rfl | mem
    · exact ⟨a, List.mem_cons_self, here⟩
    · obtain ⟨a', mem', makes⟩ := ih below mem
      exact ⟨a', List.mem_cons_of_mem a mem', makes⟩

/-- Whether two computations fail with the same error or both give values, which are related. -/
inductive Concur (r : α → β → Prop) : Except ε α → Except ε β → Prop
  | error (e : ε) : Concur r (.error e) (.error e)
  | ok {a : α} {b : β} : r a b → Concur r (.ok a) (.ok b)

theorem Concur.of_eq {x y : Except ε α} (same : x = y) : Concur (· = ·) x y := by
  subst same
  cases x with
  | error e => exact .error e
  | ok a => exact .ok rfl

theorem Concur.mapError {ε' : Type} {r : α → β → Prop} {x : Except ε α} {y : Except ε β}
    (concur : Concur r x y) (f : ε → ε') : Concur r (x.mapError f) (y.mapError f) := by
  cases concur with
  | error e => exact .error (f e)
  | ok related => exact .ok related

theorem Concur.map {α' β' : Type} {r : α → β → Prop} {r' : α' → β' → Prop} {x : Except ε α}
    {y : Except ε β} {f : α → α'} {g : β → β'} (concur : Concur r x y)
    (next : ∀ a b, r a b → r' (f a) (g b)) : Concur r' (x.map f) (y.map g) := by
  cases concur with
  | error e => exact .error e
  | ok related => exact .ok (next _ _ related)

theorem Concur.bind {α' β' : Type} {r : α → β → Prop} {r' : α' → β' → Prop} {x : Except ε α}
    {y : Except ε β} {f : α → Except ε α'} {g : β → Except ε β'} (concur : Concur r x y)
    (next : ∀ a b, r a b → Concur r' (f a) (g b)) : Concur r' (x >>= f) (y >>= g) := by
  cases concur with
  | error e => exact .error e
  | ok related => exact next _ _ related

end Redline
