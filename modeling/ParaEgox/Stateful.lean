import ParaEgox.Check

/-!
# Stateful — fallible computations that keep the state they reached

A method on `&mut self` that returns early with an error leaves behind whatever it had already changed.  `Ends` is its
total contract: from this state the computation returns a value, and the value and the state it leaves satisfy the
postcondition.
-/

def Stateful (σ ε α : Type) := σ → Except ε α × σ

namespace Stateful

variable {σ ε α β : Type}

/-- What follows a computation: its continuation from the state it left, or its error. -/
def follow (f : α → Stateful σ ε β) : Except ε α × σ → Except ε β × σ
  | (.ok a, s) => f a s
  | (.error e, s) => (.error e, s)

instance : Monad (Stateful σ ε) where
  pure a := fun s => (.ok a, s)
  bind x f := fun s => follow f (x s)

def self : Stateful σ ε σ := fun s => (.ok s, s)

def update (f : σ → σ) : Stateful σ ε Unit := fun s => (.ok (), f s)

/-- The `?` on a fallible value. -/
def lift (x : Except ε α) : Stateful σ ε α := fun s => (x, s)

/-- The computation returns, and what it returns and leaves satisfies the postcondition. -/
def Ends (x : Stateful σ ε α) (s : σ) (Q : α → σ → Prop) : Prop := ∃ a s', x s = (.ok a, s') ∧ Q a s'

variable {x : Stateful σ ε α} {f : α → Stateful σ ε β} {s s' : σ} {Q : α → σ → Prop} {R : β → σ → Prop} {a : α}
  {I : σ → Prop} {E : ε → σ → Prop}

theorem Ends.bind (hx : Ends x s Q) (hf : ∀ a s', Q a s' → Ends (f a) s' R) : Ends (x >>= f) s R := by
  obtain ⟨a, s', hrun, hq⟩ := hx
  obtain ⟨b, s'', hrun', hr⟩ := hf a s' hq
  refine ⟨b, s'', ?_, hr⟩
  change follow f (x s) = _
  rw [hrun]
  exact hrun'

theorem Ends.mono {R : α → σ → Prop} (hx : Ends x s Q) (h : ∀ a s', Q a s' → R a s') : Ends x s R := by
  obtain ⟨a, s', hrun, hq⟩ := hx
  exact ⟨a, s', hrun, h a s' hq⟩

theorem ends_pure (h : Q a s) : Ends (pure a : Stateful σ ε α) s Q := ⟨a, s, rfl, h⟩

theorem ends_bind_run {t : σ} (hx : x s = (.ok a, t)) (h : Ends (f a) t R) : Ends (x >>= f) s R :=
  Ends.bind (Q := fun b s' => b = a ∧ s' = t) ⟨a, t, hx, rfl, rfl⟩ fun b s' hbt => by rw [hbt.1, hbt.2]; exact h

theorem ends_bind_self {f : σ → Stateful σ ε β} (h : Ends (f s) s R) : Ends (self >>= f) s R :=
  ends_bind_run rfl h

theorem ends_bind_lift {x : Except ε α} (hx : x = .ok a) (h : Ends (f a) s R) : Ends (lift x >>= f) s R :=
  ends_bind_run (by rw [lift, hx]) h

theorem ends_bind_update {g : σ → σ} {f : Unit → Stateful σ ε β} (h : Ends (f ()) (g s) R) :
    Ends (update g >>= f) s R :=
  ends_bind_run rfl h

theorem ends_update {f : σ → σ} {Q : Unit → σ → Prop} (h : Q () (f s)) :
    Ends (update f : Stateful σ ε Unit) s Q := ⟨(), f s, rfl, h⟩

theorem ends_lift {x : Except ε α} (hx : x = .ok a) (h : Q a s) : Ends (lift x) s Q := ⟨a, s, by rw [lift, hx], h⟩

def Preserves (I : σ → Prop) (x : Stateful σ ε α) : Prop := ∀ s, I s → I (x s).2

theorem Preserves.bind (hx : Preserves I x) (hf : ∀ a, Preserves I (f a)) : Preserves I (x >>= f) := by
  intro s hs
  have hmid := hx s hs
  change I (follow f (x s)).2
  cases hrun : x s with
  | mk result s' =>
    rw [hrun] at hmid
    cases result with
    | error e => exact hmid
    | ok a => exact hf a s' hmid

theorem preserves_pure (a : α) : Preserves I (pure a : Stateful σ ε α) := fun _ hs => hs

theorem preserves_self : Preserves I (self : Stateful σ ε σ) := fun _ hs => hs

theorem preserves_update {f : σ → σ} (h : ∀ s, I s → I (f s)) : Preserves I (update f : Stateful σ ε Unit) := h

theorem preserves_lift (x : Except ε α) : Preserves I (lift x : Stateful σ ε α) := fun _ hs => hs

/-! ## Runs that return -/

theorem bind_run {b : β} : (x >>= f) s = (.ok b, s') ↔ ∃ a t, x s = (.ok a, t) ∧ f a t = (.ok b, s') := by
  have hrun : (x >>= f) s = follow f (x s) := rfl
  rw [hrun]
  cases hx : x s with
  | mk result t =>
    cases result with
    | error e =>
      constructor
      · intro h
        cases congrArg Prod.fst h
      · rintro ⟨a, t', h, _⟩
        cases congrArg Prod.fst h
    | ok a =>
      constructor
      · exact fun h => ⟨a, t, rfl, h⟩
      · rintro ⟨a', t', h, hf⟩
        cases h
        exact hf

theorem self_run {t : σ} : (self : Stateful σ ε σ) s = (.ok t, s') ↔ s = t ∧ s = s' := by
  constructor
  · intro h
    cases h
    exact ⟨rfl, rfl⟩
  · rintro ⟨rfl, rfl⟩
    rfl

theorem lift_run {x : Except ε α} : lift x s = (.ok a, s') ↔ x = .ok a ∧ s = s' := by
  unfold lift
  rw [Prod.mk.injEq]

theorem update_run {f : σ → σ} {u : Unit} : (update f : Stateful σ ε Unit) s = (.ok u, s') ↔ f s = s' := by
  constructor
  · intro h
    cases h
    rfl
  · rintro rfl
    rfl

theorem pure_run {b : α} : (pure a : Stateful σ ε α) s = (.ok b, s') ↔ a = b ∧ s = s' := by
  constructor
  · intro h
    cases h
    exact ⟨rfl, rfl⟩
  · rintro ⟨rfl, rfl⟩
    rfl

/-! ## Both ends -/

/-- What the computation returns and leaves satisfies the one postcondition, or its error and what it leaves the other. -/
def Leaves (x : Stateful σ ε α) (s : σ) (Q : α → σ → Prop) (E : ε → σ → Prop) : Prop :=
  match x s with
  | (.ok a, s') => Q a s'
  | (.error e, s') => E e s'

theorem leaves_bind (hx : Leaves x s Q E) (hf : ∀ a s', Q a s' → Leaves (f a) s' R E) : Leaves (x >>= f) s R E := by
  have hrun : (x >>= f) s = follow f (x s) := rfl
  unfold Leaves at hx ⊢
  rw [hrun]
  cases hxs : x s with
  | mk result s' =>
    rw [hxs] at hx
    cases result with
    | error e => exact hx
    | ok a => exact hf a s' hx

theorem Leaves.mono {R : α → σ → Prop} {F : ε → σ → Prop} (hx : Leaves x s Q E)
    (hq : ∀ a s', Q a s' → R a s') (he : ∀ e s', E e s' → F e s') : Leaves x s R F := by
  unfold Leaves at hx ⊢
  cases hxs : x s with
  | mk result s' =>
    rw [hxs] at hx
    cases result with
    | error e => exact he e s' hx
    | ok a => exact hq a s' hx

theorem leaves_pure (h : Q a s) : Leaves (pure a : Stateful σ ε α) s Q E := h

theorem leaves_self {f : σ → Stateful σ ε β} (h : Leaves (f s) s R E) : Leaves (self >>= f) s R E := h

theorem leaves_update {g : σ → σ} {f : Unit → Stateful σ ε β}
    (h : Leaves (f ()) (g s) R E) : Leaves (update g >>= f) s R E := h

theorem leaves_lift {x : Except ε α}
    (hok : ∀ a, x = .ok a → Leaves (f a) s R E) (herr : ∀ e, x = .error e → E e s) : Leaves (lift x >>= f) s R E := by
  cases x with
  | error e => exact herr e rfl
  | ok a => exact hok a rfl

theorem leaves_lift_end {x : Except ε α} (hok : ∀ a, x = .ok a → Q a s)
    (herr : ∀ e, x = .error e → E e s) : Leaves (lift x) s Q E := by
  cases x with
  | error e => exact herr e rfl
  | ok a => exact hok a rfl

theorem leaves_reject {bad : Prop} [Decidable bad] {error : ε} {f : Unit → Stateful σ ε β} {s : σ} {R : β → σ → Prop}
    {E : ε → σ → Prop} (hok : ¬ bad → Leaves (f ()) s R E) (herr : bad → E error s) :
    Leaves (lift (Check.rejectIf bad error) >>= f) s R E := by
  by_cases h : bad
  · have hreject : Check.rejectIf bad error = .error error := if_pos h
    rw [hreject]
    exact herr h
  · rw [Check.rejectIf_neg h]
    exact hok h

theorem leaves_state (I : σ → Prop) {x : Stateful σ ε α} {s : σ} {Q : α → σ → Prop} {E : ε → σ → Prop}
    (hx : Leaves x s Q E) (hq : ∀ a s', Q a s' → I s') (he : ∀ e s', E e s' → I s') : I (x s).2 := by
  unfold Leaves at hx
  cases hxs : x s with
  | mk result s' =>
    rw [hxs] at hx
    cases result with
    | error e => exact he e s' hx
    | ok a => exact hq a s' hx

end Stateful
