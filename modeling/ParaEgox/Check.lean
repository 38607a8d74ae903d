import Mathlib.Data.List.Basic
import Mathlib.Tactic.Common

/-!
# Check — sequences of early-return checks

A validator is a sequence of `if bad { return Err(e) }` steps, `?` calls and loops of them.  These are its pieces in
`Except`, with the simp set that turns "the validator accepted" into the conjunction of what it checked.
-/
namespace Check

variable {ε α β σ : Type}

/-- The early return `if bad { return Err(e) }`. -/
def rejectIf (bad : Prop) [Decidable bad] (e : ε) : Except ε Unit := if bad then .error e else .ok ()

/-- `opt.ok_or(e)?`. -/
def okOr (x : Option α) (e : ε) : Except ε α := match x with
  | none => .error e
  | some a => .ok a

def require (p : Prop) [Decidable p] (e : ε) : Except ε (PLift p) := if h : p then .ok ⟨h⟩ else .error e

/-! What a passed `require` says of a number and of a byte string. -/

theorem nonzero16 {n : UInt16} (h : PLift (n ≠ 0)) : n ≠ 0 := h.down

theorem nonzero64 {n : UInt64} (h : PLift (n ≠ 0)) : n ≠ 0 := h.down

theorem nonempty {bytes : List UInt8} (h : PLift (bytes ≠ [])) : bytes ≠ [] := h.down

theorem one16 : (1 : UInt16) ≠ 0 := by decide

theorem one32 : (1 : UInt32) ≠ 0 := by decide

theorem one64 : (1 : UInt64) ≠ 0 := by decide

theorem zero_lt_one64 : (0 : UInt64) < 1 := by decide

/-- A check made only when a value is present: `if let Some(a) = x { f(a)? }`. -/
def whenSome (x : Option α) (f : α → Except ε Unit) : Except ε Unit := match x with
  | none => .ok ()
  | some a => f a

def forEach : List α → (α → Except ε Unit) → Except ε Unit
  | [], _ => .ok ()
  | x :: xs, f => f x >>= fun _ => forEach xs f

def scan (step : σ → α → Except ε σ) : σ → List α → Except ε σ
  | s, [] => .ok s
  | s, x :: xs => step s x >>= fun s' => scan step s' xs

def collect (f : α → Except ε β) : List α → Except ε (List β)
  | [] => .ok []
  | x :: xs => do
    let y ← f x
    let ys ← collect f xs
    pure (y :: ys)

def amongEarlier (pair : α → α → Except ε Unit) (alone : α → Except ε Unit) : List α → List α → Except ε Unit
  | _, [] => .ok ()
  | before, x :: xs => do
    forEach before fun previous => pair previous x
    alone x
    amongEarlier pair alone (before ++ [x]) xs

/-- Elements offered one by one: those that were taken and the state they lead to.  A refused one changes nothing. -/
def offer (step : σ → α → Except ε σ) : σ → List α → List α × σ
  | s, [] => ([], s)
  | s, x :: xs => match step s x with
    | .ok s' => (x :: (offer step s' xs).1, (offer step s' xs).2)
    | .error _ => offer step s xs

/-- The error of a failing step is replaced: `map_err(|_| e)?`. -/
def mapErr {ε' : Type} (x : Except ε' α) (e : ε) : Except ε α := match x with
  | .error _ => .error e
  | .ok a => .ok a

/-- A lower error is wrapped: `map_err(into)?`. -/
def wrapErr {ε' : Type} (into : ε' → ε) (x : Except ε' α) : Except ε α := match x with
  | .error e => .error (into e)
  | .ok a => .ok a

@[simp] theorem exists_unit (p : Unit → Prop) : (∃ u, p u) ↔ p () :=
  ⟨fun ⟨_, h⟩ => h, fun h => ⟨(), h⟩⟩

@[simp] theorem bind_ok {x : Except ε α} {f : α → Except ε β} {b : β} :
    (x >>= f) = .ok b ↔ ∃ a, x = .ok a ∧ f a = .ok b := by
  cases x with
  | error e => simp [bind, Except.bind]
  | ok a => simp [bind, Except.bind]

variable {x : Except ε α} {f : α → Except ε β} {step : σ → α → Except ε σ} {bad e : ε}

theorem ok_bind {a : α} {b : β} (hx : x = .ok a) (hf : f a = .ok b) : (x >>= f) = .ok b :=
  bind_ok.2 ⟨a, hx, hf⟩

theorem bind_eq_of_ok {x : Except ε α} {f : α → Except ε β} {a : α} (hx : x = .ok a) : (x >>= f) = f a := by
  rw [hx]
  rfl

theorem bind_congr_ok {g : α → Except ε β} (h : ∀ a, x = .ok a → f a = g a) : (x >>= f) = (x >>= g) := by
  cases x with
  | error e => rfl
  | ok a => exact h a rfl

@[simp] theorem pure_ok {a b : α} : (pure a : Except ε α) = .ok b ↔ a = b := by
  simp [pure, Except.pure]

@[simp] theorem rejectIf_ok {bad : Prop} [Decidable bad] {e : ε} {u : Unit} :
    rejectIf bad e = .ok u ↔ ¬ bad := by
  unfold rejectIf
  split <;> simp_all

theorem rejectIf_neg {bad : Prop} [Decidable bad] {e : ε} (h : ¬ bad) : rejectIf bad e = .ok () :=
  rejectIf_ok.2 h

theorem ok_check {p : Prop} [Decidable p] {e : ε} {f : Unit → Except ε β} {b : β} (h : ¬ p) (hf : f () = .ok b) :
    (rejectIf p e >>= f) = .ok b := ok_bind (rejectIf_neg h) hf

theorem rejectIf_congr {p q : Prop} [Decidable p] [Decidable q] (e : ε) (h : p ↔ q) : rejectIf p e = rejectIf q e := by
  unfold rejectIf
  by_cases hp : p
  · rw [if_pos hp, if_pos (h.1 hp)]
  · rw [if_neg hp, if_neg fun hq => hp (h.2 hq)]

@[simp] theorem okOr_ok {x : Option α} {e : ε} {a : α} : okOr x e = .ok a ↔ x = some a := by
  cases x <;> simp [okOr]

@[simp] theorem require_ok {p : Prop} [Decidable p] {e : ε} (h : PLift p) : require p e = .ok h := by
  unfold require
  rw [dif_pos h.down]

@[simp] theorem mapErr_ok {ε' : Type} {x : Except ε' α} {e : ε} {a : α} :
    mapErr x e = .ok a ↔ x = .ok a := by
  cases x <;> simp [mapErr]

@[simp] theorem wrapErr_ok {ε' : Type} {into : ε' → ε} {x : Except ε' α} {a : α} :
    wrapErr into x = .ok a ↔ x = .ok a := by
  cases x <;> simp [wrapErr]

@[simp] theorem whenSome_ok {x : Option α} {f : α → Except ε Unit} {u : Unit} :
    whenSome x f = .ok u ↔ ∀ a, x = some a → f a = .ok () := by
  cases x <;> simp [whenSome]

@[simp] theorem forEach_ok {xs : List α} {f : α → Except ε Unit} {u : Unit} :
    forEach xs f = .ok u ↔ ∀ x ∈ xs, f x = .ok () := by
  induction xs with
  | nil => simp [forEach]
  | cons x xs ih => simp [forEach, ih]

/-- **A scan whose step only checks a relation to the state it carries accepts a list exactly when each element passes
at the state reached before it.** -/
theorem scan_ok_cons (step : σ → α → Except ε σ) (s t : σ) (x : α) (xs : List α) :
    scan step s (x :: xs) = .ok t ↔ ∃ s', step s x = .ok s' ∧ scan step s' xs = .ok t := by
  simp [scan]

theorem scan_append (step : σ → α → Except ε σ) (xs ys : List α) :
    ∀ s t, scan step s (xs ++ ys) = .ok t ↔ ∃ m, scan step s xs = .ok m ∧ scan step m ys = .ok t := by
  induction xs with
  | nil => intro s t; simp [scan]
  | cons x xs ih =>
    intro s t
    simp only [List.cons_append, scan_ok_cons, ih]
    constructor
    · rintro ⟨s', h1, m, h2, h3⟩
      exact ⟨m, ⟨s', h1, h2⟩, h3⟩
    · rintro ⟨m, ⟨s', h1, h2⟩, h3⟩
      exact ⟨s', h1, m, h2, h3⟩

theorem scan_ok_mem : ∀ {xs : List α} {s t : σ}, scan step s xs = .ok t → ∀ x ∈ xs, ∃ m m', step m x = .ok m'
  | [], _, _, _, x, hx => by cases hx
  | y :: ys, s, t, h, x, hx => by
    obtain ⟨m, hm, ht⟩ := (scan_ok_cons step s t y ys).1 h
    rcases List.mem_cons.1 hx with rfl | hx
    · exact ⟨s, m, hm⟩
    · exact scan_ok_mem ht x hx

theorem scan_mono {step' : σ → α → Except ε σ} : ∀ {xs : List α} {s t : σ},
    (∀ x ∈ xs, ∀ s s', step s x = .ok s' → step' s x = .ok s') → scan step s xs = .ok t → scan step' s xs = .ok t
  | [], _, _, _, h => h
  | x :: xs, s, t, hstep, h => by
    obtain ⟨m, hm, ht⟩ := (scan_ok_cons step s t x xs).1 h
    obtain ⟨hx, hxs⟩ := List.forall_mem_cons.1 hstep
    exact (scan_ok_cons step' s t x xs).2 ⟨m, hx s m hm, scan_mono hxs ht⟩

theorem collect_congr {g : α → Except ε β} : ∀ {xs : List α}, (∀ x ∈ xs, f x = g x) → collect f xs = collect g xs
  | [], _ => rfl
  | x :: xs, h => by
    obtain ⟨hx, hxs⟩ := List.forall_mem_cons.1 h
    rw [collect, collect, hx, collect_congr hxs]

theorem collect_map {g : α → β} : ∀ {xs : List α}, (∀ x ∈ xs, f x = .ok (g x)) → collect f xs = .ok (xs.map g)
  | [], _ => rfl
  | x :: xs, h => by
    obtain ⟨hx, hxs⟩ := List.forall_mem_cons.1 h
    exact ok_bind hx (ok_bind (collect_map hxs) rfl)

theorem collect_ok_mem : ∀ {xs : List α} {ys : List β}, collect f xs = .ok ys → ∀ x ∈ xs, ∃ y, f x = .ok y
  | [], _, _, x, hx => by cases hx
  | z :: zs, ys, h, x, hx => by
    simp only [collect, bind_ok, pure_ok] at h
    obtain ⟨y, hy, rest, hrest, _⟩ := h
    rcases List.mem_cons.1 hx with rfl | hx
    · exact ⟨y, hy⟩
    · exact collect_ok_mem hrest x hx

theorem collect_mem_ok : ∀ {xs : List α} {ys : List β}, collect f xs = .ok ys → ∀ y ∈ ys, ∃ x ∈ xs, f x = .ok y
  | [], _, h, y, hy => by
    cases h
    cases hy
  | z :: zs, ys, h, y, hy => by
    simp only [collect, bind_ok, pure_ok] at h
    obtain ⟨w, hw, rest, hrest, rfl⟩ := h
    rcases List.mem_cons.1 hy with rfl | hy
    · exact ⟨z, List.mem_cons_self, hw⟩
    · obtain ⟨x, hx, hfx⟩ := collect_mem_ok hrest y hy
      exact ⟨x, List.mem_cons_of_mem _ hx, hfx⟩

/-! ## Offers -/

theorem amongEarlier_ok {pair : α → α → Except ε Unit} {alone : α → Except ε Unit} : ∀ {xs before : List α},
    amongEarlier pair alone before xs = .ok () ↔
      (∀ a ∈ before, ∀ x ∈ xs, pair a x = .ok ()) ∧ xs.Pairwise (fun a b => pair a b = .ok ()) ∧ ∀ x ∈ xs, alone x = .ok ()
  | [], before => by simp [amongEarlier]
  | x :: xs, before => by
    have ih : amongEarlier pair alone (before ++ [x]) xs = .ok () ↔ _ := amongEarlier_ok
    simp only [amongEarlier, bind_ok, exists_unit, forEach_ok, ih, List.pairwise_cons, List.mem_append, List.mem_singleton,
      List.forall_mem_cons, or_imp, forall_and, forall_eq]
    grind

theorem offer_cons_ok {s s' : σ} {x : α} (h : step s x = .ok s') (xs : List α) :
    offer step s (x :: xs) = (x :: (offer step s' xs).1, (offer step s' xs).2) := by
  rw [offer, h]

theorem offer_cons_error {s : σ} {x : α} (h : step s x = .error e) (xs : List α) :
    offer step s (x :: xs) = offer step s xs := by
  rw [offer, h]

/-- **What was taken is a scan**: the state after an offer is the one the taken elements lead to. -/
theorem scan_offer (step : σ → α → Except ε σ) : ∀ (xs : List α) (s : σ),
    scan step s (offer step s xs).1 = .ok (offer step s xs).2
  | [], _ => rfl
  | x :: xs, s => by
    cases h : step s x with
    | error e =>
      rw [offer_cons_error h]
      exact scan_offer step xs s
    | ok s' =>
      rw [offer_cons_ok h]
      exact (scan_ok_cons ..).2 ⟨s', h, scan_offer step xs s'⟩

theorem offer_sublist (step : σ → α → Except ε σ) : ∀ (xs : List α) (s : σ), (offer step s xs).1.Sublist xs
  | [], _ => .slnil
  | x :: xs, s => by
    cases h : step s x with
    | error e =>
      rw [offer_cons_error h]
      exact (offer_sublist step xs s).cons x
    | ok s' =>
      rw [offer_cons_ok h]
      exact (offer_sublist step xs s').cons_cons x

theorem offer_append (step : σ → α → Except ε σ) (ys : List α) : ∀ (xs : List α) (s : σ),
    (offer step s (xs ++ ys)).2 = (offer step (offer step s xs).2 ys).2
  | [], _ => rfl
  | x :: xs, s => by
    rw [List.cons_append]
    cases h : step s x with
    | error e =>
      rw [offer_cons_error h, offer_cons_error h]
      exact offer_append step ys xs s
    | ok s' =>
      rw [offer_cons_ok h, offer_cons_ok h]
      exact offer_append step ys xs s'

/-! ## What a step returns -/

/-- Every value the step returns satisfies `P`. -/
def Returns (x : Except ε α) (P : α → Prop) : Prop := ∀ a, x = .ok a → P a

theorem returns_bind {P : β → Prop} (h : ∀ a, x = .ok a → Returns (f a) P) : Returns (x >>= f) P := by
  intro b hb
  obtain ⟨a, ha, hf⟩ := bind_ok.1 hb
  exact h a ha b hf

/-! ## Errors that cannot happen -/

def Avoids (bad : ε) (x : Except ε α) : Prop := x ≠ .error bad

theorem avoids_of_ok {a : α} (h : x = .ok a) : Avoids bad x := by
  rw [h]
  intro hbad
  cases hbad

theorem Avoids.ne {e : ε} (h : Avoids bad x) (hx : x = .error e) : e ≠ bad := by
  rintro rfl
  exact h hx

theorem avoids_bind (hx : Avoids bad x) (hf : ∀ a, x = .ok a → Avoids bad (f a)) : Avoids bad (x >>= f) := by
  cases x with
  | error e =>
    intro h
    have he : e = bad := Except.error.inj h
    exact hx (congrArg Except.error he)
  | ok a => exact hf a rfl

theorem avoids_rejectIf (p : Prop) [Decidable p] (h : e ≠ bad) : Avoids bad (rejectIf p e) := by
  unfold Avoids rejectIf
  split <;> simp_all

theorem avoids_check {p : Prop} [Decidable p] {f : Unit → Except ε β} (h : e ≠ bad) (hf : Avoids bad (f ())) :
    Avoids bad (rejectIf p e >>= f) := avoids_bind (avoids_rejectIf p h) fun _ _ => hf

theorem avoids_okOr (x : Option α) (h : e ≠ bad) : Avoids bad (okOr x e) := by
  cases x <;> simp_all [Avoids, okOr]

theorem avoids_wrapErr {ε' : Type} {into : ε' → ε} {x : Except ε' α} (h : ∀ e, into e = bad → Avoids e x) :
    Avoids bad (wrapErr into x) := by
  cases x with
  | error e =>
    intro hbad
    exact h e (Except.error.inj hbad) rfl
  | ok a => exact avoids_of_ok rfl

theorem avoids_collect : ∀ {xs : List α}, (∀ x ∈ xs, Avoids bad (f x)) → Avoids bad (collect f xs)
  | [], _ => avoids_of_ok rfl
  | x :: xs, h => by
    refine avoids_bind (h x List.mem_cons_self) fun y _ => ?_
    refine avoids_bind (avoids_collect fun z hz => h z (List.mem_cons_of_mem x hz)) fun ys _ => ?_
    exact avoids_of_ok rfl

theorem avoids_mapErr {ε' : Type} (x : Except ε' α) (h : e ≠ bad) : Avoids bad (mapErr x e) := by
  cases x with
  | error _ => exact fun heq => h (Except.error.inj heq)
  | ok a => exact avoids_of_ok rfl

theorem avoids_scan (h : ∀ s x, Avoids bad (step s x)) : ∀ (s : σ) (xs : List α), Avoids bad (scan step s xs)
  | _, [] => avoids_of_ok rfl
  | s, x :: xs => avoids_bind (h s x) fun s' _ => avoids_scan h s' xs

end Check
