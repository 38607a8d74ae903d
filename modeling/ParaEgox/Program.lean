import Mathlib.Tactic.Common

/-!
# Program — programs that call their environment

A program is a tree of calls, each continued with the environment's answer.  A job is a program that owns a state and may
return early with an error, keeping the state it reached.  `meets` is the contract of a program: every call it makes is
permitted where it is made, and the value it ends with satisfies the postcondition, whatever the world answers.  Cut
short between two calls, a program that meets its contract has kept it so far.
-/
namespace Program

structure Interface where
  Call : Type
  Answer : Call → Type

inductive Prog (I : Interface) (α : Type)
  | done (a : α)
  | ask (call : I.Call) (next : I.Answer call → Prog I α)

def Job (I : Interface) (S E α : Type) := S → Prog I (Except E α × S)

variable {I : Interface} {W S E α β : Type}

def Prog.bind : Prog I α → (α → Prog I β) → Prog I β
  | .done a, f => f a
  | .ask call next, f => .ask call fun answer => (next answer).bind f

namespace Job

def follow (f : α → Job I S E β) : Except E α × S → Prog I (Except E β × S)
  | (.ok a, s) => f a s
  | (.error e, s) => .done (.error e, s)

instance : Monad (Job I S E) where
  pure a := fun s => .done (.ok a, s)
  bind j f := fun s => (j s).bind (follow f)

def self : Job I S E S := fun s => .done (.ok s, s)

def update (f : S → S) : Job I S E Unit := fun s => .done (.ok (), f s)

def fail (e : E) : Job I S E α := fun s => .done (.error e, s)

def call (c : I.Call) : Job I S E (I.Answer c) := fun s => .ask c fun answer => .done (.ok answer, s)

/-- The `?` on a fallible value. -/
def lift {F : Type} (into : F → E) : Except F α → Job I S E α
  | .ok a => pure a
  | .error e => fail (into e)

/-- `opt.ok_or(e)?`. -/
def need (e : E) : Option α → Job I S E α
  | some a => pure a
  | none => fail e

/-- The early return `if bad { return Err(e) }`. -/
def rejectIf (bad : Prop) [Decidable bad] (e : E) : Job I S E Unit := if bad then fail e else pure ()

def result {F : Type} (j : Job I S E α) : Job I S F (Except E α) := fun s => (j s).bind fun r => .done (.ok r.1, r.2)

end Job

/-! ## Contracts -/

abbrev Reaction (I : Interface) (W : Type) := (call : I.Call) → W → I.Answer call → W → Prop

variable {react : Reaction I W} {may : I.Call → W → Prop}

def Prog.meets (react : Reaction I W) (may : I.Call → W → Prop) (post : α → W → Prop) : Prog I α → W → Prop
  | .done a, w => post a w
  | .ask call next, w => may call w ∧ ∀ answer w', react call w answer w' → (next answer).meets react may post w'

theorem Prog.meets_bind {post : β → W → Prop} {f : α → Prog I β} : ∀ {p : Prog I α} {w : W},
    (p.bind f).meets react may post w ↔ p.meets react may (fun a w' => (f a).meets react may post w') w
  | .done a, w => Iff.rfl
  | .ask call next, w => by
    simp only [Prog.bind, Prog.meets]
    exact and_congr_right fun _ => forall_congr' fun _ => forall_congr' fun _ => imp_congr_right fun _ => meets_bind

theorem Prog.meets.mono {post post' : α → W → Prop} (h : ∀ a w, post a w → post' a w) : ∀ {p : Prog I α} {w : W},
    p.meets react may post w → p.meets react may post' w
  | .done a, w, hp => h a w hp
  | .ask _ _, _, hp => ⟨hp.1, fun answer w' hw => (hp.2 answer w' hw).mono h⟩

def Prog.ends (react : Reaction I W) : Prog I α → W → α → W → Prop
  | .done a, w, b, w' => a = b ∧ w = w'
  | .ask call next, w, b, w' => ∃ answer w₁, react call w answer w₁ ∧ (next answer).ends react w₁ b w'

theorem Prog.meets.of_ends {post : α → W → Prop} : ∀ {p : Prog I α} {w : W} {a : α} {w' : W},
    p.meets react may post w → p.ends react w a w' → post a w'
  | .done _, _, _, _, hp, ⟨ha, hw⟩ => ha ▸ hw ▸ hp
  | .ask _ _, _, _, _, hp, ⟨answer, w₁, hreact, hends⟩ => (hp.2 answer w₁ hreact).of_ends hends

/-! ## Driven runs -/

/-- A program and its world after `n` answers of an environment that is a function. -/
def Prog.drive (respond : (call : I.Call) → W → I.Answer call × W) : Nat → Prog I α → W → Prog I α × W
  | 0, p, w => (p, w)
  | _ + 1, .done a, w => (.done a, w)
  | n + 1, .ask call next, w => (next (respond call w).1).drive respond n (respond call w).2

theorem Prog.ends_of_drive {respond : (call : I.Call) → W → I.Answer call × W}
    (h : ∀ call w, react call w (respond call w).1 (respond call w).2) {a : α} {w' : W} :
    ∀ {n : Nat} {p : Prog I α} {w : W}, p.drive respond n w = (.done a, w') → p.ends react w a w'
  | 0, .done _, _, heq => by cases heq; exact ⟨rfl, rfl⟩
  | _ + 1, .done _, _, heq => by cases heq; exact ⟨rfl, rfl⟩
  | _ + 1, .ask call _, w, heq => ⟨_, _, h call w, ends_of_drive h heq⟩

namespace Job

def outcome (good : α → S → W → Prop) (bad : E → S → W → Prop) : Except E α × S → W → Prop
  | (.ok a, s), w => good a s w
  | (.error e, s), w => bad e s w

/-- **The contract of a job** from a state in a world: `good` of its value, `bad` of its error. -/
def Meets (react : Reaction I W) (may : I.Call → W → Prop) (j : Job I S E α) (s : S) (w : W)
    (good : α → S → W → Prop) (bad : E → S → W → Prop) : Prop :=
  (j s).meets react may (outcome good bad) w

variable {s : S} {w : W} {good : α → S → W → Prop} {bad : E → S → W → Prop}

theorem Meets.mono {good' : α → S → W → Prop} {bad' : E → S → W → Prop} {j : Job I S E α}
    (h : Meets react may j s w good bad) (hgood : ∀ a s w, good a s w → good' a s w)
    (hbad : ∀ e s w, bad e s w → bad' e s w) : Meets react may j s w good' bad' := by
  refine Prog.meets.mono (fun r w hr => ?_) h
  obtain ⟨r, s⟩ := r
  cases r with
  | ok a => exact hgood a s w hr
  | error e => exact hbad e s w hr

@[simp] theorem meets_pure (a : α) : Meets react may (pure a : Job I S E α) s w good bad ↔ good a s w := Iff.rfl

@[simp] theorem meets_self {good : S → S → W → Prop} :
    Meets react may (self : Job I S E S) s w good bad ↔ good s s w := Iff.rfl

@[simp] theorem meets_update {good : Unit → S → W → Prop} (f : S → S) :
    Meets react may (update f : Job I S E Unit) s w good bad ↔ good () (f s) w := Iff.rfl

@[simp] theorem meets_fail (e : E) : Meets react may (fail e : Job I S E α) s w good bad ↔ bad e s w := Iff.rfl

@[simp] theorem meets_call (c : I.Call) {good : I.Answer c → S → W → Prop} :
    Meets react may (call c : Job I S E (I.Answer c)) s w good bad ↔
      may c w ∧ ∀ answer w', react c w answer w' → good answer s w' := Iff.rfl

/-- **A sequence meets its contract when its first part hands over to the rest.** -/
@[simp] theorem meets_bind {good : β → S → W → Prop} (j : Job I S E α) (f : α → Job I S E β) :
    Meets react may (j >>= f) s w good bad ↔
      Meets react may j s w (fun a s' w' => Meets react may (f a) s' w' good bad) bad := by
  have hfollow : (fun (r : Except E α × S) w' => (follow f r).meets react may (outcome good bad) w') =
      outcome (fun a s' w' => Meets react may (f a) s' w' good bad) bad := by
    funext r w'
    obtain ⟨r, s'⟩ := r
    cases r <;> rfl
  exact Prog.meets_bind.trans (iff_of_eq (congrArg (fun post => (j s).meets react may post w) hfollow))

@[simp] theorem meets_result {F : Type} {good : Except E α → S → W → Prop} {bad : F → S → W → Prop} (j : Job I S E α) :
    Meets react may (result j : Job I S F (Except E α)) s w good bad ↔
      Meets react may j s w (fun a s' w' => good (.ok a) s' w') fun e s' w' => good (.error e) s' w' := by
  have hpost : (fun (r : Except E α × S) (w' : W) => Prog.meets react may (outcome good bad) (.done (.ok r.1, r.2)) w') =
      outcome (fun a s' w' => good (.ok a) s' w') fun e s' w' => good (.error e) s' w' := by
    funext r w'
    obtain ⟨r, s'⟩ := r
    cases r <;> rfl
  exact Prog.meets_bind.trans (iff_of_eq (congrArg (fun post => (j s).meets react may post w) hpost))

@[simp] theorem meets_lift {F : Type} (into : F → E) (x : Except F α) :
    Meets react may (lift into x : Job I S E α) s w good bad ↔
      (∀ a, x = .ok a → good a s w) ∧ ∀ e, x = .error e → bad (into e) s w := by
  cases x with
  | ok a => simp [lift]
  | error e => simp [lift]

@[simp] theorem meets_need (e : E) (x : Option α) :
    Meets react may (need e x : Job I S E α) s w good bad ↔
      (∀ a, x = some a → good a s w) ∧ (x = none → bad e s w) := by
  cases x with
  | none => simp [need]
  | some a => simp [need]

@[simp] theorem meets_rejectIf {good : Unit → S → W → Prop} (p : Prop) [Decidable p] (e : E) :
    Meets react may (rejectIf p e : Job I S E Unit) s w good bad ↔ (¬ p → good () s w) ∧ (p → bad e s w) := by
  unfold rejectIf
  by_cases hp : p
  · simp [hp]
  · simp [hp]

end Job
end Program
