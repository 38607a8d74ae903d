import ParaEgox.Service

/-!
# CallContract — jobs tied to the store of their process

A job of the Runtime projects the durable journal.  It is safe when every call it makes is permitted where it is made, and
its projection follows the store until a call has failed; the rules below carry that through its steps.
-/
namespace ParaEgox
namespace Control

open Check Journal RuntimeJournalSnapshot Program

variable {c : Contracts} {w w' : World} {α β S E : Type}

/-! ## Calls that leave the store -/

def PortCall.isCommit : PortCall → Bool
  | commitSnapshot _ => true
  | _ => false

theorem answers_store {call : PortCall} (hcall : call.isCommit = false) {store store' : Store}
    {answer : call.Answer} (h : answers c call store answer store') : store' = store := by
  cases call
  case commitSnapshot next => cases hcall
  case currentSnapshot => exact h.1
  all_goals exact h

theorem permitted_of_announced {call : PortCall} (hcall : call.isCommit = false)
    (h : Announced w.store.durable.state call) : permitted c call w := by
  cases call
  case commitSnapshot next => cases hcall
  all_goals exact h

/-! ## A job and the store -/

/-- How the state of a job is tied to the world: `linked` while the store runs and the job's snapshot is the durable one,
`left` once a call has failed.  Calls that leave the store leave the tie. -/
structure Tie (c : Contracts) (S : Type) where
  view : S → RuntimeJournalSnapshot
  linked : S → World → Prop
  left : S → World → Prop
  weaken : ∀ {s w}, linked s w → left s w
  running : ∀ {s w}, linked s w → w.store.stopped = false
  current : ∀ {s w}, linked s w → view s = w.store.durable
  record : ∀ {s w call}, linked s w → linked s (w.record call w.store)

variable {t : Tie c S} {s : S}

/-- Every call is permitted, a value satisfies `good`, and an error leaves the job as the tie says. -/
def Safe (t : Tie c S) (j : Job ports S E α) (s : S) (w : World) (good : α → S → World → Prop) : Prop :=
  Job.Meets (reacts c) (permitted c) j s w good fun _ => t.left

def Stays (t : Tie c S) (s : S) (w : World) (s' : S) (w' : World) : Prop :=
  t.linked s' w' ∧ s' = s ∧ w'.store = w.store

def Tied (t : Tie c S) : α → S → World → Prop := fun _ => t.linked

namespace Safe

variable {good : α → S → World → Prop} {j k : Job ports S E α}

theorem bind {mid : α → S → World → Prop} {good : β → S → World → Prop} {f : α → Job ports S E β}
    (hj : Safe t j s w mid) (hf : ∀ a s' w', mid a s' w' → Safe t (f a) s' w' good) : Safe t (j >>= f) s w good :=
  (Job.meets_bind j f).2 (Job.Meets.mono hj hf fun _ _ _ h => h)

/-- `bind`, saying what holds between. -/
theorem via (mid : α → S → World → Prop) {good : β → S → World → Prop} {f : α → Job ports S E β}
    (hj : Safe t j s w mid) (hf : ∀ a s' w', mid a s' w' → Safe t (f a) s' w' good) : Safe t (j >>= f) s w good :=
  bind hj hf

theorem mono {good' : α → S → World → Prop} (hj : Safe t j s w good)
    (h : ∀ a s' w', good a s' w' → good' a s' w') : Safe t j s w good' :=
  Job.Meets.mono hj h fun _ _ _ h => h

theorem pure {a : α} (h : good a s w) : Safe t (Pure.pure a : Job ports S E α) s w good := h

theorem self {f : S → Job ports S E β} {good : β → S → World → Prop} (h : Safe t (f s) s w good) :
    Safe t (Job.self >>= f) s w good :=
  (Job.meets_bind _ f).2 h

theorem lift (h : t.linked s w) {F : Type} {into : F → E} {x : Except F α} (hgood : ∀ a, x = .ok a → good a s w) :
    Safe t (Job.lift into x) s w good :=
  (Job.meets_lift into x).2 ⟨hgood, fun _ _ => t.weaken h⟩

variable {f : α → Job ports S E β} {good : β → S → World → Prop}

/-- A fallible value with its `?`, and what follows. -/
theorem lifted (h : t.linked s w) {F : Type} {into : F → E} {x : Except F α}
    (hf : ∀ a, x = .ok a → Safe t (f a) s w good) : Safe t (Job.lift into x >>= f) s w good :=
  (Job.meets_bind _ f).2 (lift h hf)

theorem needed (h : t.linked s w) {e : E} {x : Option α} (hf : ∀ a, x = some a → Safe t (f a) s w good) :
    Safe t (Job.need e x >>= f) s w good :=
  (Job.meets_bind _ f).2 ((Job.meets_need e x).2 ⟨hf, fun _ => t.weaken h⟩)

theorem guarded (h : t.linked s w) {p : Prop} [Decidable p] {e : E} {f : Unit → Job ports S E β}
    (hf : ¬ p → Safe t (f ()) s w good) : Safe t (Job.rejectIf p e >>= f) s w good :=
  (Job.meets_bind _ f).2 ((Job.meets_rejectIf p e).2 ⟨hf, fun _ => t.weaken h⟩)

theorem ite {good : α → S → World → Prop} {p : Prop} [Decidable p] (hj : p → Safe t j s w good)
    (hk : ¬ p → Safe t k s w good) :
    Safe t (if p then j else k) s w good := by
  by_cases hp : p
  · rw [if_pos hp]
    exact hj hp
  · rw [if_neg hp]
    exact hk hp

theorem call (h : t.linked s w) (call : PortCall) (hcall : call.isCommit = false)
    (hmay : Announced w.store.durable.state call) :
    Safe t (Job.call (I := ports) call : Job ports S E _) s w fun _ => Stays t s w := by
  refine (Job.meets_call (I := ports) call).2 ⟨permitted_of_announced hcall hmay, ?_⟩
  rintro answer w' ⟨store, hanswer, rfl⟩
  rw [answers_store hcall hanswer]
  exact ⟨t.record h, rfl, rfl⟩

/-- A call that is not a commit, with its `?`. -/
theorem ask (h : t.linked s w) {F : Type} (call : PortCall) (read : call.Answer → Except F α) {into : F → E}
    (hcall : call.isCommit = false) (hmay : Announced w.store.durable.state call) :
    Safe t (Job.call (I := ports) call >>= fun answer => Job.lift into (read answer)) s w fun _ => Stays t s w := by
  refine bind (Safe.call h call hcall hmay) ?_
  rintro answer s' w' hstays
  exact lift hstays.1 fun _ _ => hstays

/-- `ask`, and what follows. -/
theorem asked {f : α → Job ports S E β} {good : β → S → World → Prop} (h : t.linked s w) {F : Type} (call : PortCall)
    (read : call.Answer → Except F α) {into : F → E} (hcall : call.isCommit = false)
    (hmay : Announced w.store.durable.state call) (hf : ∀ a w', t.linked s w' → Safe t (f a) s w' good) :
    Safe t ((Job.call (I := ports) call >>= fun answer => Job.lift into (read answer)) >>= f) s w good := by
  refine bind (ask h call read hcall hmay) ?_
  rintro a _ w' ⟨h', rfl, _⟩
  exact hf a w' h'

end Safe

end Control
end ParaEgox
