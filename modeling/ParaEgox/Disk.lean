import ParaEgox.Assoc
import ParaEgox.Stateful

/-!
# Disk — directories whose changes become durable when they are synced

A directory is a table of files and the names that lead to them.  Every change of a name takes effect at once for the
processes that look, and stays pending until the directory is synced: when the machine stops, some of the pending changes
have reached the disk and the others have not.  A rename is one change.  The bytes of a file are safe from the moment the
file was synced.

A program is a sequence of system calls.  The host answers each: it works, it fails, or the process is gone before the
call, in the midst of it or after it.  `Runs` says what a program leaves behind, whatever the host answers.
-/
namespace Disk

variable {κ σ ε ε' α β : Type}

inductive ErrorKind
  | notFound
  | alreadyExists
  | other

/-- A regular file with its one name.  `born` is its mode when it was last safe. -/
structure File where
  bytes : List UInt8
  uid : Nat
  mode : Nat
  born : Nat
  synced : Bool

inductive Change (κ : Type)
  | link (name : κ) (inode : Nat)
  | unlink (name : κ)
  | rename (source target : κ) (inode : Nat)

structure Directory (κ : Type) where
  files : List File
  stable : List (κ × Nat)
  pending : List (Change κ)

structure Torn where
  bytes : List UInt8
  early : Bool

def pick {γ : Type} : List Bool → List γ → List γ
  | true :: marks, x :: xs => x :: pick marks xs
  | false :: marks, _ :: xs => pick marks xs
  | _, _ => []

theorem pick_sublist {γ : Type} : ∀ (marks : List Bool) (xs : List γ), (pick marks xs).Sublist xs
  | [], xs => by simp [pick]
  | true :: marks, [] => by simp [pick]
  | false :: marks, [] => by simp [pick]
  | true :: marks, x :: xs => (pick_sublist marks xs).cons_cons x
  | false :: marks, x :: xs => (pick_sublist marks xs).cons x

section Names

variable [DecidableEq κ]

def Change.apply : Change κ → List (κ × Nat) → List (κ × Nat)
  | .link name inode, entries => Assoc.erase name entries ++ [(name, inode)]
  | .unlink name, entries => Assoc.erase name entries
  | .rename source target inode, entries => Assoc.erase target (Assoc.erase source entries) ++ [(target, inode)]

/-- What a change makes of a name; `none` where it does not touch it. -/
def Change.sets : Change κ → κ → Option (Option Nat)
  | .link name inode, k => if k = name then some (some inode) else none
  | .unlink name, k => if k = name then some none else none
  | .rename source target inode, k =>
    if k = target then some (some inode) else if k = source then some none else none

def applyAll (changes : List (Change κ)) (entries : List (κ × Nat)) : List (κ × Nat) :=
  changes.foldl (fun es c => c.apply es) entries

theorem Change.get_apply (c : Change κ) (k : κ) (entries : List (κ × Nat)) :
    Assoc.get k (c.apply entries) = (c.sets k).getD (Assoc.get k entries) := by
  cases c with
  | link name inode =>
    by_cases h : k = name
    · subst h
      simp [apply, sets, Assoc.get_append, Assoc.get_erase_self, Assoc.get_cons]
    · simp [apply, sets, Assoc.get_append, Assoc.get_erase_of_ne h, Assoc.get_cons, h, Ne.symm h]
  | unlink name =>
    by_cases h : k = name
    · subst h
      simp [apply, sets, Assoc.get_erase_self]
    · simp [apply, sets, Assoc.get_erase_of_ne h, h]
  | rename source target inode =>
    by_cases h : k = target
    · subst h
      simp [apply, sets, Assoc.get_append, Assoc.get_erase_self, Assoc.get_cons]
    · by_cases hs : k = source
      · subst hs
        simp [apply, sets, Assoc.get_append, Assoc.get_erase_of_ne h, Assoc.get_erase_self, Assoc.get_cons, h, Ne.symm h]
      · simp [apply, sets, Assoc.get_append, Assoc.get_erase_of_ne h, Assoc.get_erase_of_ne hs, Assoc.get_cons, h, hs,
          Ne.symm h]

theorem get_applyAll (k : κ) : ∀ (changes : List (Change κ)) (entries : List (κ × Nat)),
    Assoc.get k (applyAll changes entries) =
      ((changes.filterMap (·.sets k)).getLast?).getD (Assoc.get k entries)
  | [], _ => rfl
  | c :: cs, entries => by
    have ih := get_applyAll k cs (c.apply entries)
    have hrun : applyAll (c :: cs) entries = applyAll cs (c.apply entries) := rfl
    rw [hrun, ih, Change.get_apply]
    cases hc : c.sets k with
    | none => rw [List.filterMap_cons_none (f := fun c : Change κ => c.sets k) hc, Option.getD_none]
    | some v =>
      rw [List.filterMap_cons_some (f := fun c : Change κ => c.sets k) hc, Option.getD_some]
      cases hrest : cs.filterMap (·.sets k) with
      | nil => rfl
      | cons w ws => rw [List.getLast?_cons_cons, List.getLast?_cons, Option.getD_some, Option.getD_some]

namespace Directory

def visible (d : Directory κ) : List (κ × Nat) := applyAll d.pending d.stable

def lookup (name : κ) (d : Directory κ) : Option Nat := Assoc.get name d.visible

def named (name : κ) (d : Directory κ) : Option File := (d.lookup name).bind fun inode => d.files[inode]?

/-- `openat` with `O_CREAT | O_EXCL`. -/
def create (name : κ) (uid mode : Nat) (d : Directory κ) : Directory κ :=
  { d with files := d.files ++ [⟨[], uid, mode, mode, false⟩], pending := d.pending ++ [.link name d.files.length] }

def write (inode : Nat) (bytes : List UInt8) (d : Directory κ) : Directory κ :=
  { d with files := d.files.modify inode fun f => { f with bytes := f.bytes ++ bytes, synced := false } }

def chmod (inode mode : Nat) (d : Directory κ) : Directory κ :=
  { d with files := d.files.modify inode fun f => { f with mode, synced := false } }

def fsync (inode : Nat) (d : Directory κ) : Directory κ :=
  { d with files := d.files.modify inode fun f => { f with born := f.mode, synced := true } }

def rename (source target : κ) (inode : Nat) (d : Directory κ) : Directory κ :=
  { d with pending := d.pending ++ [.rename source target inode] }

def unlink (name : κ) (d : Directory κ) : Directory κ := { d with pending := d.pending ++ [.unlink name] }

/-- `fsync` of the directory. -/
def sync (d : Directory κ) : Directory κ := { d with stable := d.visible, pending := [] }

/-- What is on the disk when the machine stopped: the changes that had reached it, and of each file that was not safe
whatever was written back. -/
def settle (kept : List (Change κ)) (torn : Nat → Torn) (d : Directory κ) : Directory κ where
  files := d.files.mapIdx fun i f => if f.synced then f else
    { f with bytes := (torn i).bytes, mode := if (torn i).early then f.born else f.mode, synced := true }
  stable := applyAll kept d.stable
  pending := []

/-- The machine stops: of the pending changes, in their order, the marked ones had reached the disk. -/
def crash (reached : List Bool) (torn : Nat → Torn) (d : Directory κ) : Directory κ :=
  d.settle (pick reached d.pending) torn

def outcomes (k : κ) (d : Directory κ) : List (Option Nat) :=
  Assoc.get k d.stable :: d.pending.filterMap (·.sets k)

theorem lookup_eq (k : κ) (d : Directory κ) :
    d.lookup k = ((d.pending.filterMap (·.sets k)).getLast?).getD (Assoc.get k d.stable) :=
  get_applyAll k d.pending d.stable

theorem getLast_getD_mem {γ : Type} (x : γ) : ∀ xs : List γ, (xs.getLast?).getD x ∈ x :: xs
  | [] => List.mem_cons_self
  | y :: ys => by
    rw [List.getLast?_cons, Option.getD_some]
    cases hys : ys.getLast? with
    | none => exact List.mem_cons_of_mem _ List.mem_cons_self
    | some z => exact List.mem_cons_of_mem _ (List.mem_cons_of_mem _ (List.mem_of_getLast? hys))

theorem lookup_mem_outcomes (k : κ) (d : Directory κ) : d.lookup k ∈ d.outcomes k := by
  rw [lookup_eq]
  exact getLast_getD_mem _ _

variable {d : Directory κ} {i : Nat} {f : File} {k name temp : κ} {P : File → Prop}

theorem lookup_settle_mem {kept : List (Change κ)} (h : kept.Sublist d.pending) (torn : Nat → Torn)
    (k : κ) : (d.settle kept torn).lookup k ∈ d.outcomes k := by
  have hsub : (kept.filterMap (·.sets k)).Sublist (d.pending.filterMap (·.sets k)) := h.filterMap _
  have hmem := getLast_getD_mem (Assoc.get k d.stable) (kept.filterMap (·.sets k))
  have hlookup : (d.settle kept torn).lookup k = Assoc.get k (applyAll kept d.stable) := rfl
  rw [hlookup, get_applyAll]
  exact (hsub.cons_cons _).subset hmem

theorem settle_file {kept : List (Change κ)} {torn : Nat → Torn}
    (h : d.files[i]? = some f) (hsynced : f.synced = true) : (d.settle kept torn).files[i]? = some f := by
  simp [settle, List.getElem?_mapIdx, h, hsynced]

/-! ## A name that always leads to a safe file -/

/-- Wherever the name may be found after the machine stopped, it leads to a safe file of that kind. -/
def Safe (k : κ) (P : File → Prop) (d : Directory κ) : Prop :=
  ∀ o ∈ d.outcomes k, ∃ i f, o = some i ∧ d.files[i]? = some f ∧ f.synced = true ∧ P f

theorem Safe.mono {Q : File → Prop} (h : d.Safe k P) (hpq : ∀ f, P f → Q f) : d.Safe k Q := by
  intro o ho
  obtain ⟨i, f, hi, hf, hsynced, hp⟩ := h o ho
  exact ⟨i, f, hi, hf, hsynced, hpq f hp⟩

theorem Safe.lookup (h : d.Safe k P) : ∃ i f, d.lookup k = some i ∧ d.files[i]? = some f ∧ f.synced = true ∧ P f :=
  h _ (lookup_mem_outcomes k d)

theorem Safe.named (h : d.Safe k P) : ∃ f, d.named k = some f ∧ P f := by
  obtain ⟨i, f, hi, hf, -, hp⟩ := h.lookup
  exact ⟨f, by rw [Directory.named, hi, Option.bind_some, hf], hp⟩

theorem Safe.settle (h : d.Safe k P) {kept : List (Change κ)}
    {torn : Nat → Torn} (hkept : kept.Sublist d.pending) : (d.settle kept torn).Safe k P := by
  intro o ho
  have hmem := lookup_settle_mem hkept torn k
  have hone : o = (d.settle kept torn).lookup k := List.mem_singleton.1 ho
  obtain ⟨i, f, hi, hf, hsynced, hp⟩ := h _ (hone ▸ hmem)
  exact ⟨i, f, hi, settle_file hf hsynced, hsynced, hp⟩

theorem Safe.crash (h : d.Safe k P) (reached : List Bool) (torn : Nat → Torn) : (d.crash reached torn).Safe k P :=
  h.settle (pick_sublist reached d.pending)

theorem outcomes_crash (k : κ) (reached : List Bool) (torn : Nat → Torn) (d : Directory κ) :
    (d.crash reached torn).outcomes k = [(d.crash reached torn).lookup k] := rfl

theorem Safe.only (h : d.Safe k P)
    (hone : d.outcomes k = [d.lookup k]) (hi : d.lookup k = some i) (hf : d.files[i]? = some f) :
    d.Safe k fun g => g = f := by
  intro o ho
  rw [hone, List.mem_singleton, hi] at ho
  obtain ⟨j, g, hj, hg, hsynced, -⟩ := h.lookup
  have hij : i = j := Option.some.inj (hi.symm.trans hj)
  subst hij
  have hfg : f = g := Option.some.inj (hf.symm.trans hg)
  exact ⟨i, f, ho, hf, hfg ▸ hsynced, rfl⟩

theorem Safe.alone (h : d.Safe k P) (hone : d.outcomes k = [d.lookup k]) : ∃ f, P f ∧ d.Safe k fun g => g = f := by
  obtain ⟨i, f, hi, hf, -, hp⟩ := h.lookup
  exact ⟨f, hp, h.only hone hi hf⟩

theorem outcomes_sync (k : κ) (d : Directory κ) : d.sync.outcomes k = [d.lookup k] := rfl

theorem lookup_sync (k : κ) (d : Directory κ) : d.sync.lookup k = d.lookup k := rfl

theorem Safe.sync (h : d.Safe k P) : d.sync.Safe k P := by
  intro o ho
  rw [outcomes_sync, List.mem_singleton] at ho
  exact h o (ho ▸ lookup_mem_outcomes k d)

theorem outcomes_unlink (hk : k ≠ name) (d : Directory κ) : (d.unlink name).outcomes k = d.outcomes k := by
  simp [outcomes, unlink, Change.sets, hk]

theorem Safe.unlink (h : d.Safe k P) (hk : k ≠ name) : (d.unlink name).Safe k P := by
  intro o ho
  rw [outcomes_unlink hk] at ho
  exact h o ho

def Opens (validate : File → Except ε Unit) (name : κ) (i : Nat) (f : File) (d : Directory κ) : Prop :=
  d.lookup name = some i ∧ d.files[i]? = some f ∧ validate f = .ok ()

theorem Opens.unique {validate validate' : File → Except ε Unit} {j : Nat} {g : File}
    (h : d.Opens validate name i f) (h' : d.Opens validate' name j g) : i = j ∧ f = g := by
  have hij : i = j := Option.some.inj (h.1.symm.trans h'.1)
  subst hij
  exact ⟨rfl, Option.some.inj (h.2.1.symm.trans h'.2.1)⟩

/-! ## A file made ready beside the name it is to replace -/

structure Staged (k : κ) (P : File → Prop) (temp : κ) (i : Nat) (f : File) (d : Directory κ) : Prop where
  safe : d.Safe k P
  apart : some i ∉ d.outcomes k
  named : d.lookup temp = some i
  file : d.files[i]? = some f

theorem lookup_create (name : κ) (uid mode : Nat) (d : Directory κ) :
    (d.create name uid mode).lookup name = some d.files.length := by
  simp [lookup_eq, create, Change.sets, List.filterMap_append]

theorem outcomes_create (hk : k ≠ name) (uid mode : Nat) (d : Directory κ) :
    (d.create name uid mode).outcomes k = d.outcomes k := by
  simp [outcomes, create, Change.sets, hk]

theorem Safe.create (h : d.Safe k P) (hk : k ≠ name) (uid mode : Nat) : (d.create name uid mode).Safe k P := by
  intro o ho
  rw [outcomes_create hk] at ho
  obtain ⟨i, f, hi, hf, hsynced, hp⟩ := h o ho
  exact ⟨i, f, hi, by rw [Directory.create, List.getElem?_append_left (List.getElem?_eq_some_iff.1 hf).1, hf], hsynced, hp⟩

theorem Safe.staged (h : d.Safe k P) (hk : k ≠ name) (uid mode : Nat) :
    (d.create name uid mode).Staged k P name d.files.length ⟨[], uid, mode, mode, false⟩ where
  safe := h.create hk uid mode
  apart := by
    intro hmem
    rw [outcomes_create hk] at hmem
    obtain ⟨i, f, hi, hf, -⟩ := h _ hmem
    have hlt := (List.getElem?_eq_some_iff.1 hf).1
    rw [← Option.some.inj hi] at hlt
    exact Nat.lt_irrefl _ hlt
  named := lookup_create name uid mode d
  file := by simp [Directory.create]

theorem Staged.modify (h : d.Staged k P temp i f)
    (g : File → File) : ({ d with files := d.files.modify i g } : Directory κ).Staged k P temp i (g f) where
  safe := by
    intro o ho
    obtain ⟨j, f', hj, hf', hsynced, hp⟩ := h.safe o ho
    have hne : i ≠ j := by
      rintro rfl
      exact h.apart (hj ▸ ho)
    exact ⟨j, f', hj, by simp [hne, hf'], hsynced, hp⟩
  apart := h.apart
  named := h.named
  file := by simp [h.file]

theorem outcomes_rename (temp k : κ) (i : Nat) (d : Directory κ) :
    (d.rename temp k i).outcomes k = d.outcomes k ++ [some i] := by
  simp [outcomes, rename, Change.sets, List.filterMap_append]

theorem lookup_rename (temp k : κ) (i : Nat) (d : Directory κ) : (d.rename temp k i).lookup k = some i := by
  simp [lookup_eq, rename, Change.sets, List.filterMap_append]

theorem Staged.rename (h : d.Staged k P temp i f)
    (hsynced : f.synced = true) : (d.rename temp k i).Safe k fun g => P g ∨ g = f := by
  intro o ho
  rw [outcomes_rename, List.mem_append, List.mem_singleton] at ho
  rcases ho with ho | rfl
  · obtain ⟨j, g, hj, hg, hs, hp⟩ := h.safe o ho
    exact ⟨j, g, hj, hg, hs, .inl hp⟩
  · exact ⟨i, f, rfl, h.file, hsynced, .inr rfl⟩

theorem Staged.rename_sync (h : d.Staged k P temp i f)
    (hsynced : f.synced = true) : (d.rename temp k i).sync.Safe k fun g => g = f := by
  intro o ho
  rw [outcomes_sync, List.mem_singleton, lookup_rename] at ho
  exact ⟨i, f, ho, h.file, hsynced, rfl⟩

end Directory
end Names

/-! ## Programs -/

/-- How the host answers a call: it works; it fails, perhaps after a part of its effect; or the process is gone, with that
much of the effect done. -/
inductive Verdict
  | works
  | fails (progress : Nat) (kind : ErrorKind)
  | halts (progress : Nat)

inductive Stop (ε : Type)
  | failed (e : ε)
  | halted

/-- The state the calls work on and the answers still to come; past the last one every call works. -/
structure Host (σ : Type) where
  own : σ
  script : List Verdict

abbrev Calls (σ ε α : Type) := Stateful (Host σ) (Stop ε) α

namespace Calls

def check (x : Except ε α) : Calls σ ε α := fun h => match x with
  | .ok a => (.ok a, h)
  | .error e => (.error (.failed e), h)

def get : Calls σ ε σ := fun h => (.ok h.own, h)

def modify (f : σ → σ) : Calls σ ε Unit := fun h => (.ok (), { h with own := f h.own })

/-- One system call.  `whole` is what it does when it works, `broken` what is left where it failed with that much done, and
`cut` where the process was gone with that much done. -/
def call (whole : σ → Except ErrorKind α × σ) (broken cut : Nat → σ → σ) (error : ErrorKind → ε) : Calls σ ε α := fun h =>
  match h.script with
  | .fails n kind :: rest => (.error (.failed (error kind)), ⟨broken n h.own, rest⟩)
  | .halts n :: rest => (.error .halted, ⟨cut n h.own, rest⟩)
  | .works :: rest => match whole h.own with
    | (.ok a, s) => (.ok a, ⟨s, rest⟩)
    | (.error kind, s) => (.error (.failed (error kind)), ⟨s, rest⟩)
  | [] => match whole h.own with
    | (.ok a, s) => (.ok a, ⟨s, []⟩)
    | (.error kind, s) => (.error (.failed (error kind)), ⟨s, []⟩)

def ask (answer : σ → Except ErrorKind α) (error : ErrorKind → ε) : Calls σ ε α :=
  call (fun s => (answer s, s)) (fun _ s => s) (fun _ s => s) error

def act (f : σ → σ) (error : ErrorKind → ε) : Calls σ ε Unit :=
  call (fun s => (.ok (), f s)) (fun _ s => s) (fun n s => if n = 0 then s else f s) error

def stream (f : List UInt8 → σ → σ) (bytes : List UInt8) (error : ErrorKind → ε) : Calls σ ε Unit :=
  call (fun s => (.ok (), f bytes s)) (fun n s => f (bytes.take n) s) (fun n s => f (bytes.take n) s) error

def onFailure (f : σ → σ) (into : ε → ε') (x : Calls σ ε α) : Calls σ ε' α := fun h => match x h with
  | (.ok a, h') => (.ok a, h')
  | (.error (.failed e), h') => (.error (.failed (into e)), { h' with own := f h'.own })
  | (.error .halted, h') => (.error .halted, h')

def each : List α → (α → Calls σ ε Unit) → Calls σ ε Unit
  | [], _ => pure ()
  | x :: xs, f => f x >>= fun _ => each xs f

/-- What a program leaves: with the value it returned, with the error it failed with, or when its process was gone. -/
structure Leaving (σ ε α : Type) where
  done : α → σ → Prop
  failed : ε → σ → Prop
  halted : σ → Prop

/-- **From this state, whatever answers of that kind the host gives, the program leaves what is said.** -/
def Runs (V : Verdict → Prop) (x : Calls σ ε α) (s : σ) (L : Leaving σ ε α) : Prop :=
  ∀ script, (∀ v ∈ script, V v) → match x ⟨s, script⟩ with
    | (.ok a, h) => (∀ v ∈ h.script, V v) ∧ L.done a h.own
    | (.error (.failed e), h) => (∀ v ∈ h.script, V v) ∧ L.failed e h.own
    | (.error .halted, h) => L.halted h.own

variable {V : Verdict → Prop} {s : σ} {L : Leaving σ ε α} {x : Calls σ ε α} {f : σ → σ}

theorem runs_pure {a : α} (h : L.done a s) : Runs V (pure a : Calls σ ε α) s L :=
  fun _ hscript => ⟨hscript, h⟩

/-- **Programs run one after the other.**  What the first leaves when it stops early is what both leave. -/
theorem runs_bind {f : α → Calls σ ε β} {L : Leaving σ ε β} {Q : α → σ → Prop}
    (hx : Runs V x s ⟨Q, L.failed, L.halted⟩) (hf : ∀ a s', Q a s' → Runs V (f a) s' L) : Runs V (x >>= f) s L := by
  intro script hscript
  have hrun : (x >>= f) ⟨s, script⟩ = Stateful.follow f (x ⟨s, script⟩) := rfl
  have hfirst := hx script hscript
  rw [hrun]
  match hstep : x ⟨s, script⟩ with
  | (.ok a, ⟨s', rest⟩) =>
    rw [hstep] at hfirst
    exact hf a s' hfirst.2 rest hfirst.1
  | (.error (.failed e), h') =>
    rw [hstep] at hfirst
    exact hfirst
  | (.error .halted, h') =>
    rw [hstep] at hfirst
    exact hfirst

theorem Runs.mono {M : Leaving σ ε α} (hx : Runs V x s L) (hdone : ∀ a s', L.done a s' → M.done a s')
    (hfailed : ∀ e s', L.failed e s' → M.failed e s') (hhalted : ∀ s', L.halted s' → M.halted s') : Runs V x s M := by
  intro script hscript
  have hrun := hx script hscript
  match hstep : x ⟨s, script⟩ with
  | (.ok a, h') =>
    rw [hstep] at hrun
    exact ⟨hrun.1, hdone a _ hrun.2⟩
  | (.error (.failed e), h') =>
    rw [hstep] at hrun
    exact ⟨hrun.1, hfailed e _ hrun.2⟩
  | (.error .halted, h') =>
    rw [hstep] at hrun
    exact hhalted _ hrun

theorem runs_check {x : Except ε α} (hok : ∀ a, x = .ok a → L.done a s)
    (herr : ∀ e, x = .error e → L.failed e s) : Runs V (check x) s L := by
  intro script hscript
  cases x with
  | ok a => exact ⟨hscript, hok a rfl⟩
  | error e => exact ⟨hscript, herr e rfl⟩

/-- A check changes nothing: it fails, or the rest goes on where it stood. -/
theorem runs_check_bind {x : Except ε α} {f : α → Calls σ ε β} {L : Leaving σ ε β} (herr : ∀ e, x = .error e → L.failed e s)
    (hok : ∀ a, x = .ok a → Runs V (f a) s L) : Runs V (check x >>= f) s L :=
  runs_bind (Q := fun a s' => s = s' ∧ x = .ok a) (runs_check (fun _ h => ⟨rfl, h⟩) herr) fun a _ ⟨hs, ha⟩ => hs ▸ hok a ha

theorem runs_error_bind {e : ε} {f : α → Calls σ ε β} {L : Leaving σ ε β} (h : L.failed e s) :
    Runs V (check (.error e : Except ε α) >>= f) s L :=
  runs_check_bind (fun _ he => Except.error.inj he ▸ h) fun _ hok => by cases hok

theorem runs_check_passed {bad : Prop} [Decidable bad] {e : ε} {f : Unit → Calls σ ε β} {L : Leaving σ ε β} (hbad : ¬ bad)
    (h : Runs V (f ()) s L) : Runs V (check (Check.rejectIf bad e) >>= f) s L := by
  rw [Check.rejectIf_neg hbad]
  exact runs_check_bind (fun _ he => by cases he) fun _ _ => h

theorem runs_get {L : Leaving σ ε σ} (h : L.done s s) : Runs V (get : Calls σ ε σ) s L :=
  fun _ hscript => ⟨hscript, h⟩

theorem runs_modify {L : Leaving σ ε Unit} (h : L.done () (f s)) : Runs V (modify f : Calls σ ε Unit) s L :=
  fun _ hscript => ⟨hscript, h⟩

theorem runs_get_check {bad : σ → Prop} [DecidablePred bad] {e : ε} {L : Leaving σ ε Unit} (hdone : ¬ bad s → L.done () s)
    (hfailed : bad s → L.failed e s) :
    Runs V (get >>= fun s => check (Check.rejectIf (bad s) e) : Calls σ ε Unit) s L := by
  refine runs_bind (Q := fun t s' => s = t ∧ s = s') (runs_get ⟨rfl, rfl⟩) ?_
  rintro _ _ ⟨rfl, rfl⟩
  refine runs_check (fun _ hok => hdone (Check.rejectIf_ok.1 hok)) fun e' he => ?_
  by_cases hbad : bad s
  · rw [Check.rejectIf, if_pos hbad] at he
    rw [← Except.error.inj he]
    exact hfailed hbad
  · rw [Check.rejectIf_neg hbad] at he
    cases he

theorem runs_call {whole : σ → Except ErrorKind α × σ} {broken cut : Nat → σ → σ} {error : ErrorKind → ε}
    (hdone : ∀ a s', whole s = (.ok a, s') → L.done a s')
    (herr : ∀ kind s', whole s = (.error kind, s') → L.failed (error kind) s')
    (hfails : ∀ n kind, V (.fails n kind) → L.failed (error kind) (broken n s))
    (hhalts : ∀ n, V (.halts n) → L.halted (cut n s)) : Runs V (call whole broken cut error) s L := by
  have hworks : ∀ rest : List Verdict, (∀ v ∈ rest, V v) →
      match (match whole s with
        | (.ok a, s') => (.ok a, ⟨s', rest⟩)
        | (.error kind, s') => (.error (.failed (error kind)), ⟨s', rest⟩) : Except (Stop ε) α × Host σ) with
      | (.ok a, h) => (∀ v ∈ h.script, V v) ∧ L.done a h.own
      | (.error (.failed e), h) => (∀ v ∈ h.script, V v) ∧ L.failed e h.own
      | (.error .halted, h) => L.halted h.own := by
    intro rest hrest
    match hw : whole s with
    | (.ok a, s') => exact ⟨hrest, hdone a s' hw⟩
    | (.error kind, s') => exact ⟨hrest, herr kind s' hw⟩
  intro script hscript
  cases script with
  | nil => exact hworks [] hscript
  | cons v rest =>
    obtain ⟨hv, hrest⟩ := List.forall_mem_cons.1 hscript
    cases v with
    | works => exact hworks rest hrest
    | fails n kind => exact ⟨hrest, hfails n kind hv⟩
    | halts n => exact hhalts n hv

theorem runs_ask {answer : σ → Except ErrorKind α} {error : ErrorKind → ε}
    (hdone : ∀ a, answer s = .ok a → L.done a s) (herr : ∀ kind, answer s = .error kind → L.failed (error kind) s)
    (hfails : ∀ n kind, V (.fails n kind) → L.failed (error kind) s) (hhalts : ∀ n, V (.halts n) → L.halted s) :
    Runs V (ask answer error) s L := by
  refine runs_call (fun a s' h => ?_) (fun kind s' h => ?_) hfails hhalts
  · obtain ⟨ha, rfl⟩ := Prod.mk.inj h
    exact hdone a ha
  · obtain ⟨hk, rfl⟩ := Prod.mk.inj h
    exact herr kind hk

theorem runs_ask_bind {error : ErrorKind → ε} {f : Unit → Calls σ ε β} {L : Leaving σ ε β}
    (hfails : ∀ n kind, V (.fails n kind) → L.failed (error kind) s) (hhalts : ∀ n, V (.halts n) → L.halted s)
    (h : Runs V (f ()) s L) : Runs V (ask (fun _ => .ok ()) error >>= f) s L := by
  refine runs_bind (Q := fun _ s' => s = s') (runs_ask (fun _ _ => rfl) (fun _ hk => by cases hk) hfails hhalts) ?_
  rintro _ _ rfl
  exact h

theorem runs_askFor {found : σ → Option α} {missing : ErrorKind} {error : ErrorKind → ε}
    (hdone : ∀ a, found s = some a → L.done a s) (hnone : found s = none → L.failed (error missing) s)
    (hfails : ∀ n kind, V (.fails n kind) → L.failed (error kind) s) (hhalts : ∀ n, V (.halts n) → L.halted s) :
    Runs V (ask (fun s => Check.okOr (found s) missing) error) s L := by
  refine runs_ask (fun a ha => hdone a (Check.okOr_ok.1 ha)) (fun kind hk => ?_) hfails hhalts
  cases hfound : found s with
  | none =>
    rw [hfound] at hk
    rw [← Except.error.inj hk]
    exact hnone hfound
  | some a =>
    rw [hfound] at hk
    cases hk

theorem runs_act {error : ErrorKind → ε} {L : Leaving σ ε Unit} (hdone : L.done () (f s))
    (hfails : ∀ n kind, V (.fails n kind) → L.failed (error kind) s)
    (hhalts : ∀ n, V (.halts n) → L.halted s ∧ L.halted (f s)) : Runs V (act f error) s L := by
  refine runs_call (fun a s' h => ?_) (fun kind s' h => ?_) hfails fun n hn => ?_
  · obtain ⟨-, rfl⟩ := Prod.mk.inj h
    exact hdone
  · cases (Prod.mk.inj h).1
  · split
    · exact (hhalts n hn).1
    · exact (hhalts n hn).2

theorem runs_stream {f : List UInt8 → σ → σ} {bytes : List UInt8} {error : ErrorKind → ε} {L : Leaving σ ε Unit}
    (hdone : L.done () (f bytes s)) (hfails : ∀ n kind, V (.fails n kind) → L.failed (error kind) (f (bytes.take n) s))
    (hhalts : ∀ n, V (.halts n) → L.halted (f (bytes.take n) s)) : Runs V (stream f bytes error) s L := by
  refine runs_call (fun a s' h => ?_) (fun kind s' h => ?_) hfails hhalts
  · obtain ⟨-, rfl⟩ := Prod.mk.inj h
    exact hdone
  · cases (Prod.mk.inj h).1

theorem runs_onFailure {into : ε → ε'} {L : Leaving σ ε' α}
    (hx : Runs V x s ⟨L.done, fun e s' => L.failed (into e) (f s'), L.halted⟩) : Runs V (onFailure f into x) s L := by
  intro script hscript
  have hrun := hx script hscript
  unfold onFailure
  match hstep : x ⟨s, script⟩ with
  | (.ok a, h') =>
    rw [hstep] at hrun
    exact hrun
  | (.error (.failed e), h') =>
    rw [hstep] at hrun
    exact hrun
  | (.error .halted, h') =>
    rw [hstep] at hrun
    exact hrun

/-- **What every turn of a loop makes of the rest, the loop makes of the whole.** -/
theorem runs_each {I : List α → σ → Prop} {E : ε → σ → Prop} {H : σ → Prop} {f : α → Calls σ ε Unit}
    (hf : ∀ x xs s, I (x :: xs) s → Runs V (f x) s ⟨fun _ s' => I xs s', E, H⟩) : ∀ {xs : List α} {s : σ},
    I xs s → Runs V (each xs f) s ⟨fun _ s' => I [] s', E, H⟩
  | [], _, hs => runs_pure hs
  | x :: xs, s, hs => runs_bind (Q := fun _ s' => I xs s') (hf x xs s hs) fun _ _ hs' => runs_each hf hs'

end Calls

/-! ## Calls on a directory -/

structure Place (σ κ : Type) where
  dir : σ → Directory κ
  put : Directory κ → σ → σ
  dir_put : ∀ d s, dir (put d s) = d
  put_put : ∀ d d' s, put d (put d' s) = put d s

namespace Place

open Calls

variable [DecidableEq κ] (p : Place σ κ) (error : ErrorKind → ε)

def update (f : Directory κ → Directory κ) (s : σ) : σ := p.put (f (p.dir s)) s

omit [DecidableEq κ] in
@[simp] theorem dir_update (f : Directory κ → Directory κ) (s : σ) : p.dir (p.update f s) = f (p.dir s) := p.dir_put _ _

/-- `openat`: the inode under the name. -/
def openFile (name : κ) : Calls σ ε Nat := ask (fun s => Check.okOr ((p.dir s).lookup name) .notFound) error

/-- `fstat` and `read` of an open file. -/
def stat (inode : Nat) : Calls σ ε File := ask (fun s => Check.okOr (p.dir s).files[inode]? .other) error

def openChecked (validate : File → Except ε Unit) (name : κ) : Calls σ ε Nat := do
  let inode ← p.openFile error name
  let file ← p.stat error inode
  check (validate file)
  pure inode

/-- `openat` with `O_CREAT | O_EXCL`: the inode of the new file. -/
def createFile (name : κ) (uid mode : Nat) : Calls σ ε Nat :=
  call (fun s => match (p.dir s).lookup name with
      | some _ => (.error .alreadyExists, s)
      | none => (.ok (p.dir s).files.length, p.update (·.create name uid mode) s))
    (fun _ s => s)
    (fun n s => if n = 0 ∨ (p.dir s).lookup name ≠ none then s else p.update (·.create name uid mode) s) error

def chmodFile (inode mode : Nat) : Calls σ ε Unit := act (p.update (·.chmod inode mode)) error

def writeAll (inode : Nat) (bytes : List UInt8) : Calls σ ε Unit :=
  stream (fun bs => p.update (·.write inode bs)) bytes error

def syncFile (inode : Nat) : Calls σ ε Unit := act (p.update (·.fsync inode)) error

/-- `renameat`. -/
def renameFile (source target : κ) : Calls σ ε Unit :=
  call (fun s => match (p.dir s).lookup source with
      | none => (.error .notFound, s)
      | some inode => (.ok (), p.update (·.rename source target inode) s))
    (fun _ s => s)
    (fun n s => match (p.dir s).lookup source with
      | none => s
      | some inode => if n = 0 then s else p.update (·.rename source target inode) s) error

/-- `renameat2` with `RENAME_NOREPLACE`. -/
def renameNoReplace (source target : κ) : Calls σ ε Unit :=
  call (fun s => match (p.dir s).lookup source, (p.dir s).lookup target with
      | none, _ => (.error .notFound, s)
      | some _, some _ => (.error .alreadyExists, s)
      | some inode, none => (.ok (), p.update (·.rename source target inode) s))
    (fun _ s => s)
    (fun n s => match (p.dir s).lookup source, (p.dir s).lookup target with
      | some inode, none => if n = 0 then s else p.update (·.rename source target inode) s
      | _, _ => s) error

def unlinkFile (name : κ) : Calls σ ε Unit := act (p.update (·.unlink name)) error

def syncAll : Calls σ ε Unit := act (p.update (·.sync)) error

def list : Calls σ ε (List κ) := ask (fun s => .ok (Assoc.keys (p.dir s).visible)) error

/-! ## What else a program keeps -/

def Same (s s' : σ) : Prop := ∀ d, p.put d s' = p.put d s

omit [DecidableEq κ] in
theorem same_refl (s : σ) : p.Same s s := fun _ => rfl

omit [DecidableEq κ] in
theorem Same.update {p : Place σ κ} {s s' : σ} (h : p.Same s s') (f : Directory κ → Directory κ) : p.Same s (p.update f s') :=
  fun d => (p.put_put d _ s').trans (h d)

/-! ## What the calls leave -/

variable {p error} {V : Verdict → Prop} {s : σ} {name : κ} {L : Leaving σ ε Nat}

theorem runs_openFile (hdone : ∀ i, (p.dir s).lookup name = some i → L.done i s)
    (hnone : (p.dir s).lookup name = none → L.failed (error .notFound) s)
    (hfails : ∀ n kind, V (.fails n kind) → L.failed (error kind) s) (hhalts : ∀ n, V (.halts n) → L.halted s) :
    Runs V (p.openFile error name) s L :=
  runs_askFor hdone hnone hfails hhalts

omit [DecidableEq κ] in
theorem runs_stat {i : Nat} {L : Leaving σ ε File} (hdone : ∀ f, (p.dir s).files[i]? = some f → L.done f s)
    (hnone : (p.dir s).files[i]? = none → L.failed (error .other) s)
    (hfails : ∀ n kind, V (.fails n kind) → L.failed (error kind) s) (hhalts : ∀ n, V (.halts n) → L.halted s) :
    Runs V (p.stat error i) s L :=
  runs_askFor hdone hnone hfails hhalts

omit [DecidableEq κ] in
/-- An open file is found again as it was opened. -/
theorem runs_stat_bind {i : Nat} {f : File} {g : File → Calls σ ε α} {L : Leaving σ ε α} (hf : (p.dir s).files[i]? = some f)
    (hfails : ∀ n kind, V (.fails n kind) → L.failed (error kind) s) (hhalts : ∀ n, V (.halts n) → L.halted s)
    (h : Runs V (g f) s L) : Runs V (p.stat error i >>= g) s L := by
  refine runs_bind (Q := fun g s' => f = g ∧ s = s') (runs_stat (fun g hg => ?_) (fun hnone => ?_) hfails hhalts) ?_
  · rw [hf] at hg
    exact ⟨Option.some.inj hg, rfl⟩
  · rw [hf] at hnone
    cases hnone
  · rintro _ _ ⟨rfl, rfl⟩
    exact h

theorem runs_openChecked {validate : File → Except ε Unit}
    (hdone : ∀ i f, (p.dir s).Opens validate name i f → L.done i s)
    (hbad : (¬ ∃ i f, (p.dir s).Opens validate name i f) → ∀ e, L.failed e s)
    (hfails : ∀ n kind, V (.fails n kind) → ∀ e, L.failed e s) (hhalts : ∀ n, V (.halts n) → L.halted s) :
    Runs V (p.openChecked error validate name) s L := by
  refine runs_bind (Q := fun i s' => s = s' ∧ (p.dir s).lookup name = some i) ?_ ?_
  · refine runs_openFile (fun i hi => ⟨rfl, hi⟩) (fun hnone => hbad ?_ _) (fun n kind h => hfails n kind h _) hhalts
    rintro ⟨i, f, hi, -⟩
    rw [hnone] at hi
    cases hi
  rintro i _ ⟨rfl, hi⟩
  refine runs_bind (Q := fun f s' => s = s' ∧ (p.dir s).files[i]? = some f) ?_ ?_
  · refine runs_stat (fun f hf => ⟨rfl, hf⟩) (fun hnone => hbad ?_ _) (fun n kind h => hfails n kind h _) hhalts
    rintro ⟨j, f, hj, hf, -⟩
    rw [hi] at hj
    rw [Option.some.inj hj] at hnone
    rw [hnone] at hf
    cases hf
  rintro f _ ⟨rfl, hf⟩
  refine runs_bind (Q := fun _ s' => s = s' ∧ validate f = .ok ()) ?_ ?_
  · refine runs_check (fun _ h => ⟨rfl, h⟩) fun e he => hbad ?_ _
    rintro ⟨j, g, hj, hg, hvalid⟩
    rw [hi] at hj
    rw [← Option.some.inj hj, hf] at hg
    rw [← Option.some.inj hg, he] at hvalid
    cases hvalid
  rintro _ _ ⟨rfl, hvalid⟩
  exact runs_pure (hdone i f ⟨hi, hf, hvalid⟩)

theorem runs_createFile {uid mode : Nat}
    (hdone : (p.dir s).lookup name = none → L.done (p.dir s).files.length (p.update (·.create name uid mode) s))
    (hexists : (p.dir s).lookup name ≠ none → L.failed (error .alreadyExists) s)
    (hfails : ∀ n kind, V (.fails n kind) → L.failed (error kind) s)
    (hhalts : ∀ n, V (.halts n) → L.halted s ∧ L.halted (p.update (·.create name uid mode) s)) :
    Runs V (p.createFile error name uid mode) s L := by
  refine runs_call (fun i s' h => ?_) (fun kind s' h => ?_) hfails fun n hn => ?_
  · cases hlookup : (p.dir s).lookup name with
    | none =>
      rw [hlookup] at h
      obtain ⟨hi, rfl⟩ := Prod.mk.inj h
      rw [← Except.ok.inj hi]
      exact hdone hlookup
    | some j =>
      rw [hlookup] at h
      cases (Prod.mk.inj h).1
  · cases hlookup : (p.dir s).lookup name with
    | none =>
      rw [hlookup] at h
      cases (Prod.mk.inj h).1
    | some j =>
      rw [hlookup] at h
      obtain ⟨hk, rfl⟩ := Prod.mk.inj h
      rw [← Except.error.inj hk]
      exact hexists (by simp [hlookup])
  · split
    · exact (hhalts n hn).1
    · exact (hhalts n hn).2

theorem runs_renameFile {source target : κ} {i : Nat} {L : Leaving σ ε Unit} (hi : (p.dir s).lookup source = some i)
    (hdone : L.done () (p.update (·.rename source target i) s))
    (hfails : ∀ n kind, V (.fails n kind) → L.failed (error kind) s)
    (hhalts : ∀ n, V (.halts n) → L.halted s ∧ L.halted (p.update (·.rename source target i) s)) :
    Runs V (p.renameFile error source target) s L := by
  refine runs_call (fun u s' h => ?_) (fun kind s' h => ?_) hfails fun n hn => ?_
  · rw [hi] at h
    obtain ⟨-, rfl⟩ := Prod.mk.inj h
    exact hdone
  · rw [hi] at h
    cases (Prod.mk.inj h).1
  · simp only [hi]
    split
    · exact (hhalts n hn).1
    · exact (hhalts n hn).2

end Place

/-! ## A file made ready beside another and renamed over it -/

/-- What a program that replaces a file checks between its calls, and the errors it gives. -/
structure Plan (ε : Type) where
  creating : ErrorKind → ε
  inspecting : ErrorKind → ε
  writing : ErrorKind → ε
  syncing : ErrorKind → ε
  moving : ErrorKind → ε
  publishing : ErrorKind → ε
  inspect : File → Except ε Unit
  created : Except ε Unit
  written : Except ε Unit
  synced : Except ε Unit
  renamed : Except ε Unit
  published : Except ε Unit

variable [DecidableEq κ]

/-- What the directory is on the way: as it was, with the file in the making, renamed, and synced.  `old` is what is left
where the program stopped before the rename. -/
structure Replacing (temp target : κ) (uid mode : Nat) (bytes : List UInt8) (inspected : Prop) where
  before : Directory κ → Prop
  making : Nat → File → Directory κ → Prop
  old : Directory κ → Prop
  either : Directory κ → Prop
  new : Directory κ → Prop
  before_old : ∀ {d}, before d → old d
  create : ∀ {d}, before d → making d.files.length ⟨[], uid, mode, mode, false⟩ (d.create temp uid mode)
  making_old : ∀ {d i f}, making i f d → old d
  staged : ∀ {d i f}, making i f d → d.lookup temp = some i ∧ d.files[i]? = some f
  change : ∀ {d i f} {g : File → File}, (∀ f, f.uid = uid ∧ f.mode = mode ∧ f.born = mode →
    (g f).uid = uid ∧ (g f).mode = mode ∧ (g f).born = mode) →
    making i f d → making i (g f) { d with files := d.files.modify i g }
  rename : ∀ {d i}, inspected → making i ⟨bytes, uid, mode, mode, true⟩ d → either (d.rename temp target i) ∧
    new (d.rename temp target i).sync
  old_either : ∀ {d}, old d → either d
  new_either : ∀ {d}, new d → either d

namespace Place

open Calls

variable (p : Place σ κ)

def writePart (plan : Plan ε) (torn : Prop) [Decidable torn] (fault : ε) (part : List UInt8) (inode : Nat) : Calls σ ε Unit :=
  if torn then do
    p.writeAll plan.writing inode part
    check (.error fault)
  else pure ()

def replace (plan : Plan ε) (torn : Prop) [Decidable torn] (fault : ε) (part : List UInt8) (again : Calls σ ε Unit)
    (temp target : κ) (uid mode : Nat) (bytes : List UInt8) : Calls σ ε Unit := do
  let inode ← p.createFile plan.creating temp uid mode
  p.chmodFile plan.inspecting inode mode
  let metadata ← p.stat plan.inspecting inode
  check (plan.inspect metadata)
  check plan.created
  p.writePart plan torn fault part inode
  p.writeAll plan.writing inode bytes
  check plan.written
  p.syncFile plan.syncing inode
  check plan.synced
  again
  p.renameFile plan.moving temp target
  check plan.renamed
  p.syncAll plan.publishing
  check plan.published

end Place

namespace Replacing

open Calls

variable {p : Place σ κ} {temp target : κ} {uid mode : Nat} {bytes : List UInt8} {inspected : Prop}
  {r : Replacing temp target uid mode bytes inspected} {plan : Plan ε} {rejected : ε → Prop} {V : Verdict → Prop}
  {s s' : σ} {i : Nat} {f : File}

/-- What replacing leaves: the old file where it is rejected, the new one where it returns, one of the two otherwise. -/
def leaving (r : Replacing temp target uid mode bytes inspected) (p : Place σ κ) (rejected : ε → Prop) (s : σ) :
    Leaving σ ε Unit where
  done _ s' := p.Same s s' ∧ r.new (p.dir s')
  failed e s' := p.Same s s' ∧ r.either (p.dir s') ∧ (rejected e → r.old (p.dir s'))
  halted s' := r.either (p.dir s')

def Making (r : Replacing temp target uid mode bytes inspected) (p : Place σ κ) (s : σ) (i : Nat) (f : File) (s' : σ) : Prop :=
  p.Same s s' ∧ r.making i f (p.dir s')

theorem Making.stopped (h : r.Making p s i f s') (e : ε) : (r.leaving p rejected s).failed e s' :=
  ⟨h.1, r.old_either (r.making_old h.2), fun _ => r.making_old h.2⟩

theorem Making.either (h : r.Making p s i f s') : r.either (p.dir s') := r.old_either (r.making_old h.2)

theorem Making.change {g : File → File} (hg : ∀ f, f.uid = uid ∧ f.mode = mode ∧ f.born = mode →
    (g f).uid = uid ∧ (g f).mode = mode ∧ (g f).born = mode) (h : r.Making p s i f s') :
    r.Making p s i (g f) (p.update (fun d => { d with files := d.files.modify i g }) s') :=
  ⟨h.1.update _, by rw [Place.dir_update]; exact r.change hg h.2⟩

theorem runs_change {g : File → File} (hg : ∀ f, f.uid = uid ∧ f.mode = mode ∧ f.born = mode →
    (g f).uid = uid ∧ (g f).mode = mode ∧ (g f).born = mode) {error : ErrorKind → ε} (h : r.Making p s i f s') :
    Runs V (act (p.update fun d => { d with files := d.files.modify i g }) error) s'
      ⟨fun _ t => r.Making p s i (g f) t, (r.leaving p rejected s).failed, (r.leaving p rejected s).halted⟩ :=
  runs_act (h.change hg) (fun _ _ _ => h.stopped _) fun _ _ => ⟨h.either, (h.change hg).either⟩

theorem runs_write {part : List UInt8} {error : ErrorKind → ε} (h : r.Making p s i f s') : Runs V (p.writeAll error i part) s'
    ⟨fun _ t => r.Making p s i { f with bytes := f.bytes ++ part, synced := false } t, (r.leaving p rejected s).failed,
      (r.leaving p rejected s).halted⟩ := by
  have hnext : ∀ bs, r.Making p s i { f with bytes := f.bytes ++ bs, synced := false } (p.update (·.write i bs) s') :=
    fun bs => h.change (g := fun f => { f with bytes := f.bytes ++ bs, synced := false }) fun _ hf => hf
  exact runs_stream (hnext part) (fun n _ _ => (hnext _).stopped _) fun n _ => (hnext _).either

theorem runs_passed {x : Except ε Unit} (h : r.Making p s i f s') : Runs V (check x) s'
    ⟨fun _ t => r.Making p s i f t, (r.leaving p rejected s).failed, (r.leaving p rejected s).halted⟩ :=
  runs_check (fun _ _ => h) fun e _ => h.stopped e

theorem runs_writePart {torn : Prop} [Decidable torn] {fault : ε} {part : List UInt8} (h : r.Making p s i f s') :
    Runs V (p.writePart plan torn fault part i) s' ⟨fun _ t => r.Making p s i f t, (r.leaving p rejected s).failed,
      (r.leaving p rejected s).halted⟩ := by
  unfold Place.writePart
  split
  · refine runs_bind (runs_write h) fun _ t ht => runs_check (fun _ hok => ?_) fun e _ => ht.stopped e
    cases hok
  · exact runs_pure h

/-- **Replacing a file leaves it whole on every way out**: the old one where it is rejected, the new one where it returns, one
of the two where the process or the machine is gone or the outcome is uncertain. -/
theorem runs_replace (plan : Plan ε) (again : Calls σ ε Unit) {torn : Prop} [Decidable torn] {fault : ε} {part : List UInt8}
    (hinspected : plan.inspect ⟨[], uid, mode, mode, false⟩ = .ok () → inspected)
    (hagain : ∀ {s : σ} {L : Leaving σ ε Unit}, L.done () s → (∀ e, L.failed e s) → L.halted s → Runs V again s L)
    (hrenamed : ∀ e, plan.renamed = .error e → ¬ rejected e) (hpublishing : ∀ kind, ¬ rejected (plan.publishing kind))
    (hpublished : ∀ e, plan.published = .error e → ¬ rejected e) (h : r.before (p.dir s)) :
    Runs V (p.replace plan torn fault part again temp target uid mode bytes) s (r.leaving p rejected s) := by
  have hold := r.before_old h
  have hbefore : ∀ e, (r.leaving p rejected s).failed e s := fun _ => ⟨p.same_refl s, r.old_either hold, fun _ => hold⟩
  have hmade : r.Making p s (p.dir s).files.length ⟨[], uid, mode, mode, false⟩ (p.update (·.create temp uid mode) s) :=
    ⟨(p.same_refl s).update _, by rw [Place.dir_update]; exact r.create h⟩
  refine runs_bind (Q := fun i s' => r.Making p s i ⟨[], uid, mode, mode, false⟩ s')
    (Place.runs_createFile (fun _ => hmade) (fun _ => hbefore _) (fun _ _ _ => hbefore _)
      fun _ _ => ⟨r.old_either hold, hmade.either⟩) ?_
  rintro i s₁ hmade
  refine runs_bind (runs_change (g := fun f => { f with mode, synced := false }) (fun _ hf => ⟨hf.1, rfl, hf.2.2⟩) hmade) ?_
  rintro _ s₂ hmade
  refine runs_bind (Q := fun metadata s' => s₂ = s' ∧ (p.dir s₂).files[i]? = some metadata)
    (Place.runs_stat (fun _ hf => ⟨rfl, hf⟩) (fun _ => hmade.stopped _) (fun _ _ _ => hmade.stopped _)
      fun _ _ => hmade.either) ?_
  rintro metadata _ ⟨rfl, hmetadata⟩
  refine runs_bind (Q := fun _ s' => s₂ = s' ∧ plan.inspect metadata = .ok ())
    (runs_check (fun _ h => ⟨rfl, h⟩) fun _ _ => hmade.stopped _) ?_
  rintro _ _ ⟨rfl, hinspect⟩
  rw [← Option.some.inj ((r.staged hmade.2).2.symm.trans hmetadata)] at hinspect
  refine runs_bind (runs_passed hmade) fun _ s₃ hmade => ?_
  refine runs_bind (runs_writePart hmade) fun _ s₄ hmade => ?_
  refine runs_bind (runs_write hmade) fun _ s₅ hmade => ?_
  refine runs_bind (runs_passed hmade) fun _ s₆ hmade => ?_
  refine runs_bind (runs_change (g := fun f => { f with born := f.mode, synced := true })
    (fun _ hf => ⟨hf.1, hf.2.1, hf.2.1⟩) hmade) fun _ s₇ hmade => ?_
  refine runs_bind (runs_passed hmade) fun _ s₈ hmade => ?_
  refine runs_bind (Q := fun _ s' => s₈ = s') (hagain rfl (fun e => hmade.stopped e) (hmade.either)) ?_
  rintro _ _ rfl
  -- from the rename on, the name may lead to the new file
  obtain ⟨heither, hnew⟩ := r.rename (hinspected hinspect) hmade.2
  refine runs_bind (Q := fun _ s' => p.Same s s' ∧ p.dir s' = (p.dir s₈).rename temp target i) ?_ ?_
  · refine Place.runs_renameFile (r.staged hmade.2).1 ⟨hmade.1.update _, Place.dir_update ..⟩ (fun _ _ _ => hmade.stopped _)
      fun _ _ => ⟨hmade.either, ?_⟩
    change r.either (p.dir (p.update _ s₈))
    rw [Place.dir_update]
    exact heither
  rintro _ s₉ ⟨hsame, hdir⟩
  rw [← hdir] at heither hnew
  have huncertain : ∀ e, ¬ rejected e → (r.leaving p rejected s).failed e s₉ := fun _ he => ⟨hsame, heither, fun h => absurd h he⟩
  refine runs_check_bind (fun e he => huncertain e (hrenamed e he)) fun _ _ => ?_
  refine runs_bind (Q := fun _ s' => p.Same s s' ∧ r.new (p.dir s')) ?_ ?_
  · have hsynced : r.new (p.dir (p.update (·.sync) s₉)) := by
      rw [Place.dir_update]
      exact hnew
    exact runs_act ⟨hsame.update _, hsynced⟩ (fun _ kind _ => huncertain _ (hpublishing kind))
      fun _ _ => ⟨heither, r.new_either hsynced⟩
  rintro _ s₁₀ ⟨hsame₁₀, hnew₁₀⟩
  exact runs_check (fun _ _ => ⟨hsame₁₀, hnew₁₀⟩) fun e he =>
    ⟨hsame₁₀, r.new_either hnew₁₀, fun h => absurd h (hpublished e he)⟩

end Replacing
end Disk
