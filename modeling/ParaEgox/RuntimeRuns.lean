import Mathlib.Data.List.Chain
import ParaEgox.RuntimeDurable

/-!
# RuntimeRuns — the runtime store over crashes

Runs of opens, commits and crashes.  What the active file may hold is the snapshot that was settled last, by a commit that
returned or an open that found it, or the one of the commit that was cut short or reported uncertain since; an open settles
which of the two it is, before anything else can be committed.
-/
namespace ParaEgox
namespace RuntimeFiles

open Check Disk Disk.Calls Disk.Directory Journal

variable {c : Contracts} {owner : Nat} {V : Verdict → Prop} {h : Held}

/-! ## The open store -/

theorem runs_ensureOperational {L : Leaving Held RuntimeStoreError Unit} (hdone : h.store.state = .operational → L.done () h)
    (hfailed : h.store.state = .stopped → L.failed .stopped h) : Runs V RuntimeStore.ensureOperational h L := by
  refine runs_get_check (fun hrunning => hdone ?_) hfailed
  cases hstate : h.store.state with
  | operational => rfl
  | stopped => exact absurd hstate hrunning

theorem runs_stopped {α : Type} {f : Unit → Calls Held RuntimeStoreError α} {L : Leaving Held RuntimeStoreError α}
    (hstopped : h.store.state = .stopped) (hfailed : L.failed .stopped h) :
    Runs V (RuntimeStore.ensureOperational >>= f) h L := by
  refine runs_bind (Q := fun _ _ => False) (runs_ensureOperational (fun hstate => ?_) fun _ => hfailed)
    fun _ _ hfalse => hfalse.elim
  rw [hstopped] at hstate
  cases hstate

theorem runs_operational {α : Type} {f : Unit → Calls Held RuntimeStoreError α} {L : Leaving Held RuntimeStoreError α}
    (hstate : h.store.state = .operational) (hrest : Runs V (f ()) h L) : Runs V (RuntimeStore.ensureOperational >>= f) h L := by
  refine runs_bind (Q := fun _ h' => h = h') (runs_ensureOperational (fun _ => rfl) fun hstopped => ?_)
    fun _ _ hsame => hsame ▸ hrest
  rw [hstate] at hstopped
  cases hstopped

theorem runs_revalidateCurrent {L : Leaving Held RuntimeStoreError RuntimeJournalSnapshot}
    (hstate : h.store.state = .operational) (hdone : L.done h.store.active.snapshot h) (hfailed : ∀ e, L.failed e h.stop)
    (hhalted : L.halted h) : Runs V (RuntimeStore.revalidateCurrent c owner) h L := by
  refine runs_operational hstate ?_
  refine runs_bind (Q := fun held h' => h = held ∧ h = h') (runs_get ⟨rfl, rfl⟩) ?_
  rintro _ _ ⟨rfl, rfl⟩
  refine runs_bind (Q := fun _ h' => h = h') (runs_onFailure ?_) ?_
  · refine runs_ask_bind (fun _ _ _ => hfailed _) (fun _ _ => hhalted) ?_
    refine runs_bind (Q := fun _ h' => h = h') (Place.runs_stat (fun _ _ => rfl) (fun _ => hfailed _)
      (fun _ _ _ => hfailed _) fun _ _ => hhalted) ?_
    rintro metadata _ rfl
    refine runs_check_bind (fun _ _ => hfailed _) fun _ _ => ?_
    exact runs_validateNamedFileIdentity (fun _ => rfl) (fun _ _ => hfailed _) (fun _ _ _ _ => hfailed _) fun _ _ => hhalted
  rintro _ _ rfl
  refine runs_bind (Q := fun _ h' => h = h') (runs_onFailure (runs_readActiveSnapshot (fun _ _ _ _ _ => rfl)
    (fun _ _ => hfailed _) (fun _ _ _ _ => hfailed _) fun _ _ => hhalted)) ?_
  rintro disk _ rfl
  refine runs_bind (Q := fun _ h' => h = h') (runs_onFailure (runs_check (fun _ _ => rfl) fun _ _ => hfailed _)) ?_
  rintro _ _ rfl
  exact runs_pure hdone

def Uncertain (e : RuntimeStoreError) : Prop := ∃ fault, e = .publish (.uncertainAfterPublish fault)

instance (e : RuntimeStoreError) : Decidable (Uncertain e) :=
  match e with
  | .publish (.uncertainAfterPublish fault) => .isTrue ⟨fault, rfl⟩
  | .publish (.rejectedBeforePublish _) => .isFalse fun ⟨_, h⟩ => by cases h
  | .stopped => .isFalse fun ⟨_, h⟩ => by cases h
  | .lockOrDirectoryIdentityChanged => .isFalse fun ⟨_, h⟩ => by cases h
  | .activeSnapshotChanged => .isFalse fun ⟨_, h⟩ => by cases h
  | .open _ => .isFalse fun ⟨_, h⟩ => by cases h
  | .journal _ => .isFalse fun ⟨_, h⟩ => by cases h

def Follows (c : Contracts) (current next : RuntimeJournalSnapshot) (f : File) : Prop :=
  f.bytes = next.canonicalWire ∧ next.validateSuccessorOf c current = .ok ()

def committing (c : Contracts) (owner : Nat) (P : File → Prop) (temp : Bytes) (next : RuntimeJournalSnapshot) (h : Held) :
    Leaving Held RuntimeStoreError Unit where
  done _ h' := h'.store.state = .operational ∧ h'.store.active.snapshot = next ∧
    ∃ f, Follows c h.store.active.snapshot next f ∧ Kept owner [] (fun g => g = f) h'.dir
  failed e h' := h'.store.state = .stopped ∧
    Kept owner [temp] (fun f => P f ∨ Follows c h.store.active.snapshot next f) h'.dir ∧
      (¬ Uncertain e → Kept owner [temp] P h'.dir)
  halted h' := Kept owner [temp] (fun f => P f ∨ Follows c h.store.active.snapshot next f) h'.dir

theorem store_of_same {h' : Held} (hsame : heldDirectory.Same h h') : h'.store = h.store := by
  have hput := congrArg Held.store (hsame h.dir)
  exact hput

variable {next s : RuntimeJournalSnapshot} {failpoint : RuntimeCommitFailpoint} {random : Token} {log : List Event}

/-- **A commit that returns left its snapshot durable; one that fails stopped the store, and left the active file as it was
unless it says otherwise.** -/
theorem runs_commit {P : File → Prop} (hstate : h.store.state = .operational) (hkept : Kept owner [] P h.dir) :
    Runs V (RuntimeStore.commit c owner next failpoint random) h (committing c owner P (tempName random) next h) := by
  have hmore : Kept owner [tempName random] P h.dir := hkept.more fun _ hmem => by cases hmem
  have heither := hmore.mono (Q := fun f => P f ∨ Follows c h.store.active.snapshot next f) fun _ hf => .inl hf
  have hstop : ∀ e : RuntimeStoreError, (committing c owner P (tempName random) next h).failed e h.stop :=
    fun _ => ⟨rfl, heither, fun _ => hmore⟩
  refine runs_bind (Q := fun _ h' => h = h' ∧ next.validateSuccessorOf c h.store.active.snapshot = .ok ()) ?_ ?_
  · refine runs_operational hstate ?_
    refine runs_bind (Q := fun held h' => h = held ∧ h = h') (runs_get ⟨rfl, rfl⟩) ?_
    rintro _ _ ⟨rfl, rfl⟩
    refine runs_bind (Q := fun _ h' => h = h' ∧ next.validateSuccessorOf c h.store.active.snapshot = .ok ())
      (runs_onFailure (runs_check (fun _ hok => ⟨rfl, hok⟩) fun _ _ => hstop _)) ?_
    rintro _ _ ⟨rfl, hsuccessor⟩
    refine runs_bind (Q := fun _ h' => h = h') (runs_revalidateCurrent hstate rfl hstop heither) ?_
    rintro _ _ rfl
    exact runs_pure ⟨rfl, hsuccessor⟩
  rintro _ _ ⟨rfl, hsuccessor⟩
  refine runs_bind (Q := fun token h' => h = h' ∧ token = random) (runs_onFailure ?_) ?_
  · refine runs_ask_bind (fun _ _ _ => hstop _) (fun _ _ => heither) ?_
    refine runs_check_bind (fun _ _ => hstop _) fun _ _ => ?_
    exact runs_pure ⟨rfl, rfl⟩
  rintro token _ ⟨rfl, rfl⟩
  refine runs_bind (Q := fun held h' => h = held ∧ h = h') (runs_get ⟨rfl, rfl⟩) ?_
  rintro _ _ ⟨rfl, rfl⟩
  have hfollows : ∀ f : File, f.bytes = next.canonicalWire → Follows c h.store.active.snapshot next f :=
    fun _ hbytes => ⟨hbytes, hsuccessor⟩
  refine runs_bind (Q := fun _ h' => h'.store = h.store ∧
    ∃ f, Follows c h.store.active.snapshot next f ∧ Kept owner [] (fun g => g = f) h'.dir)
    (runs_onFailure ((runs_publishAtomic hkept).mono (fun _ h' hdone => ?_) (fun e h' hfailed => ?_) fun h' hhalted => ?_)) ?_
  · obtain ⟨hsame, f, hbytes, hdurable⟩ := hdone
    exact ⟨store_of_same hsame, f, hfollows f hbytes, hdurable⟩
  · refine ⟨rfl, hfailed.2.1.mono fun f hf => hf.imp id (hfollows f), fun hcertain => hfailed.2.2 ?_⟩
    cases e with
    | rejectedBeforePublish fault => exact ⟨fault, rfl⟩
    | uncertainAfterPublish fault => exact absurd ⟨fault, rfl⟩ hcertain
  · exact hhalted.mono fun f hf => hf.imp id (hfollows f)
  rintro _ h' ⟨hstore, f, hf, hnext⟩
  have hpublished : Kept owner [tempName token] (fun f => P f ∨ Follows c h.store.active.snapshot next f) h'.dir :=
    (hnext.mono fun _ hg => .inr (hg ▸ hf)).more fun _ hmem => by cases hmem
  have huncertain : ∀ fault : RuntimePublishFault,
      (committing c owner P (tempName token) next h).failed (.publish (.uncertainAfterPublish fault)) h'.stop :=
    fun fault => ⟨rfl, hpublished, fun hcertain => absurd ⟨fault, rfl⟩ hcertain⟩
  refine runs_bind (Q := fun _ t => h' = t) (runs_onFailure (runs_readActiveSnapshot (fun _ _ _ _ _ => rfl)
    (fun _ _ => huncertain _) (fun _ _ _ _ => huncertain _) fun _ _ => hpublished)) ?_
  rintro readBack _ rfl
  refine runs_bind (Q := fun _ t => h' = t ∧ readBack.snapshot = next) (runs_onFailure (runs_check (fun _ hok => ?_)
    fun e he => ?_)) ?_
  · exact ⟨rfl, not_not.1 (rejectIf_ok.1 hok)⟩
  · unfold rejectIf at he
    split at he
    · rw [← Except.error.inj he]
      exact huncertain _
    · cases he
  rintro _ _ ⟨rfl, hread⟩
  refine runs_modify ⟨?_, hread, f, hf, hnext⟩
  change h'.store.state = _
  rw [hstore, hstate]

theorem runs_commit_stopped
    (hstopped : h.store.state = .stopped) : Runs V (RuntimeStore.commit c owner next failpoint random) h
      ⟨fun _ _ => False, fun e h' => e = .stopped ∧ h' = h, fun _ => False⟩ :=
  runs_bind (Q := fun _ _ => False) (runs_stopped hstopped ⟨rfl, rfl⟩) fun _ _ hfalse => hfalse.elim

theorem runs_openStore_contended {launch : Launch} {d : Directory Bytes} :
    Runs V (RuntimeStore.openStore c owner launch true) d ⟨fun _ _ => False, fun _ d' => d = d', fun d' => d = d'⟩ := by
  refine runs_check_bind (fun _ _ => rfl) fun _ _ => ?_
  refine runs_check_bind (fun _ _ => rfl) fun _ _ => ?_
  refine runs_check_bind (fun _ _ => rfl) fun _ _ => ?_
  refine runs_bind (Q := fun _ d' => d = d')
    (Place.runs_openChecked (fun _ _ _ => rfl) (fun _ _ => rfl) (fun _ _ _ _ => rfl) fun _ _ => rfl) ?_
  rintro _ _ rfl
  refine runs_ask_bind (fun _ _ _ => rfl) (fun _ _ => rfl) ?_
  refine runs_bind (Q := fun _ _ => False) (runs_check (fun _ hok => ?_) fun _ _ => rfl) fun _ _ hfalse => hfalse.elim
  exact absurd rfl (rejectIf_ok.1 hok)

/-! ## Runs -/

/-- What became of an open or a commit: it returned, it was refused with the active file as it was, or it may have taken
effect. -/
inductive Event
  | opened (snapshot : RuntimeJournalSnapshot)
  | committed (snapshot : RuntimeJournalSnapshot)
  | rejected (snapshot : RuntimeJournalSnapshot)
  | doubtful (snapshot : RuntimeJournalSnapshot)
  deriving DecidableEq

structure World where
  dir : Directory Bytes
  process : Option RuntimeStore
  log : List Event

inductive Action
  | open (launch : Launch) (script : List Verdict)
  | commit (next : RuntimeJournalSnapshot) (failpoint : RuntimeCommitFailpoint) (random : Token) (script : List Verdict)
  | revalidate (script : List Verdict)
  /-- The process is gone, the machine is not. -/
  | kill
  /-- The machine stops. -/
  | crash (reached : List Bool) (torn : Nat → Torn)

def Action.Proper (c : Contracts) : Action → Prop
  | .commit next _ _ _ => next.Built c ∧ next.InRange
  | _ => True

section Step

variable (c : Contracts) (owner : Nat)

def stepOpen (w : World) (launch : Launch) (script : List Verdict) : World :=
  match RuntimeStore.openStore c owner launch w.process.isSome ⟨w.dir, script⟩ with
  | (.ok store, host) => ⟨host.own, some store, w.log ++ [.opened store.active.snapshot]⟩
  | (.error _, host) => { w with dir := host.own }

def stepCommit (w : World) (store : RuntimeStore) (next : RuntimeJournalSnapshot) (failpoint : RuntimeCommitFailpoint)
    (random : Token) (script : List Verdict) : World :=
  match RuntimeStore.commit c owner next failpoint random ⟨⟨w.dir, store⟩, script⟩ with
  | (.ok _, host) => ⟨host.own.dir, some host.own.store, w.log ++ [.committed next]⟩
  | (.error (.failed e), host) => ⟨host.own.dir, some host.own.store,
      w.log ++ [if Uncertain e then .doubtful next else .rejected next]⟩
  | (.error .halted, host) => ⟨host.own.dir, none, w.log ++ [.doubtful next]⟩

def stepRevalidate (w : World) (store : RuntimeStore) (script : List Verdict) : World :=
  match RuntimeStore.revalidateCurrent c owner ⟨⟨w.dir, store⟩, script⟩ with
  | (.error .halted, host) => { w with dir := host.own.dir, process := none }
  | (_, host) => { w with dir := host.own.dir, process := some host.own.store }

def step (w : World) : Action → World
  | .open launch script => stepOpen c owner w launch script
  | .commit next failpoint random script => match w.process with
    | none => w
    | some store => stepCommit c owner w store next failpoint random script
  | .revalidate script => match w.process with
    | none => w
    | some store => stepRevalidate c owner w store script
  | .kill => { w with process := none }
  | .crash reached torn => { w with dir := w.dir.crash reached torn, process := none }

def run (w : World) (actions : List Action) : World := actions.foldl (step c owner) w

/-- The directory an initializer leaves: the lock file and the snapshot it published. -/
def initializedDirectory (snapshot : RuntimeJournalSnapshot) : Directory Bytes where
  files := [⟨[], owner, privateFileModeBits, privateFileModeBits, true⟩,
    ⟨snapshot.canonicalWire, owner, privateFileModeBits, privateFileModeBits, true⟩]
  stable := [(lockFileName, 0), (activeFileName, 1)]
  pending := []

def start (snapshot : RuntimeJournalSnapshot) : World := ⟨initializedDirectory owner snapshot, none, []⟩

end Step

/-! ## What is settled -/

def Event.settles : Event → Option RuntimeJournalSnapshot
  | .opened snapshot | .committed snapshot => some snapshot
  | .rejected _ | .doubtful _ => none

def settled (first : RuntimeJournalSnapshot) (log : List Event) : List RuntimeJournalSnapshot :=
  first :: log.filterMap Event.settles

def lastSettled (first : RuntimeJournalSnapshot) (log : List Event) : RuntimeJournalSnapshot :=
  log.foldl (fun s e => e.settles.getD s) first

def lastDoubt (log : List Event) : Option RuntimeJournalSnapshot :=
  log.foldl (fun d e => match e with
    | .opened _ | .committed _ => none
    | .rejected _ => d
    | .doubtful s => some s) none

theorem lastSettled_append (first : RuntimeJournalSnapshot) (log : List Event) (e : Event) :
    lastSettled first (log ++ [e]) = e.settles.getD (lastSettled first log) := by
  rw [lastSettled, List.foldl_append]
  rfl

theorem lastDoubt_append (log : List Event) (e : Event) : lastDoubt (log ++ [e]) = match e with
    | .opened _ | .committed _ => none
    | .rejected _ => lastDoubt log
    | .doubtful s => some s := by
  rw [lastDoubt, List.foldl_append]
  cases e <;> rfl

def Next (c : Contracts) (previous next : RuntimeJournalSnapshot) : Prop :=
  next = previous ∨ next.validateSuccessorOf c previous = .ok ()

theorem lastSettled_mem_getLast (first : RuntimeJournalSnapshot) (log : List Event) :
    (settled first log).getLast? = some (lastSettled first log) := by
  induction log using List.reverseRecOn with
  | nil => rfl
  | append_singleton log e ih =>
    rw [lastSettled_append]
    unfold settled at ih ⊢
    rw [List.filterMap_append, ← List.cons_append]
    cases he : e.settles with
    | none =>
      rw [List.filterMap_cons_none he, List.filterMap_nil, List.append_nil]
      exact ih
    | some s =>
      rw [List.filterMap_cons_some he, List.filterMap_nil, List.getLast?_append]
      rfl

variable {first : RuntimeJournalSnapshot}

theorem settled_append {e : Event}
    (he : e.settles = some s) (hchain : (settled first log).IsChain (Next c)) (hnext : Next c (lastSettled first log) s) :
    (settled first (log ++ [e])).IsChain (Next c) := by
  have hsplit : settled first (log ++ [e]) = settled first log ++ [s] := by
    simp [settled, List.filterMap_append, he]
  rw [hsplit, List.isChain_append]
  refine ⟨hchain, List.isChain_singleton _, fun x hx y hy => ?_⟩
  rw [lastSettled_mem_getLast, Option.mem_some_iff] at hx
  rw [List.head?_singleton, Option.mem_some_iff] at hy
  rw [← hx, ← hy]
  exact hnext

/-! ## The invariant -/

def Possible (c : Contracts) (first : RuntimeJournalSnapshot) (log : List Event) (f : File) : Prop :=
  f.bytes = (lastSettled first log).canonicalWire ∨ ∃ d, lastDoubt log = some d ∧
    RuntimeJournalSnapshot.decode c d.canonicalWire = .ok d ∧ Follows c (lastSettled first log) d f

def OpensFound (first : RuntimeJournalSnapshot) (log : List Event) : Prop :=
  ∀ before s after, log = before ++ .opened s :: after → s = lastSettled first before ∨ lastDoubt before = some s

theorem OpensFound.append {e : Event} (h : OpensFound first log)
    (hnew : ∀ s, e = .opened s → s = lastSettled first log ∨ lastDoubt log = some s) : OpensFound first (log ++ [e]) := by
  intro before s after heq
  rcases List.eq_nil_or_concat after with rfl | ⟨after', e', rfl⟩
  · obtain ⟨hlog, he⟩ := List.append_inj' heq rfl
    rw [← hlog]
    exact hnew s (List.singleton_inj.1 he)
  · rw [List.concat_eq_append, ← List.cons_append, ← List.append_assoc] at heq
    exact h before s after' (List.append_inj' heq rfl).1

/-- **The invariant of a run.** -/
structure World.Inv (c : Contracts) (owner : Nat) (first : RuntimeJournalSnapshot) (w : World) : Prop where
  kept : ∃ temps : List Bytes, temps.length ≤ 1 ∧ (∀ name ∈ temps, validTempName name = true) ∧
    Kept owner temps (Possible c first w.log) w.dir
  held : ∀ store, w.process = some store → store.state = .operational →
    (∃ f, f.bytes = (lastSettled first w.log).canonicalWire ∧ Kept owner [] (fun g => g = f) w.dir) ∧
      store.active.snapshot = lastSettled first w.log
  wire : RuntimeJournalSnapshot.decode c (lastSettled first w.log).canonicalWire = .ok (lastSettled first w.log)
  opens : OpensFound first w.log
  chain : (settled first w.log).IsChain (Next c)
  identity : (lastSettled first w.log).storeInstanceId = first.storeInstanceId ∧
    (lastSettled first w.log).ownerTargetFingerprint = first.ownerTargetFingerprint

theorem validateSuccessorOf_identity {previous : RuntimeJournalSnapshot}
    (h : next.validateSuccessorOf c previous = .ok ()) : next.storeInstanceId = previous.storeInstanceId ∧
      next.ownerTargetFingerprint = previous.ownerTargetFingerprint := by
  simp only [RuntimeJournalSnapshot.validateSuccessorOf, bind_ok, rejectIf_ok, exists_unit, not_or, not_not, ne_eq] at h
  exact h.1

theorem Possible.decoded {f : File}
    (hwire : RuntimeJournalSnapshot.decode c (lastSettled first log).canonicalWire = .ok (lastSettled first log))
    (h : Possible c first log f) (hdecode : RuntimeJournalSnapshot.decode c f.bytes = .ok s) :
    s = lastSettled first log ∨ (lastDoubt log = some s ∧ s.validateSuccessorOf c (lastSettled first log) = .ok ()) := by
  rcases h with hbytes | ⟨d, hd, hread, hbytes, hsuccessor⟩
  · rw [hbytes, hwire] at hdecode
    exact .inl (Except.ok.inj hdecode).symm
  · rw [hbytes, hread] at hdecode
    rw [← Except.ok.inj hdecode]
    exact .inr ⟨hd, hsuccessor⟩

section Keeping

variable {first : RuntimeJournalSnapshot} {w : World}

theorem inv_crash (hw : w.Inv c owner first) (reached : List Bool) (torn : Nat → Torn) :
    (step c owner w (.crash reached torn)).Inv c owner first := by
  obtain ⟨temps, hfew, hvalid, hkept⟩ := hw.kept
  exact ⟨⟨temps, hfew, hvalid, hkept.crash reached torn⟩, fun _ heq => (by cases heq), hw.wire, hw.opens, hw.chain,
    hw.identity⟩

theorem inv_kill (hw : w.Inv c owner first) : (step c owner w .kill).Inv c owner first :=
  ⟨hw.kept, fun _ heq => (by cases heq), hw.wire, hw.opens, hw.chain, hw.identity⟩

theorem World.Inv.stopped (hw : w.Inv c owner first) {store : RuntimeStore} (hstopped : store.state = .stopped) :
    World.Inv c owner first { w with process := some store } := by
  refine ⟨hw.kept, fun store' heq hstate => ?_, hw.wire, hw.opens, hw.chain, hw.identity⟩
  rw [← Option.some.inj heq, hstopped] at hstate
  cases hstate

theorem inv_revalidate (hw : w.Inv c owner first) (script : List Verdict) :
    (step c owner w (.revalidate script)).Inv c owner first := by
  simp only [step]
  cases hprocess : w.process with
  | none => exact hw
  | some store =>
    have hsame : { w with process := some store } = w := by rw [← hprocess]
    have hrun : Runs (fun _ => True) (RuntimeStore.revalidateCurrent c owner) ⟨w.dir, store⟩
        ⟨fun _ h' => h' = ⟨w.dir, store⟩, fun _ h' => h'.dir = w.dir ∧ h'.store.state = .stopped,
          fun h' => h'.dir = w.dir⟩ := by
      cases hstate : store.state with
      | operational => exact runs_revalidateCurrent hstate rfl (fun _ => ⟨rfl, rfl⟩) rfl
      | stopped => exact runs_stopped hstate ⟨rfl, hstate⟩
    have hleft := hrun script fun _ _ => trivial
    simp only [stepRevalidate]
    match hstep : RuntimeStore.revalidateCurrent c owner ⟨⟨w.dir, store⟩, script⟩ with
    | (.ok _, host) =>
      rw [hstep] at hleft
      change World.Inv c owner first { w with dir := host.own.dir, process := some host.own.store }
      rw [hleft.2, hsame]
      exact hw
    | (.error (.failed e), host) =>
      rw [hstep] at hleft
      change World.Inv c owner first { w with dir := host.own.dir, process := some host.own.store }
      rw [hleft.2.1]
      exact hw.stopped hleft.2.2
    | (.error .halted, host) =>
      rw [hstep] at hleft
      change World.Inv c owner first { w with dir := host.own.dir, process := none }
      rw [hleft]
      exact inv_kill hw

theorem World.Inv.opened (hw : w.Inv c owner first) {store : RuntimeStore} {d : Directory Bytes}
    (hopened : Opened c owner (Possible c first w.log) w.dir store d) :
    World.Inv c owner first ⟨d, some store, w.log ++ [.opened store.active.snapshot]⟩ := by
  obtain ⟨f, hpossible, -, hdecode, hkept⟩ := hopened.file
  have hfound := hpossible.decoded hw.wire hdecode
  have hbytes := (RuntimeJournalSnapshot.decode_built hdecode).2
  have hsettled : lastSettled first (w.log ++ [.opened store.active.snapshot]) = store.active.snapshot :=
    lastSettled_append ..
  have hnow : Kept owner [] (fun g => g.bytes = store.active.snapshot.canonicalWire) d :=
    hkept.mono fun g hg => by rw [hg, hbytes]
  refine ⟨⟨[], Nat.zero_le _, by simp, hnow.mono fun g hg => .inl (by rw [hsettled]; exact hg)⟩, ?_, ?_, ?_, ?_, ?_⟩
  · rintro _ ⟨rfl⟩ -
    rw [hsettled]
    exact ⟨⟨f, hbytes.symm, hkept⟩, rfl⟩
  · rw [hsettled, hbytes]
    exact hdecode
  · refine hw.opens.append fun s hs => ?_
    rw [← Event.opened.inj hs]
    exact hfound.imp id And.left
  · refine settled_append rfl hw.chain ?_
    exact hfound.imp id And.right
  · rw [hsettled]
    rcases hfound with hsame | ⟨-, hsuccessor⟩
    · rw [hsame]
      exact hw.identity
    · obtain ⟨hstore, howner⟩ := validateSuccessorOf_identity hsuccessor
      rw [hstore, howner]
      exact hw.identity

theorem inv_open (hw : w.Inv c owner first) (launch : Launch) (script : List Verdict) :
    (step c owner w (.open launch script)).Inv c owner first := by
  have hdir : ∀ {d : Directory Bytes}, w.dir = d → World.Inv c owner first { w with dir := d } := by
    rintro d rfl
    exact hw
  simp only [step, stepOpen]
  cases hprocess : w.process with
  | some store =>
    have hruns : Runs (fun _ => True) (RuntimeStore.openStore c owner launch true) w.dir ⟨_, _, _⟩ :=
      runs_openStore_contended
    have hleft := hruns script fun _ _ => trivial
    simp only [Option.isSome_some]
    match hstep : RuntimeStore.openStore c owner launch true ⟨w.dir, script⟩ with
    | (.ok store', host) =>
      rw [hstep] at hleft
      exact hleft.2.elim
    | (.error (.failed e), host) =>
      rw [hstep] at hleft
      rw [← hprocess]
      exact hdir hleft.2
    | (.error .halted, host) =>
      rw [hstep] at hleft
      rw [← hprocess]
      exact hdir hleft
  | none =>
    obtain ⟨temps, hfew, hvalid, hkept⟩ := hw.kept
    have hruns : Runs (fun _ => True) (RuntimeStore.openStore c owner launch false) w.dir (opening _ owner temps
        (Possible c first w.log) (Opened c owner (Possible c first w.log) w.dir) _) :=
      runs_openStore hkept hvalid (le_trans hfew (by decide))
    have hleft := hruns script fun _ _ => trivial
    have hcut : ∀ {d : Directory Bytes}, Kept owner temps (Possible c first w.log) d →
        World.Inv c owner first { w with dir := d, process := none } := fun hd =>
      ⟨⟨temps, hfew, hvalid, hd⟩, fun _ heq => (by cases heq), hw.wire, hw.opens, hw.chain, hw.identity⟩
    simp only [Option.isSome_none]
    match hstep : RuntimeStore.openStore c owner launch false ⟨w.dir, script⟩ with
    | (.ok store, host) =>
      rw [hstep] at hleft
      exact hw.opened hleft.2
    | (.error (.failed e), host) =>
      rw [hstep] at hleft
      exact hcut hleft.2.1
    | (.error .halted, host) =>
      rw [hstep] at hleft
      exact hcut hleft.1

theorem World.Inv.unsettled (hw : w.Inv c owner first) {e : Event} (he : e.settles = none)
    (hopens : ∀ s, e ≠ .opened s) {process : Option RuntimeStore} {d : Directory Bytes} {temps : List Bytes}
    (hprocess : ∀ store, process = some store → store.state = .stopped) (hfew : temps.length ≤ 1)
    (hvalid : ∀ name ∈ temps, validTempName name = true) (hkept : Kept owner temps (Possible c first (w.log ++ [e])) d) :
    World.Inv c owner first ⟨d, process, w.log ++ [e]⟩ := by
  have hsettled : lastSettled first (w.log ++ [e]) = lastSettled first w.log := by
    rw [lastSettled_append, he]
    rfl
  refine ⟨⟨temps, hfew, hvalid, hkept⟩, fun store heq hstate => ?_, by rw [hsettled]; exact hw.wire,
    hw.opens.append fun s hs => absurd hs (hopens s), ?_, by rw [hsettled]; exact hw.identity⟩
  · rw [hprocess store heq] at hstate
    cases hstate
  · have hsame : settled first (w.log ++ [e]) = settled first w.log := by
      simp [settled, List.filterMap_append, he]
    rw [hsame]
    exact hw.chain

theorem World.Inv.committed (hw : w.Inv c owner first) {next : RuntimeJournalSnapshot} {store : RuntimeStore}
    {d : Directory Bytes} {f : File} (hread : RuntimeJournalSnapshot.decode c next.canonicalWire = .ok next)
    (hnext : store.active.snapshot = next) (hf : Follows c (lastSettled first w.log) next f)
    (hkept : Kept owner [] (fun g => g = f) d) :
    World.Inv c owner first ⟨d, some store, w.log ++ [.committed next]⟩ := by
  have hsettled : lastSettled first (w.log ++ [.committed next]) = next := lastSettled_append ..
  obtain ⟨hbytes, hsuccessor⟩ := hf
  have hnow : Kept owner [] (fun g => g.bytes = next.canonicalWire) d := hkept.mono fun _ hg => hg ▸ hbytes
  refine ⟨⟨[], Nat.zero_le _, by simp, hnow.mono fun f hf => .inl (by rw [hsettled]; exact hf)⟩, ?_, ?_, ?_, ?_, ?_⟩
  · rintro _ ⟨rfl⟩ -
    rw [hsettled]
    exact ⟨⟨f, hbytes, hkept⟩, hnext⟩
  · rw [hsettled]
    exact hread
  · exact hw.opens.append fun s hs => by cases hs
  · exact settled_append rfl hw.chain (.inr hsuccessor)
  · obtain ⟨hstore, howner⟩ := validateSuccessorOf_identity hsuccessor
    rw [hsettled, hstore, howner]
    exact hw.identity

theorem inv_commit (hw : w.Inv c owner first) {next : RuntimeJournalSnapshot} (hbuilt : next.Built c)
    (hrange : next.InRange) (failpoint : RuntimeCommitFailpoint) (random : Token) (script : List Verdict) :
    (step c owner w (.commit next failpoint random script)).Inv c owner first := by
  have hread := hbuilt.decode hrange
  simp only [step]
  cases hprocess : w.process with
  | none => exact hw
  | some store =>
    simp only [stepCommit]
    cases hstate : store.state with
    | stopped =>
      have hruns : Runs (fun _ => True) (RuntimeStore.commit c owner next failpoint random) ⟨w.dir, store⟩ ⟨_, _, _⟩ :=
        runs_commit_stopped hstate
      have hleft := hruns script fun _ _ => trivial
      match hstep : RuntimeStore.commit c owner next failpoint random ⟨⟨w.dir, store⟩, script⟩ with
      | (.ok _, host) =>
        rw [hstep] at hleft
        exact hleft.2.elim
      | (.error (.failed e), host) =>
        rw [hstep] at hleft
        obtain ⟨-, rfl, hsame⟩ := hleft
        obtain ⟨temps, hfew, hvalid, hkept⟩ := hw.kept
        change World.Inv c owner first ⟨host.own.dir, some host.own.store, w.log ++ [.rejected next]⟩
        rw [hsame]
        refine hw.unsettled rfl (fun _ h => by cases h) ?_ hfew hvalid (hkept.mono fun f hf => ?_)
        · rintro _ ⟨rfl⟩
          exact hstate
        · unfold Possible
          rw [lastSettled_append, lastDoubt_append]
          exact hf
      | (.error .halted, host) =>
        rw [hstep] at hleft
        exact hleft.elim
    | operational =>
      obtain ⟨⟨old, hold, hkept⟩, hcurrent⟩ := hw.held store hprocess hstate
      have hruns : Runs (fun _ => True) (RuntimeStore.commit c owner next failpoint random) ⟨w.dir, store⟩
          (committing c owner _ (tempName random) next ⟨w.dir, store⟩) := runs_commit hstate hkept
      have hleft := hruns script fun _ _ => trivial
      have hone : [tempName random].length ≤ 1 := Nat.le_refl 1
      have htemp : ∀ name ∈ [tempName random], validTempName name = true := by
        intro name hname
        rw [List.mem_singleton.1 hname]
        exact validTempName_tempName random
      -- the file of the old snapshot or of the one that follows it
      have hdoubt : ∀ {f : File}, (f = old ∨ Follows c store.active.snapshot next f) →
          Possible c first (w.log ++ [.doubtful next]) f := by
        intro f hf
        unfold Possible
        rw [lastSettled_append, lastDoubt_append]
        rw [hcurrent] at hf
        rcases hf with rfl | hfollows
        · exact .inl hold
        · exact .inr ⟨next, rfl, hread, hfollows⟩
      match hstep : RuntimeStore.commit c owner next failpoint random ⟨⟨w.dir, store⟩, script⟩ with
      | (.ok _, host) =>
        rw [hstep] at hleft
        obtain ⟨-, -, hnext, f, hfollows, hdurable⟩ := hleft
        exact hw.committed hread hnext (hcurrent ▸ hfollows) hdurable
      | (.error (.failed e), host) =>
        rw [hstep] at hleft
        obtain ⟨-, hstopped, heither, hcertain⟩ := hleft
        have hprocess' : ∀ store', some host.own.store = some store' → store'.state = .stopped := by
          rintro _ ⟨rfl⟩
          exact hstopped
        change World.Inv c owner first ⟨host.own.dir, some host.own.store,
          w.log ++ [if Uncertain e then .doubtful next else .rejected next]⟩
        by_cases hu : Uncertain e
        · rw [if_pos hu]
          exact hw.unsettled rfl (fun _ h => by cases h) hprocess' hone htemp (heither.mono fun f hf => hdoubt hf)
        · rw [if_neg hu]
          refine hw.unsettled rfl (fun _ h => by cases h) hprocess' hone htemp ((hcertain hu).mono fun f hf => .inl ?_)
          rw [lastSettled_append, hf]
          exact hold
      | (.error .halted, host) =>
        rw [hstep] at hleft
        exact hw.unsettled rfl (fun _ h => by cases h) (fun _ h => by cases h) hone htemp
          (hleft.mono fun f hf => hdoubt hf)

end Keeping

theorem inv_start (hbuilt : first.Built c) (hrange : first.InRange) : (start owner first).Inv c owner first := by
  have hne : lockFileName ≠ activeFileName := lockFileName_ne_activeFileName
  have hactive : (start owner first).dir.outcomes activeFileName = [some 1] := by
    simp [start, initializedDirectory, outcomes, Assoc.get_cons, hne]
  have hlock : (start owner first).dir.outcomes lockFileName = [some 0] := by
    simp [start, initializedDirectory, outcomes, Assoc.get_cons]
  have hother : ∀ k, k ≠ lockFileName → k ≠ activeFileName → (start owner first).dir.outcomes k = [none] := by
    intro k hl ha
    simp [start, initializedDirectory, outcomes, Assoc.get_cons, hl.symm, ha.symm]
  refine ⟨⟨[], Nat.zero_le _, by simp, ⟨?_, ?_, ⟨?_, ?_⟩⟩⟩, fun _ heq => (by cases heq), hbuilt.decode hrange, ?_, ?_, rfl, rfl⟩
  · intro o ho
    rw [hactive, List.mem_singleton] at ho
    exact ⟨1, _, ho, rfl, rfl, .inl rfl⟩
  · intro o ho
    rw [hlock, List.mem_singleton] at ho
    exact ⟨0, _, ho, rfl, rfl, trivial⟩
  · intro k i hi
    by_cases hl : k = lockFileName
    · subst hl
      rw [hlock, List.mem_singleton] at hi
      rw [Option.some.inj hi]
      exact ⟨.inl rfl, _, rfl, rfl, rfl, rfl⟩
    · by_cases ha : k = activeFileName
      · subst ha
        rw [hactive, List.mem_singleton] at hi
        rw [Option.some.inj hi]
        exact ⟨.inr (.inl rfl), _, rfl, rfl, rfl, rfl⟩
      · rw [hother k hl ha, List.mem_singleton] at hi
        cases hi
  · exact List.nodup_cons.2 ⟨by simpa using hne, List.nodup_singleton _⟩
  · intro before s after hlog
    cases before <;> cases hlog
  · exact List.isChain_singleton _

theorem inv_step {w : World} (hw : w.Inv c owner first) :
    ∀ {action : Action}, action.Proper c → (step c owner w action).Inv c owner first
  | .open launch script, _ => inv_open hw launch script
  | .commit _ failpoint random script, hproper => inv_commit hw hproper.1 hproper.2 failpoint random script
  | .revalidate script, _ => inv_revalidate hw script
  | .kill, _ => inv_kill hw
  | .crash reached torn, _ => inv_crash hw reached torn

/-- **Every run keeps the invariant.** -/
theorem inv_run : ∀ (actions : List Action) {w : World}, (∀ a ∈ actions, a.Proper c) →
    w.Inv c owner first → (run c owner w actions).Inv c owner first
  | [], _, _, hw => hw
  | _ :: actions, _, hproper, hw =>
    inv_run actions (List.forall_mem_cons.1 hproper).2 (inv_step hw (List.forall_mem_cons.1 hproper).1)

/-! ## The store over crashes -/

/-- The active file of the directory is whole, and holds the snapshot that was settled last or one that follows it and whose
commit was cut short or reported uncertain since. -/
def Found (c : Contracts) (first : RuntimeJournalSnapshot) (log : List Event) (d : Directory Bytes) : Prop :=
  ∃ f s, d.named activeFileName = some f ∧ RuntimeJournalSnapshot.decode c f.bytes = .ok s ∧
    (s = lastSettled first log ∨ (lastDoubt log = some s ∧ s.validateSuccessorOf c (lastSettled first log) = .ok ()))

theorem Kept.found {temps : List Bytes} {d : Directory Bytes}
    (hwire : RuntimeJournalSnapshot.decode c (lastSettled first log).canonicalWire = .ok (lastSettled first log))
    (h : Kept owner temps (Possible c first log) d) : Found c first log d := by
  obtain ⟨f, hf, hpossible⟩ := h.active.named
  rcases hpossible with hbytes | ⟨s, hs, hread, hbytes, hsuccessor⟩
  · exact ⟨f, _, hf, by rw [hbytes]; exact hwire, .inl rfl⟩
  · exact ⟨f, s, hf, by rw [hbytes]; exact hread, .inr ⟨hs, hsuccessor⟩⟩

/-- **A failed commit stops the store, and a certain one leaves the active file alone.** -/
theorem commit_failed {script : List Verdict} {e : RuntimeStoreError} {host : Host Held} {f : File}
    (hkept : h.store.state = .operational → Kept owner [] (fun g => g = f) h.dir)
    (hfailed : RuntimeStore.commit c owner next failpoint random ⟨h, script⟩ = (.error (.failed e), host)) :
    host.own.store.state = .stopped ∧ (¬ Uncertain e → h.dir.named activeFileName = some f →
      host.own.dir.named activeFileName = some f ∧ (h.store.state = .operational → ∀ reached torn,
        (host.own.dir.crash reached torn).named activeFileName = some f)) := by
  cases hstate : h.store.state with
  | stopped =>
    have hruns : Runs (fun _ => True) (RuntimeStore.commit c owner next failpoint random) h ⟨_, _, _⟩ :=
      runs_commit_stopped hstate
    have hleft := hruns script fun _ _ => trivial
    rw [hfailed] at hleft
    obtain ⟨-, -, hsame⟩ := hleft
    rw [hsame]
    exact ⟨hstate, fun _ hnamed => ⟨hnamed, fun hworking => by cases hworking⟩⟩
  | operational =>
    have hruns : Runs (fun _ => True) (RuntimeStore.commit c owner next failpoint random) h
        (committing c owner _ (tempName random) next h) := runs_commit hstate (hkept hstate)
    have hleft := hruns script fun _ _ => trivial
    rw [hfailed] at hleft
    obtain ⟨-, hstopped, -, hcertain⟩ := hleft
    refine ⟨hstopped, fun hu _ => ?_⟩
    have hafter := hcertain hu
    obtain ⟨g, hg, rfl⟩ := hafter.active.named
    refine ⟨hg, fun _ reached torn => ?_⟩
    obtain ⟨g', hg', rfl⟩ := (hafter.active.crash reached torn).named
    exact hg'

theorem refused {α : Type} (hstopped : h.store.state = .stopped) (f : Unit → Calls Held RuntimeStoreError α)
    (script : List Verdict) :
    (RuntimeStore.ensureOperational >>= f) ⟨h, script⟩ = (.error (.failed .stopped), ⟨h, script⟩) := by
  have hensure : RuntimeStore.ensureOperational ⟨h, script⟩ = (.error (.failed .stopped), ⟨h, script⟩) := by
    change check (rejectIf (h.store.state = .stopped) RuntimeStoreError.stopped) (⟨h, script⟩ : Host Held) = _
    rw [rejectIf, if_pos hstopped]
    rfl
  change Stateful.follow f (RuntimeStore.ensureOperational ⟨h, script⟩) = _
  rw [hensure]
  rfl

theorem asBytes_ne_zero {d : Digest32} (h : d ≠ 0) : d.asBytes.all (· = 0) ≠ true := by
  intro hall
  refine h (Digest32.asBytes_inj ?_)
  have hzeros : d.asBytes = List.replicate 32 0 := by
    refine List.eq_replicate_iff.2 ⟨d.asBytes_length, fun b hb => ?_⟩
    simpa using List.all_eq_true.1 hall b hb
  rw [hzeros]
  decide

theorem identity_ne_zero {bytes : Bytes} (h : RuntimeJournalSnapshot.decode c bytes = .ok s) :
    s.storeInstanceId ≠ 0 ∧ s.ownerTargetFingerprint ≠ 0 := by
  obtain ⟨checksum, hd⟩ := (RuntimeJournalSnapshot.decode_ok c bytes s).1 h
  have henvelope := (RuntimeJournalSnapshot.decodeForPayloadVersion_ok hd).1.envelope
  simp only [validateEnvelopeIdentity, ensureNonzeroDigest, bind_ok, rejectIf_ok, exists_unit] at henvelope
  exact ⟨henvelope.1, henvelope.2.1⟩

theorem World.Inv.welcome {w : World} (hw : w.Inv c owner first) {launch : Launch}
    (hinspected : launch.inspection = .ok ()) (hstore : launch.expectedStoreInstanceId = first.storeInstanceId)
    (htarget : launch.expectedTargetFingerprint = first.ownerTargetFingerprint) :
    ∀ f, Possible c first w.log f → Welcome c launch false f := by
  have hzero := identity_ne_zero hw.wire
  rw [hw.identity.1, hw.identity.2] at hzero
  intro f hf
  refine ⟨hinspected, rfl, ?_, by rw [hstore]; exact asBytes_ne_zero hzero.1,
    by rw [htarget]; exact asBytes_ne_zero hzero.2⟩
  rw [hstore, htarget]
  rcases hf with hbytes | ⟨s, -, hread, hbytes, hsuccessor⟩
  · exact ⟨_, by rw [hbytes]; exact hw.wire, hw.identity⟩
  · obtain ⟨hs, ht⟩ := validateSuccessorOf_identity hsuccessor
    exact ⟨s, by rw [hbytes]; exact hread, hs.trans hw.identity.1, ht.trans hw.identity.2⟩

/-- **The runtime store is crash consistent.**  Over every run of opens, commits, revalidations and crashes, whatever the
host answers and whichever of the pending changes reach the disk: an open finds the snapshot that was settled last, by a
commit that returned or an open that found it, or the one whose commit was cut short or reported uncertain since; so does
every look at the active file, before and after the machine stops, and what it finds is whole.  The settled snapshots are a
chain of accepted successors.  A commit that fails stops the store, and leaves the active file as it was unless it says
otherwise; a stopped store refuses everything.  Without a process that holds it, the store of the first snapshot opens, and
what the open removes is exactly the temporaries. -/
theorem runtime_store_crash_consistent (c : Contracts) (owner : Nat)
    (hbuilt : first.Built c) (hrange : first.InRange) (actions : List Action) (hproper : ∀ a ∈ actions, a.Proper c)
    (w : World) (hw : w = run c owner (start owner first) actions) :
    (∀ before s after, w.log = before ++ .opened s :: after → s = lastSettled first before ∨ lastDoubt before = some s) ∧
    Found c first w.log w.dir ∧ (∀ reached torn, Found c first w.log (w.dir.crash reached torn)) ∧
    (settled first w.log).IsChain (Next c) ∧
    (∀ store, w.process = some store →
      (∀ next failpoint random script e host,
        RuntimeStore.commit c owner next failpoint random ⟨⟨w.dir, store⟩, script⟩ = (.error (.failed e), host) →
          host.own.store.state = .stopped ∧ (¬ Uncertain e →
            host.own.dir.named activeFileName = w.dir.named activeFileName ∧ (store.state = .operational →
              ∀ reached torn, (host.own.dir.crash reached torn).named activeFileName = w.dir.named activeFileName))) ∧
      (store.state = .stopped → ∀ script,
        RuntimeStore.snapshot ⟨⟨w.dir, store⟩, script⟩ = (.error (.failed .stopped), ⟨⟨w.dir, store⟩, script⟩) ∧
        RuntimeStore.revalidateCurrent c owner ⟨⟨w.dir, store⟩, script⟩ =
          (.error (.failed .stopped), ⟨⟨w.dir, store⟩, script⟩) ∧
        ∀ next failpoint random, RuntimeStore.commit c owner next failpoint random ⟨⟨w.dir, store⟩, script⟩ =
          (.error (.failed .stopped), ⟨⟨w.dir, store⟩, script⟩))) ∧
    (w.process = none → ∀ launch : Launch, launch.inspection = .ok () →
      launch.expectedStoreInstanceId = first.storeInstanceId →
      launch.expectedTargetFingerprint = first.ownerTargetFingerprint → ∀ script, (∀ v ∈ script, v = .works) →
        ∃ store host, RuntimeStore.openStore c owner launch false ⟨w.dir, script⟩ = (.ok store, host) ∧
          store.state = .operational ∧ Cleaned w.dir host.own ∧
            (store.active.snapshot = lastSettled first w.log ∨ lastDoubt w.log = some store.active.snapshot)) := by
  have hinv : w.Inv c owner first := hw ▸ inv_run actions hproper (inv_start hbuilt hrange)
  obtain ⟨temps, hfew, hvalid, hkept⟩ := hinv.kept
  refine ⟨hinv.opens, hkept.found hinv.wire, fun reached torn => (hkept.crash reached torn).found hinv.wire, hinv.chain,
    fun store hstore => ⟨fun next failpoint random script e host hfailed => ?_, fun hstopped script => ?_⟩, ?_⟩
  · obtain ⟨f, hnamed, -⟩ := hkept.active.named
    have hone : store.state = .operational → Kept owner [] (fun g => g = f) w.dir := by
      intro hstate
      obtain ⟨⟨g, -, hheld⟩, -⟩ := hinv.held store hstore hstate
      obtain ⟨g', hg', rfl⟩ := hheld.active.named
      rw [hnamed] at hg'
      rw [Option.some.inj hg']
      exact hheld
    rw [hnamed]
    obtain ⟨hstopped, hcertain⟩ := commit_failed hone hfailed
    exact ⟨hstopped, fun hu => hcertain hu hnamed⟩
  · refine ⟨refused hstopped _ script, refused hstopped _ script, fun next failpoint random => ?_⟩
    have hprepare : RuntimeStore.prepareCommit c owner next ⟨⟨w.dir, store⟩, script⟩ =
      (.error (.failed .stopped), ⟨⟨w.dir, store⟩, script⟩) := refused hstopped _ script
    change Stateful.follow _ (RuntimeStore.prepareCommit c owner next ⟨⟨w.dir, store⟩, script⟩) = _
    rw [hprepare]
    rfl
  · intro hnone launch hinspected hid htarget script hscript
    have hruns : Runs (fun v => v = .works) (RuntimeStore.openStore c owner launch false) w.dir (opening _ owner temps
        (Possible c first w.log) (Opened c owner (Possible c first w.log) w.dir) _) :=
      runs_openStore hkept hvalid (le_trans hfew (by decide))
    have hleft := hruns script hscript
    match hstep : RuntimeStore.openStore c owner launch false ⟨w.dir, script⟩ with
    | (.ok store, host) =>
      rw [hstep] at hleft
      obtain ⟨-, hstate, hcleaned, f, hpossible, -, hdecode, -⟩ := hleft
      exact ⟨store, host, rfl, hstate, hcleaned, (hpossible.decoded hinv.wire hdecode).imp id And.left⟩
    | (.error (.failed e), host) =>
      rw [hstep] at hleft
      obtain ⟨v, hv, hne⟩ := hleft.2.2 (hinv.welcome hinspected hid htarget)
      exact absurd hv hne
    | (.error .halted, host) =>
      rw [hstep] at hleft
      obtain ⟨-, v, hv, hne⟩ := hleft
      exact absurd hv hne

/-! ## A recovered snapshot -/

def lastCommitted (first : RuntimeJournalSnapshot) (log : List Event) : RuntimeJournalSnapshot :=
  log.foldl (fun s e => match e with
    | .committed s' => s'
    | _ => s) first

def lastInterrupted (log : List Event) : Option RuntimeJournalSnapshot :=
  log.foldl (fun s e => match e with
    | .doubtful s' => some s'
    | _ => s) none

def sampleChain : Res (RuntimeJournalSnapshot × RuntimeJournalSnapshot × RuntimeJournalSnapshot) := do
  let first ← Sample.initialized
  let second ← first.tryStartupInvalidationSuccessor Sample.contracts
  let third ← second.tryStartupInvalidationSuccessor Sample.contracts
  pure (first, second, third)

def sampleToken : Token := ⟨List.replicate tempTokenBytes 1, by decide⟩

/-- The first commit is cut short after its rename, which reaches the disk; the next one before its first call. -/
def sampleActions (second third : RuntimeJournalSnapshot) : List Action :=
  let launch : Launch := ⟨.ok (), Sample.store, Sample.owner⟩
  let torn := fun _ => ⟨[], false⟩
  [.open launch [], .commit second .none sampleToken (List.replicate 23 .works ++ [.halts 1]), .crash [true, true] torn,
    .open launch [], .commit third .none sampleToken [.halts 0], .crash [] torn, .open launch []]

def sampleHolds : Bool :=
  match sampleChain with
  | .error _ => false
  | .ok (first, second, third) =>
    decide ((run Sample.contracts 20 (start 20 first) (sampleActions second third)).log =
      [.opened first, .doubtful second, .opened second, .doubtful third, .opened second]) &&
    decide (second ≠ first ∧ second ≠ third) &&
    [first, second, third].all fun s => decide (s.sequence ≤ u64Max) && s.state.words.all fun n => decide (n ≤ u64Max)

theorem sampleChain_ok : ∃ first second third, sampleChain = .ok (first, second, third) ∧
    (run Sample.contracts 20 (start 20 first) (sampleActions second third)).log =
      [.opened first, .doubtful second, .opened second, .doubtful third, .opened second] ∧
    second ≠ first ∧ second ≠ third ∧ ∀ s ∈ [first, second, third], s.Built Sample.contracts ∧ s.InRange := by
  have hholds : sampleHolds = true := by decide +kernel
  unfold sampleHolds at hholds
  cases hchain : sampleChain with
  | error e =>
    rw [hchain] at hholds
    cases hholds
  | ok chain =>
    obtain ⟨first, second, third⟩ := chain
    rw [hchain] at hholds
    simp only [Bool.and_eq_true, decide_eq_true_iff, List.all_eq_true] at hholds
    obtain ⟨⟨hlog, hfirst, hthird⟩, hranges⟩ := hholds
    simp only [sampleChain, bind_ok, pure_ok, Prod.mk.injEq] at hchain
    obtain ⟨_, ha, _, hb, _, hd, rfl, rfl, rfl⟩ := hchain
    refine ⟨_, _, _, rfl, hlog, hfirst, hthird, fun s hs => ⟨?_, (hranges s hs).1, (hranges s hs).2⟩⟩
    simp only [List.mem_cons, List.not_mem_nil, or_false] at hs
    rcases hs with rfl | rfl | rfl
    · exact RuntimeJournalSnapshot.Initial.built ⟨_, _, _, ha⟩
    · exact (RuntimeJournalSnapshot.Builder.call_step (b := .startupInvalidation) hb).built
    · exact (RuntimeJournalSnapshot.Builder.call_step (b := .startupInvalidation) hd).built

theorem sampleActions_proper {second third : RuntimeJournalSnapshot}
    (hsecond : second.Built Sample.contracts ∧ second.InRange) (hthird : third.Built Sample.contracts ∧ third.InRange) :
    ∀ a ∈ sampleActions second third, a.Proper Sample.contracts := by
  intro a ha
  simp only [sampleActions, List.mem_cons, List.not_mem_nil, or_false] at ha
  rcases ha with rfl | rfl | rfl | rfl | rfl | rfl | rfl
  · trivial
  · exact hsecond
  · trivial
  · trivial
  · exact hthird
  · trivial
  · trivial

/-- **An open may find a snapshot whose commit never returned and was not the last one to be cut short**: one that an
earlier open recovered. -/
theorem open_finds_recovered_snapshot : ¬ ∀ (c : Contracts) (owner : Nat) (first : RuntimeJournalSnapshot)
    (actions : List Action), first.Built c → first.InRange → (∀ a ∈ actions, a.Proper c) →
      ∀ before s after, (run c owner (start owner first) actions).log = before ++ .opened s :: after →
        s = lastCommitted first before ∨ lastInterrupted before = some s := by
  intro h
  obtain ⟨first, second, third, -, hlog, hfirst, hthird, hbuilt⟩ := sampleChain_ok
  have hproper := sampleActions_proper (hbuilt second (by simp)) (hbuilt third (by simp))
  have hfound := h Sample.contracts 20 first (sampleActions second third) (hbuilt first (by simp)).1
    (hbuilt first (by simp)).2 hproper [.opened first, .doubtful second, .opened second, .doubtful third] second [] hlog
  rcases hfound with hsame | hsame
  · exact hfirst hsame
  · exact hthird (Option.some.inj hsame).symm

theorem runtime_store_crash_consistent_sample : ∃ first second third, sampleChain = .ok (first, second, third) ∧
    (settled first (run Sample.contracts 20 (start 20 first) (sampleActions second third)).log).IsChain
      (Next Sample.contracts) ∧
    settled first (run Sample.contracts 20 (start 20 first) (sampleActions second third)).log =
      [first, first, second, second] := by
  obtain ⟨first, second, third, hchain, hlog, -, -, hbuilt⟩ := sampleChain_ok
  have hproper := sampleActions_proper (hbuilt second (by simp)) (hbuilt third (by simp))
  obtain ⟨-, -, -, hsettled, -⟩ := runtime_store_crash_consistent Sample.contracts 20 (hbuilt first (by simp)).1
    (hbuilt first (by simp)).2 (sampleActions second third) hproper _ rfl
  refine ⟨first, second, third, hchain, hsettled, ?_⟩
  rw [hlog]
  rfl

end RuntimeFiles
end ParaEgox
