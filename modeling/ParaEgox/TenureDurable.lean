import ParaEgox.TenureAuthority
import ParaEgox.TenureFrame

/-!
# TenureDurable — what the store's operations leave on the disk

Opening and reading change nothing but the orphaned temporaries.  Publishing leaves the active name at the old file or at
the new one, both whole: at the old one where it was rejected, at the new one where it returned.
-/
namespace ParaEgox
namespace Tenure

open Check Disk Disk.Calls Disk.Directory

variable {σ ε α : Type} {p : Place σ Bytes} {accounts : Accounts} {V : Verdict → Prop} {s : σ}

/-! ## Names -/

theorem tempName_ne_activeFileName (token : Bytes) : activeFileName ≠ tempName token := by
  intro h
  have hhead := congrArg List.head? h
  simp [activeFileName, tempName, tempFilePrefix] at hhead

theorem validTempName_ne_activeFileName {name : Bytes} (h : validTempName name = true) : activeFileName ≠ name := by
  rintro rfl
  exact absurd h (by decide)

/-! ## Reading -/

structure Readable (sha256 : Sha256) (ed : Ed25519) (accounts : Accounts) (d : Directory Bytes) (snapshot : AuthoritySnapshot) :
    Prop where
  file : ∃ i f, d.Opens (validateRegularFile · accounts.ownerUid) activeFileName i f ∧ checkActiveLength f.bytes.length = .ok () ∧
    decodeSnapshot sha256 ed f.bytes = .ok snapshot

theorem runs_readActiveSnapshot {sha256 : Sha256} {ed : Ed25519} {L : Leaving σ StoreOpenError AuthoritySnapshot}
    (hdone : ∀ snapshot, Readable sha256 ed accounts (p.dir s) snapshot → L.done snapshot s)
    (hbad : (¬ ∃ snapshot, Readable sha256 ed accounts (p.dir s) snapshot) → ∀ e, L.failed e s)
    (hfails : ∀ n kind, V (.fails n kind) → ∀ e, L.failed e s) (hhalts : ∀ n, V (.halts n) → L.halted s) :
    Runs V (readActiveSnapshot p accounts sha256 ed) s L := by
  refine runs_bind
    (Q := fun i s' => s = s' ∧ ∃ f, (p.dir s).Opens (validateRegularFile · accounts.ownerUid) activeFileName i f) ?_ ?_
  · refine Place.runs_openChecked (fun i f h => ⟨rfl, f, h⟩) (fun hnone => hbad ?_) hfails hhalts
    rintro ⟨snapshot, ⟨i, f, h, -⟩⟩
    exact hnone ⟨i, f, h⟩
  rintro i _ ⟨rfl, f, hregular⟩
  have hfile := hregular.2.1
  have hstat := fun n kind (hv : V (.fails n kind)) => hfails n kind hv (openIo .readActive kind)
  -- the file that is read determines whether it can be read
  have hunreadable : (¬ ∃ snapshot, checkActiveLength f.bytes.length = .ok () ∧
      decodeSnapshot sha256 ed f.bytes = .ok snapshot) → ¬ ∃ snapshot, Readable sha256 ed accounts (p.dir s) snapshot := by
    rintro hno ⟨snapshot, ⟨j, g, hg, hlength, hdecode⟩⟩
    have hfg : f = g := (hregular.unique hg).2
    exact hno ⟨snapshot, hfg ▸ hlength, hfg ▸ hdecode⟩
  refine Place.runs_stat_bind hfile hstat hhalts ?_
  refine runs_bind (Q := fun _ s' => s = s' ∧ checkActiveLength f.bytes.length = .ok ()) ?_ ?_
  · refine runs_check (fun _ h => ⟨rfl, h⟩) fun e he => hbad (hunreadable ?_) _
    rintro ⟨_, hlength, -⟩
    rw [he] at hlength
    cases hlength
  rintro _ _ ⟨rfl, hlength⟩
  refine runs_ask_bind (fun n kind h => hfails n kind h _) hhalts ?_
  refine Place.runs_stat_bind hfile hstat hhalts (runs_check_passed (Nat.lt_irrefl _) ?_)
  refine Place.runs_stat_bind hfile hstat hhalts (runs_check_passed (not_not.2 List.drop_length) ?_)
  rw [List.take_length]
  refine runs_check (fun snapshot h => hdone snapshot ⟨i, f, hregular, hlength, wrapErr_ok.1 h⟩) fun e he => ?_
  refine hbad (hunreadable ?_) _
  rintro ⟨snapshot, -, hdecode⟩
  rw [hdecode] at he
  cases he

/-! ## Publishing -/

def Holds (accounts : Accounts) (encoded : Bytes) (f : File) : Prop :=
  f.bytes = encoded ∧ validateRegularFile f accounts.ownerUid = .ok ()

/-- Publishing over an active file is replacing it: on every way out the active name leads to a whole file. -/
def replacing (accounts : Accounts) (P : File → Prop) (encoded token : Bytes) :
    Replacing (tempName token) activeFileName accounts.processUid privateFileModeBits encoded
      (Holds accounts encoded ⟨encoded, accounts.processUid, privateFileModeBits, privateFileModeBits, true⟩) where
  before d := d.Safe activeFileName P
  making i f d := d.Staged activeFileName P (tempName token) i f
  old d := d.Safe activeFileName P
  either d := d.Safe activeFileName fun f => P f ∨ Holds accounts encoded f
  new d := d.Safe activeFileName (Holds accounts encoded)
  before_old h := h
  create h := h.staged (tempName_ne_activeFileName token) _ _
  making_old h := h.safe
  staged h := ⟨h.named, h.file⟩
  change _ h := h.modify _
  rename hholds h := ⟨(h.rename rfl).mono fun _ hg => hg.imp id fun heq => by rw [heq]; exact hholds,
    (h.rename_sync rfl).mono fun _ heq => by rw [heq]; exact hholds⟩
  old_either h := h.mono fun _ hf => .inl hf
  new_either h := h.mono fun _ hf => .inr hf

/-- What publishing leaves: the old file where it is rejected, the new one where it returns, one of the two otherwise. -/
def publishing (p : Place σ Bytes) (accounts : Accounts) (P : File → Prop) (encoded token : Bytes) (s : σ) :
    Leaving σ PublishFailure Unit :=
  (replacing accounts P encoded token).leaving p (fun e => ∃ fault, e = .rejectedBeforePublish fault) s

def plan (accounts : Accounts) (failpoint : CommitFailpoint) : Plan PublishFailure where
  creating := rejectedIo .createTemp
  inspecting := rejectedIo .inspectTemp
  writing := rejectedIo .writeTemp
  syncing := rejectedIo .syncTemp
  moving := rejectedIo .rename
  publishing kind := .uncertainAfterPublish (.io .syncDirectory kind)
  inspect file := mapErr (validateRegularFile file accounts.ownerUid) (rejectedInjected .inspectTemp)
  created := rejectIf (failpoint ∈ [.afterTempCreate]) (rejectedInjected .createTemp)
  written := rejectIf (failpoint ∈ [.beforeFileSync]) (rejectedInjected .syncTemp)
  synced := rejectIf (failpoint ∈ [.afterFileSync, .beforeRename]) (rejectedInjected .rename)
  renamed := rejectIf (failpoint ∈ [.afterRename, .beforeDirectorySync]) (uncertainInjected .syncDirectory)
  published := rejectIf (failpoint ∈ [.afterDirectorySyncBeforeReturn]) (uncertainInjected .returnDurableCommit)

theorem uncertain_not_rejected {q : Prop} [Decidable q] {stage : FileStage} {e : PublishFailure}
    (h : rejectIf q (uncertainInjected stage) = .error e) : ¬ ∃ fault, e = .rejectedBeforePublish fault := by
  unfold rejectIf at h
  split at h
  · rw [← Except.error.inj h]
    rintro ⟨fault, hfault⟩
    cases hfault
  · cases h

theorem runs_publishAtomic {P : File → Prop} {encoded token : Bytes} {failpoint : CommitFailpoint}
    (h : (p.dir s).Safe activeFileName P) :
    Runs V (publishAtomic p accounts encoded token .replaceExisting failpoint) s (publishing p accounts P encoded token s) := by
  have hbefore : ∀ {e : PublishFailure}, (publishing p accounts P encoded token s).failed e s :=
    ⟨p.same_refl s, h.mono fun _ hf => .inl hf, fun _ => h⟩
  have hgone : (publishing p accounts P encoded token s).halted s := h.mono fun _ hf => .inl hf
  refine runs_check_bind (fun _ _ => hbefore) fun _ _ => ?_
  refine runs_check_bind (fun _ _ => hbefore) fun _ _ => ?_
  refine runs_bind (Q := fun _ s' => s = s') ?_ ?_
  · refine runs_bind (Q := fun _ s' => s = s') ?_ fun _ _ hs => runs_pure hs
    exact runs_onFailure (Place.runs_openChecked (fun _ _ _ => rfl) (fun _ _ => hbefore) (fun _ _ _ _ => hbefore)
      fun _ _ => hgone)
  rintro _ _ rfl
  exact Replacing.runs_replace (r := replacing accounts P encoded token) (plan accounts failpoint) (pure ())
    (fun hok => ⟨rfl, mapErr_ok.1 hok⟩) (fun hdone _ _ => runs_pure hdone)
    (fun _ => uncertain_not_rejected) (fun _ ⟨_, he⟩ => by cases he) (fun _ => uncertain_not_rejected) h

/-! ## Opening -/

theorem classifyEntry_ok {orphans orphans' : List Bytes} {name : Bytes} (h : classifyEntry orphans name = .ok orphans') :
    orphans' = orphans ∨ (validTempName name = true ∧ orphans' = orphans ++ [name]) := by
  unfold classifyEntry at h
  split at h
  · exact .inl (Except.ok.inj h).symm
  · simp only [bind_ok, rejectIf_ok, exists_unit, pure_ok, Bool.not_eq_false] at h
    obtain ⟨hvalid, -, rfl⟩ := h
    exact .inr ⟨hvalid, rfl⟩

theorem scan_classifyEntry_ok : ∀ {names orphans orphans' : List Bytes}, scan classifyEntry orphans names = .ok orphans' →
    (∀ name ∈ orphans, validTempName name = true) → ∀ name ∈ orphans', validTempName name = true
  | [], orphans, orphans', h, hall => by
    rw [← Except.ok.inj h]
    exact hall
  | name :: names, orphans, orphans', h, hall => by
    obtain ⟨mid, hstep, hrest⟩ := (scan_ok_cons ..).1 h
    refine scan_classifyEntry_ok hrest fun n hn => ?_
    rcases classifyEntry_ok hstep with rfl | ⟨hvalid, rfl⟩
    · exact hall n hn
    · rcases List.mem_append.1 hn with hn | hn
      · exact hall n hn
      · rw [List.mem_singleton.1 hn]
        exact hvalid

section Opening

variable {P : File → Prop} {d : Directory Bytes}

def keeping (P : File → Prop) (D : α → Prop) : Leaving (Directory Bytes) ε α where
  done a d := D a ∧ d.Safe activeFileName P
  failed _ d := d.Safe activeFileName P
  halted d := d.Safe activeFileName P

theorem runs_removeOrphan {name : Bytes} (hname : validTempName name = true) (h : d.Safe activeFileName P) :
    Runs V (removeOrphan bareDirectory accounts name) d (keeping P fun _ => True) := by
  refine runs_bind (Q := fun _ d' => d'.Safe activeFileName P) ?_ fun _ d' h' => ?_
  · exact Place.runs_openChecked (fun _ _ _ => h) (fun _ _ => h) (fun _ _ _ _ => h) fun _ _ => h
  · have hgone : (bareDirectory.update (·.unlink name) d').Safe activeFileName P :=
      h'.unlink (validTempName_ne_activeFileName hname)
    exact runs_act ⟨trivial, hgone⟩ (fun _ _ _ => h') fun _ _ => ⟨h', hgone⟩

theorem runs_cleanValidOrphanTemps (h : d.Safe activeFileName P) :
    Runs V (cleanValidOrphanTemps bareDirectory accounts) d (keeping P fun _ => True) := by
  refine runs_bind (Q := fun _ d' => d'.Safe activeFileName P)
    (runs_ask (fun _ _ => h) (fun _ _ => h) (fun _ _ _ => h) fun _ _ => h) fun names d' h' => ?_
  refine runs_bind (Q := fun orphans d' => (∀ name ∈ orphans, validTempName name = true) ∧ d'.Safe activeFileName P)
    (runs_check (fun orphans ho => ⟨scan_classifyEntry_ok ho (by simp), h'⟩) fun _ _ => h') ?_
  rintro orphans d₁ ⟨hvalid, h₁⟩
  split
  · exact runs_pure ⟨trivial, h₁⟩
  · refine runs_bind (Q := fun _ d' => d'.Safe activeFileName P)
      ((runs_each (I := fun rest d' => (∀ name ∈ rest, validTempName name = true) ∧ d'.Safe activeFileName P)
        (fun name rest d' hd' => ?_) ⟨hvalid, h₁⟩).mono (fun _ _ hd => hd.2) (fun _ _ hd => hd) fun _ hd => hd)
      fun _ d₂ h₂ => ?_
    · obtain ⟨hname, hrest⟩ := List.forall_mem_cons.1 hd'.1
      exact (runs_removeOrphan hname hd'.2).mono (fun _ _ hd => ⟨hrest, hd.2⟩) (fun _ _ hd => hd) fun _ hd => hd
    · exact runs_act ⟨trivial, h₂.sync⟩ (fun _ _ _ => h₂) fun _ _ => ⟨h₂, h₂.sync⟩

theorem runs_openStore {sha256 : Sha256} {ed : Ed25519} {surroundings : Surroundings} {expected : StoreInstanceId}
    {provisioning : AuthorityProvisioning} (h : d.Safe activeFileName P) :
    Runs V (AuthorityStore.openStore sha256 ed accounts surroundings expected provisioning) d
      (keeping P fun store => store.state = .operational ∧
        ∃ f, d.named activeFileName = some f ∧ decodeSnapshot sha256 ed f.bytes = .ok store.snapshot) := by
  refine runs_check_bind (fun _ _ => h) fun _ _ => ?_
  refine runs_bind (Q := fun _ d' => d = d')
    (Place.runs_openChecked (fun _ _ _ => rfl) (fun _ _ => h) (fun _ _ _ _ => h) fun _ _ => h) ?_
  rintro _ _ rfl
  refine runs_ask_bind (fun _ _ _ => h) (fun _ _ => h) ?_
  refine runs_check_bind (fun _ _ => h) fun _ _ => ?_
  refine runs_bind (Q := fun snapshot d' => d = d' ∧ ∃ f, d.named activeFileName = some f ∧
    decodeSnapshot sha256 ed f.bytes = .ok snapshot)
    (runs_readActiveSnapshot (fun snapshot hread => ⟨rfl, ?_⟩) (fun _ _ => h) (fun _ _ _ _ => h) fun _ _ => h) ?_
  · obtain ⟨i, f, ⟨hi, hf, -⟩, -, hdecode⟩ := hread
    exact ⟨f, by rw [named, show d.lookup activeFileName = some i from hi]; exact hf, hdecode⟩
  rintro snapshot _ ⟨rfl, hread⟩
  refine runs_check_bind (fun _ _ => h) fun _ _ => ?_
  refine runs_bind (Q := fun _ d' => d'.Safe activeFileName P)
    ((runs_cleanValidOrphanTemps h).mono (fun _ _ hd => hd.2) (fun _ _ hd => hd) fun _ hd => hd) fun _ d₁ h₁ => ?_
  exact runs_check_bind (fun _ _ => h₁) fun _ _ => runs_pure ⟨⟨rfl, hread⟩, h₁⟩

end Opening

/-! ## The open store -/

def Carries (sha256 : Sha256) (ed : Ed25519) (accounts : Accounts) (snapshot : AuthoritySnapshot) (f : File) : Prop :=
  encodeSnapshot sha256 ed snapshot = .ok f.bytes ∧ validateRegularFile f accounts.ownerUid = .ok ()

section Held

variable {sha256 : Sha256} {ed : Ed25519} {h : Held}

theorem readable_of_carries {d : Directory Bytes} {snapshot : AuthoritySnapshot}
    (hsafe : d.Safe activeFileName (Carries sha256 ed accounts snapshot)) : Readable sha256 ed accounts d snapshot := by
  obtain ⟨i, f, hi, hf, -, hencode, hregular⟩ := hsafe.lookup
  obtain ⟨-, hdecode, hnonempty, hlength⟩ := encodeSnapshot_ok hencode
  refine ⟨i, f, ⟨hi, hf, hregular⟩, ok_check ?_ (rejectIf_neg (not_lt.2 hlength)), hdecode⟩
  exact fun hzero => hnonempty (List.length_eq_zero_iff.1 hzero)

/-- What revalidation leaves: nothing changed where it returns, the store stopped where it found a fault. -/
def revalidating (V : Verdict → Prop) (sha256 : Sha256) (ed : Ed25519) (accounts : Accounts) (h : Held) :
    Leaving Held StoreError AuthoritySnapshot where
  done snapshot h' := h = h' ∧ h.store.state = .operational ∧ snapshot = h.store.snapshot
  failed e h' := (h.store.state = .stopped ∧ e = .stopped ∧ h' = h) ∨ (h.store.state = .operational ∧ h' = h.stop ∧
    (Readable sha256 ed accounts h.dir h.store.snapshot → ∃ v, V v ∧ v ≠ .works))
  halted h' := h = h' ∧ ∃ v, V v ∧ v ≠ .works

theorem Readable.unique {d : Directory Bytes} {snapshot snapshot' : AuthoritySnapshot}
    (h : Readable sha256 ed accounts d snapshot) (h' : Readable sha256 ed accounts d snapshot') : snapshot = snapshot' := by
  obtain ⟨i, f, hf, -, hdecode⟩ := h.file
  obtain ⟨j, g, hg, -, hdecode'⟩ := h'.file
  rw [(hf.unique hg).2, hdecode'] at hdecode
  exact (Except.ok.inj hdecode).symm

theorem runs_ensureOperational {L : Leaving Held StoreError Unit} (hdone : h.store.state = .operational → L.done () h)
    (hfailed : h.store.state = .stopped → L.failed .stopped h) : Runs V AuthorityStore.ensureOperational h L := by
  refine runs_get_check (fun hrunning => hdone ?_) hfailed
  cases hstate : h.store.state with
  | operational => rfl
  | stopped => exact absurd hstate hrunning

theorem runs_revalidateCurrent : Runs V (AuthorityStore.revalidateCurrent sha256 ed accounts) h
    (revalidating V sha256 ed accounts h) := by
  refine runs_bind (Q := fun _ h' => h = h' ∧ h.store.state = .operational)
    (runs_ensureOperational (fun hstate => ⟨rfl, hstate⟩) fun hstate => .inl ⟨hstate, rfl, rfl⟩) ?_
  rintro _ _ ⟨rfl, hstate⟩
  refine runs_bind (Q := fun disk h' => h = h' ∧ Readable sha256 ed accounts h.dir disk) (runs_onFailure ?_) ?_
  · refine runs_readActiveSnapshot (fun disk hread => ⟨rfl, hread⟩) (fun hnone e => ?_) (fun n kind hv e => ?_)
      fun n hv => ⟨rfl, _, hv, by simp⟩
    · exact .inr ⟨hstate, rfl, fun hread => absurd ⟨_, hread⟩ hnone⟩
    · exact .inr ⟨hstate, rfl, fun _ => ⟨_, hv, by simp⟩⟩
  rintro disk _ ⟨rfl, hread⟩
  refine runs_bind (Q := fun held h' => h = held ∧ h = h') (runs_get ⟨rfl, rfl⟩) ?_
  rintro _ _ ⟨rfl, rfl⟩
  refine runs_bind (Q := fun _ h' => h = h') (runs_onFailure (runs_check (fun _ _ => rfl) fun e he => ?_)) ?_
  · refine .inr ⟨hstate, rfl, fun hheld => ?_⟩
    rw [hread.unique hheld, rejectIf_neg (not_not.2 rfl)] at he
    cases he
  rintro _ _ rfl
  exact runs_pure ⟨rfl, hstate, rfl⟩

theorem store_of_same {h' : Held} (hsame : heldDirectory.Same h h') : h'.store = h.store := by
  have hput := congrArg Held.store (hsame h.dir)
  exact hput

/-- What a commit leaves: the next snapshot where it returns; the store stopped over one of the two where it fails. -/
def committing (sha256 : Sha256) (ed : Ed25519) (accounts : Accounts) (h : Held) (next : AuthoritySnapshot) :
    Leaving Held StoreError Unit where
  done _ h' := h'.store = ⟨next, .operational⟩ ∧ h'.dir.Safe activeFileName (Carries sha256 ed accounts next)
  failed _ h' := h'.store = { h.store with state := .stopped } ∧ h'.dir.Safe activeFileName fun f =>
    Carries sha256 ed accounts h.store.snapshot f ∨ Carries sha256 ed accounts next f
  halted h' := h'.dir.Safe activeFileName fun f =>
    Carries sha256 ed accounts h.store.snapshot f ∨ Carries sha256 ed accounts next f

/-- **A commit that returns left the next snapshot durable; one that fails stopped the store.** -/
theorem runs_commit {next : AuthoritySnapshot} {failpoint : CommitFailpoint} {random : Bytes}
    (hsafe : h.dir.Safe activeFileName (Carries sha256 ed accounts h.store.snapshot)) :
    Runs V (AuthorityStore.commit sha256 ed accounts next failpoint random) h (committing sha256 ed accounts h next) := by
  have heither : h.dir.Safe activeFileName fun f =>
      Carries sha256 ed accounts h.store.snapshot f ∨ Carries sha256 ed accounts next f := hsafe.mono fun _ hf => .inl hf
  have hstop : h.stop.store = { h.store with state := .stopped } ∧ h.stop.dir.Safe activeFileName fun f =>
      Carries sha256 ed accounts h.store.snapshot f ∨ Carries sha256 ed accounts next f := ⟨rfl, heither⟩
  refine runs_bind (Q := fun _ h' => h = h' ∧ h.store.state = .operational)
    (runs_ensureOperational (fun hstate => ⟨rfl, hstate⟩) fun hstate => ⟨?_, heither⟩) ?_
  · rw [← hstate]
  rintro _ _ ⟨rfl, hstate⟩
  refine runs_bind (Q := fun held h' => h = held ∧ h = h') (runs_get ⟨rfl, rfl⟩) ?_
  rintro _ _ ⟨rfl, rfl⟩
  refine runs_bind (Q := fun _ h' => h = h') (runs_onFailure (runs_check (fun _ _ => rfl) fun _ _ => hstop)) ?_
  rintro _ _ rfl
  refine runs_bind (Q := fun _ h' => h = h') (runs_revalidateCurrent.mono (fun _ _ hdone => hdone.1) ?_ ?_) ?_
  · rintro e h' (⟨hstopped, -, rfl⟩ | ⟨-, rfl, -⟩)
    · rw [hstate] at hstopped
      cases hstopped
    · exact hstop
  · rintro h' ⟨rfl, -⟩
    exact heither
  rintro _ _ rfl
  refine runs_bind (Q := fun encoded h' => h = h' ∧ encodeSnapshot sha256 ed next = .ok encoded)
    (runs_onFailure (runs_check (fun _ hok => ⟨rfl, hok⟩) fun _ _ => hstop)) ?_
  rintro encoded _ ⟨rfl, hencode⟩
  refine runs_bind (Q := fun _ h' => h = h') (runs_onFailure ?_) ?_
  · refine runs_ask_bind (fun _ _ _ => hstop) (fun _ _ => heither) ?_
    refine runs_check_bind (fun _ _ => hstop) fun _ _ => ?_
    exact runs_pure rfl
  rintro token _ rfl
  have hcarries : ∀ f, Holds accounts encoded f → Carries sha256 ed accounts next f :=
    fun f ⟨hbytes, hregular⟩ => ⟨hbytes ▸ hencode, hregular⟩
  refine runs_bind (Q := fun _ h' => h'.store = h.store ∧ h'.dir.Safe activeFileName (Carries sha256 ed accounts next))
    (runs_onFailure ((runs_publishAtomic hsafe).mono (fun _ h' hdone => ?_) (fun e h' hfailed => ?_) fun h' hhalted => ?_)) ?_
  · exact ⟨store_of_same hdone.1, Safe.mono hdone.2 hcarries⟩
  · refine ⟨?_, Safe.mono hfailed.2.1 fun f hf => hf.imp id (hcarries f)⟩
    have hstore : h'.store = h.store := store_of_same hfailed.1
    change { h'.store with state := .stopped } = _
    rw [hstore]
  · exact Safe.mono hhalted fun f hf => hf.imp id (hcarries f)
  rintro _ h' ⟨hstore, hnext⟩
  refine runs_modify ⟨?_, hnext⟩
  change { h'.store with snapshot := next } = _
  rw [hstore, ← hstate]

end Held

end Tenure
end ParaEgox
