import ParaEgox.RuntimeStore

/-!
# RuntimeDurable — what the runtime store's operations leave on the disk

On every way out of every operation the active name leads to a whole file, the lock stays what it is, and beside them there
is at most the temporary of the commit that was cut short.
-/
namespace ParaEgox
namespace RuntimeFiles

open Check Disk Disk.Calls Disk.Directory Journal

variable {σ ε α : Type} {p : Place σ Bytes} {owner : Nat} {V : Verdict → Prop} {s : σ}

/-! ## Names -/

theorem isLowerHex_hexDigit {n : Nat} (h : n < 16) :
    (48 ≤ hexDigit n ∧ hexDigit n ≤ 57) ∨ (97 ≤ hexDigit n ∧ hexDigit n ≤ 102) := by
  have hall : ∀ m : Fin 16, (48 ≤ hexDigit m ∧ hexDigit m ≤ 57) ∨ (97 ≤ hexDigit m ∧ hexDigit m ≤ 102) := by decide
  exact hall ⟨n, h⟩

theorem lowerHex_length (bytes : Bytes) : (lowerHex bytes).length = bytes.length * 2 := by
  induction bytes with
  | nil => rfl
  | cons b bs ih =>
    have hcons : (lowerHex (b :: bs)).length = (lowerHex bs).length + 2 := rfl
    rw [hcons, ih, List.length_cons]
    omega

theorem isLowerHex_lowerHex (bytes : Bytes) : isLowerHex (lowerHex bytes) = true := by
  refine List.all_eq_true.2 fun byte hbyte => ?_
  obtain ⟨b, -, hb⟩ := List.mem_flatMap.1 hbyte
  have hlow : b.toNat % 16 < 16 := Nat.mod_lt _ (by decide)
  have hhigh : b.toNat / 16 < 16 := by
    have := b.toNat_lt
    omega
  rw [decide_eq_true_iff]
  rcases List.mem_cons.1 hb with rfl | hb
  · exact isLowerHex_hexDigit hhigh
  · rw [List.mem_singleton.1 hb]
    exact isLowerHex_hexDigit hlow

theorem validTempName_tempName (token : Token) : validTempName (tempName token) = true := by
  have hsuffix : (tempName token).drop tempFilePrefix.length = lowerHex token.val := List.drop_left
  simp only [validTempName, Bool.and_eq_true, decide_eq_true_iff, hsuffix]
  refine ⟨List.isPrefixOf_iff_prefix.2 ⟨_, rfl⟩, ?_, isLowerHex_lowerHex token.val⟩
  rw [lowerHex_length, token.property]
  rfl

theorem validTempName_ne_activeFileName {name : Bytes} (h : validTempName name = true) : activeFileName ≠ name := by
  rintro rfl
  exact absurd h (by decide)

theorem validTempName_ne_lockFileName {name : Bytes} (h : validTempName name = true) : lockFileName ≠ name := by
  rintro rfl
  exact absurd h (by decide)

theorem lockFileName_ne_activeFileName : lockFileName ≠ activeFileName := by decide

/-! ## The directory of a store -/

def Known (temps : List Bytes) (name : Bytes) : Prop := name = lockFileName ∨ name = activeFileName ∨ name ∈ temps

def Private (owner : Nat) (f : File) : Prop :=
  f.uid = owner ∧ f.mode = privateFileModeBits ∧ f.born = privateFileModeBits

theorem Private.regular {f : File} (h : Private owner f) : validateRegularFile f owner = .ok () :=
  ok_check (not_not.2 h.1) (rejectIf_neg (not_not.2 h.2.1))

/-- **A directory in order**: wherever its names may be found after the machine stopped, the active name leads to a whole
file of that kind, the lock is there, and there is nothing else but these temporaries. -/
structure Kept (owner : Nat) (temps : List Bytes) (P : File → Prop) (d : Directory Bytes) : Prop where
  active : d.Safe activeFileName P
  lock : d.Safe lockFileName fun _ => True
  tidy : d.Tidy (Known temps) (Private owner)

section Kept

variable {temps : List Bytes} {P Q : File → Prop} {d : Directory Bytes}

theorem Kept.mono (h : Kept owner temps P d) (hpq : ∀ f, P f → Q f) : Kept owner temps Q d :=
  ⟨h.active.mono hpq, h.lock, h.tidy⟩

theorem Kept.more {temps' : List Bytes} (h : Kept owner temps P d) (hsub : ∀ name ∈ temps, name ∈ temps') :
    Kept owner temps' P d :=
  ⟨h.active, h.lock, h.tidy.mono fun _ _ _ hknown => hknown.imp id (Or.imp id (hsub _))⟩

theorem Kept.crash (h : Kept owner temps P d) (reached : List Bool) (torn : Nat → Torn) :
    Kept owner temps P (d.crash reached torn) where
  active := h.active.crash reached torn
  lock := h.lock.crash reached torn
  tidy := h.tidy.crash reached torn fun f i ⟨huid, hmode, hborn⟩ => ⟨huid, by split <;> assumption, hborn⟩

theorem Kept.unlink {name : Bytes} (h : Kept owner temps P d) (hname : validTempName name = true) :
    Kept owner temps P (d.unlink name) where
  active := h.active.unlink (validTempName_ne_activeFileName hname)
  lock := h.lock.unlink (validTempName_ne_lockFileName hname)
  tidy := h.tidy.unlink

theorem Kept.sync (h : Kept owner temps P d) : Kept owner temps P d.sync where
  active := h.active.sync
  lock := h.lock.sync
  tidy := h.tidy.sync.mono fun _ _ _ hknown => hknown.1

theorem Kept.sync_clean (h : Kept owner temps P d) (hnone : ∀ name ∈ temps, d.lookup name = none) :
    Kept owner [] P d.sync where
  active := h.active.sync
  lock := h.lock.sync
  tidy := h.tidy.sync.mono fun k _ _ hknown => by
    rcases hknown.1 with hlock | hactive | htemp
    · exact .inl hlock
    · exact .inr (.inl hactive)
    · exact absurd (hnone k htemp) hknown.2

theorem Kept.opens (h : Kept owner temps P d) {name : Bytes} {i : Nat} (hi : d.lookup name = some i) :
    ∃ f, d.Opens (validateRegularFile · owner) name i f := by
  obtain ⟨-, f, hf, hprivate⟩ := h.tidy.leads name i (hi ▸ lookup_mem_outcomes name d)
  exact ⟨f, hi, hf, hprivate.regular⟩

theorem Kept.opens_active (h : Kept owner temps P d) :
    ∃ i f, d.Opens (validateRegularFile · owner) activeFileName i f ∧ P f := by
  obtain ⟨i, f, hi, hf, -, hp⟩ := h.active.lookup
  obtain ⟨g, hg⟩ := h.opens hi
  have hfg : f = g := Option.some.inj (hf.symm.trans hg.2.1)
  exact ⟨i, f, hfg ▸ hg, hp⟩

theorem Kept.opens_lock (h : Kept owner temps P d) : ∃ i f, d.Opens (validateRegularFile · owner) lockFileName i f := by
  obtain ⟨i, -, hi, -⟩ := h.lock.lookup
  obtain ⟨g, hg⟩ := h.opens hi
  exact ⟨i, g, hg⟩

end Kept

/-! ## Reading -/

/-- What reading the active file gives: the file under the name, of an acceptable length. -/
def Reads (owner : Nat) (d : Directory Bytes) (i : Nat) (f : File) : Prop :=
  d.Opens (validateRegularFile · owner) activeFileName i f ∧ checkActiveLength f.bytes.length = .ok ()

theorem runs_validateNamedFileIdentity {name : Bytes} {expected : Nat} {stage : RuntimeFileStage}
    {L : Leaving σ RuntimeStoreOpenError Unit}
    (hdone : (∃ f, (p.dir s).Opens (validateRegularFile · owner) name expected f) → L.done () s)
    (hbad : (¬ ∃ f, (p.dir s).Opens (validateRegularFile · owner) name expected f) → ∀ e, L.failed e s)
    (hfails : ∀ n kind, V (.fails n kind) → ∀ e, L.failed e s) (hhalts : ∀ n, V (.halts n) → L.halted s) :
    Runs V (validateNamedFileIdentity p owner name expected stage) s L := by
  refine runs_bind (Q := fun i s' => s = s' ∧ ∃ f, (p.dir s).Opens (validateRegularFile · owner) name i f) ?_ ?_
  · refine Place.runs_openChecked (fun i f h => ⟨rfl, f, h⟩) (fun hnone => hbad ?_) hfails hhalts
    rintro ⟨f, hf⟩
    exact hnone ⟨expected, f, hf⟩
  rintro i _ ⟨rfl, f, hf⟩
  by_cases hi : i = expected
  · refine runs_check (fun _ _ => hdone ⟨f, hi ▸ hf⟩) fun e he => ?_
    rw [rejectIf_neg (not_not.2 hi)] at he
    cases he
  · refine runs_check (fun _ hok => absurd hi (rejectIf_ok.1 hok)) fun e _ => hbad ?_ e
    rintro ⟨g, hg⟩
    exact hi (hf.unique hg).1

theorem runs_readActiveSnapshotBytes {L : Leaving σ RuntimeStoreOpenError ActiveSnapshotBytes}
    (hdone : ∀ i f, Reads owner (p.dir s) i f → L.done ⟨f.bytes, i⟩ s)
    (hbad : (¬ ∃ i f, Reads owner (p.dir s) i f) → ∀ e, L.failed e s)
    (hfails : ∀ n kind, V (.fails n kind) → ∀ e, L.failed e s) (hhalts : ∀ n, V (.halts n) → L.halted s) :
    Runs V (readActiveSnapshotBytes p owner) s L := by
  refine runs_bind (Q := fun i s' => s = s' ∧ ∃ f, (p.dir s).Opens (validateRegularFile · owner) activeFileName i f)
    (Place.runs_openChecked (fun i f h => ⟨rfl, f, h⟩) (fun hnone => hbad ?_) hfails hhalts) ?_
  · rintro ⟨i, f, hf, -⟩
    exact hnone ⟨i, f, hf⟩
  rintro i _ ⟨rfl, f, hopens⟩
  have hfile := hopens.2.1
  have hstat := fun n kind (hv : V (.fails n kind)) => hfails n kind hv (openIo .readActive kind)
  refine Place.runs_stat_bind hfile hstat hhalts ?_
  refine runs_check_bind (fun e he => hbad ?_ _) fun _ hlength => ?_
  · rintro ⟨j, g, hg, hlength⟩
    rw [← (hopens.unique hg).2, he] at hlength
    cases hlength
  refine runs_ask_bind (fun n kind h => hfails n kind h _) hhalts ?_
  refine Place.runs_stat_bind hfile hstat hhalts (runs_check_passed (Nat.lt_irrefl _) ?_)
  refine Place.runs_stat_bind hfile hstat hhalts (runs_check_passed (not_not.2 List.drop_length) ?_)
  refine Place.runs_stat_bind hfile hstat hhalts ?_
  refine runs_check_bind (fun e he => ?_) fun _ _ => ?_
  · have hregular : validateRegularFile f owner = .ok () := hopens.2.2
    rw [hregular] at he
    cases he
  refine runs_check_passed (not_not.2 rfl) ?_
  refine runs_bind (Q := fun _ s' => s = s')
    (runs_validateNamedFileIdentity (fun _ => rfl) (fun hno => absurd ⟨f, hopens⟩ hno) hfails hhalts) ?_
  rintro _ _ rfl
  rw [List.take_length]
  exact runs_pure (hdone i f ⟨hopens, hlength⟩)

theorem runs_readActiveSnapshot {c : Contracts} {L : Leaving σ RuntimeStoreOpenError ActiveSnapshot}
    (hdone : ∀ i f snapshot, Reads owner (p.dir s) i f → RuntimeJournalSnapshot.decode c f.bytes = .ok snapshot →
      L.done ⟨snapshot, i⟩ s)
    (hbad : (¬ ∃ i f snapshot, Reads owner (p.dir s) i f ∧ RuntimeJournalSnapshot.decode c f.bytes = .ok snapshot) →
      ∀ e, L.failed e s)
    (hfails : ∀ n kind, V (.fails n kind) → ∀ e, L.failed e s) (hhalts : ∀ n, V (.halts n) → L.halted s) :
    Runs V (readActiveSnapshot p owner c) s L := by
  refine runs_bind (Q := fun active s' => s = s' ∧ ∃ i f, Reads owner (p.dir s) i f ∧ active = ⟨f.bytes, i⟩)
    (runs_readActiveSnapshotBytes (fun i f h => ⟨rfl, i, f, h, rfl⟩) (fun hnone => hbad ?_) hfails hhalts) ?_
  · rintro ⟨i, f, _, hf, -⟩
    exact hnone ⟨i, f, hf⟩
  rintro _ _ ⟨rfl, i, f, hreads, rfl⟩
  refine runs_check (fun active hactive => ?_) fun e he => hbad ?_ e
  · simp only [decodeActive, bind_ok, wrapErr_ok, rejectIf_ok, exists_unit, pure_ok] at hactive
    obtain ⟨snapshot, hdecode, -, rfl⟩ := hactive
    exact hdone i f snapshot hreads hdecode
  · rintro ⟨j, g, snapshot, hg, hdecode⟩
    rw [← (hreads.1.unique hg.1).2] at hdecode
    have hwire := (RuntimeJournalSnapshot.decode_built hdecode).2
    have hok : decodeActive c ⟨f.bytes, i⟩ = .ok ⟨snapshot, i⟩ :=
      ok_bind (wrapErr_ok.2 hdecode) <| ok_check (not_not.2 hwire) rfl
    rw [hok] at he
    cases he

theorem checkActiveLength_of_decode {c : Contracts} {bytes : Bytes} {snapshot : RuntimeJournalSnapshot}
    (h : RuntimeJournalSnapshot.decode c bytes = .ok snapshot) : checkActiveLength bytes.length = .ok () := by
  obtain ⟨checksum, hd⟩ := (RuntimeJournalSnapshot.decode_ok c bytes snapshot).1 h
  unfold RuntimeJournalSnapshot.decodeForPayloadVersion at hd
  simp only [bind_ok, rejectIf_ok, exists_unit, not_lt] at hd
  obtain ⟨hle, hd⟩ := hd
  split at hd
  next hlong =>
    refine ok_check (fun hzero => ?_) (rejectIf_neg (not_lt.2 hle))
    rw [hzero] at hlong
    exact absurd hlong (by decide)
  · cases hd

/-! ## Publishing -/

structure Making (owner : Nat) (P : File → Prop) (temp : Bytes) (i : Nat) (f : File) (d : Directory Bytes) : Prop where
  active : d.Staged activeFileName P temp i f
  lock : d.Staged lockFileName (fun _ => True) temp i f
  tidy : d.Tidy (Known [temp]) (Private owner)

section Publishing

variable {P : File → Prop} {encoded temp : Bytes}

theorem Kept.making {d : Directory Bytes} (h : Kept owner [] P d) (htemp : validTempName temp = true) :
    Making owner P temp d.files.length ⟨[], owner, privateFileModeBits, privateFileModeBits, false⟩
      (d.create temp owner privateFileModeBits) where
  active := h.active.staged (validTempName_ne_activeFileName htemp) _ _
  lock := h.lock.staged (validTempName_ne_lockFileName htemp) _ _
  tidy := by
    refine Tidy.create ?_ (.inr (.inr List.mem_cons_self)) ⟨rfl, rfl, rfl⟩
    exact h.tidy.mono fun _ _ _ hknown => hknown.imp id (Or.imp id fun hmem => by cases hmem)

/-- From the rename on, the active name may lead to the new file; once the directory is synced, it does. -/
theorem Making.rename {d : Directory Bytes} {i : Nat} (htemp : validTempName temp = true)
    (h : Making owner P temp i ⟨encoded, owner, privateFileModeBits, privateFileModeBits, true⟩ d) :
    Kept owner [temp] (fun f => P f ∨ f.bytes = encoded) (d.rename temp activeFileName i) ∧
      ∃ f, f.bytes = encoded ∧ Kept owner [] (fun g => g = f) (d.rename temp activeFileName i).sync := by
  have hlock := h.lock.safe.rename_of_ne (validTempName_ne_lockFileName htemp) lockFileName_ne_activeFileName i
  have htidy := h.tidy.rename h.active.named (.inr (.inl rfl))
  have hrenamed : Kept owner [temp] (fun f => P f ∨ f.bytes = encoded) (d.rename temp activeFileName i) :=
    ⟨(h.active.rename rfl).mono fun g hg => hg.imp id fun heq => by rw [heq], hlock, htidy⟩
  have hclean := hrenamed.sync_clean fun name hname => by
    rw [List.mem_singleton.1 hname, lookup_rename_source (validTempName_ne_activeFileName htemp).symm]
  exact ⟨hrenamed, _, rfl, h.active.rename_sync rfl, hclean.lock, hclean.tidy⟩

/-- Publishing over an active file is replacing it: at most the temporary is left beside the two. -/
def replacing (owner : Nat) (P : File → Prop) (encoded : Bytes) (token : Token) :
    Replacing (tempName token) activeFileName owner privateFileModeBits encoded True where
  before := Kept owner [] P
  making := Making owner P (tempName token)
  old := Kept owner [tempName token] P
  either := Kept owner [tempName token] fun f => P f ∨ f.bytes = encoded
  new d := ∃ f, f.bytes = encoded ∧ Kept owner [] (fun g => g = f) d
  before_old h := h.more fun _ hmem => by cases hmem
  create h := h.making (validTempName_tempName token)
  making_old h := ⟨h.active.safe, h.lock.safe, h.tidy⟩
  staged h := ⟨h.active.named, h.active.file⟩
  change hg h := ⟨h.active.modify _, h.lock.modify _, h.tidy.modify hg⟩
  rename _ h := h.rename (validTempName_tempName token)
  old_either h := h.mono fun _ hf => .inl hf
  new_either := fun ⟨_, hbytes, h⟩ => (h.mono fun _ hnew => .inr (hnew ▸ hbytes)).more fun _ hmem => (by cases hmem)

/-- What publishing leaves: the active name at the old file where it is rejected, at the new one where it returns, at one of
the two otherwise. -/
def publishing (p : Place σ Bytes) (owner : Nat) (P : File → Prop) (encoded : Bytes) (token : Token) (s : σ) :
    Leaving σ RuntimePublishFailure Unit :=
  (replacing owner P encoded token).leaving p (fun e => ∃ fault, e = .rejectedBeforePublish fault) s

def plan (owner : Nat) (failpoint : RuntimeCommitFailpoint) : Plan RuntimePublishFailure where
  creating := rejectedIo .createTemp
  inspecting := rejectedIo .inspectTemp
  writing := rejectedIo .writeTemp
  syncing := rejectedIo .syncTemp
  moving := rejectedIo .rename
  publishing kind := .uncertainAfterPublish ⟨.syncDirectory, some kind⟩
  inspect file := wrapErr (rejectedOpenError .inspectTemp) (validateRegularFile file owner)
  created := rejectIf (failpoint ∈ [.afterTempCreate]) (rejectedInjected .createTemp)
  written := rejectIf (failpoint ∈ [.beforeFileSync]) (rejectedInjected .syncTemp)
  synced := rejectIf (failpoint ∈ [.afterFileSync, .beforeRename]) (rejectedInjected .rename)
  renamed := rejectIf (failpoint ∈ [.afterRename, .beforeDirectorySync]) (uncertainInjected .syncDirectory)
  published := rejectIf (failpoint ∈ [.afterDirectorySyncBeforeReturn]) (uncertainInjected .returnDurableCommit)

theorem uncertain_not_rejected {q : Prop} [Decidable q] {stage : RuntimeFileStage} {e : RuntimePublishFailure}
    (h : rejectIf q (uncertainInjected stage) = .error e) : ¬ ∃ fault, e = .rejectedBeforePublish fault := by
  unfold rejectIf at h
  split at h
  · rw [← Except.error.inj h]
    rintro ⟨fault, hfault⟩
    cases hfault
  · cases h

theorem runs_precondition {identity : Nat} {L : Leaving σ RuntimePublishFailure Unit} (hdone : L.done () s)
    (hfailed : ∀ e, L.failed e s) (hhalted : L.halted s) :
    Runs V (validateRuntimePublishPrecondition p owner (.replaceExisting identity)) s L :=
  runs_onFailure (runs_validateNamedFileIdentity (fun _ => hdone) (fun _ _ => hfailed _) (fun _ _ _ _ => hfailed _)
    fun _ _ => hhalted)

theorem runs_publishAtomic {identity : Nat} {token : Token} {failpoint : RuntimeCommitFailpoint}
    (h : Kept owner [] P (p.dir s)) :
    Runs V (publishAtomic p owner encoded (.replaceExisting identity) token failpoint) s
      (publishing p owner P encoded token s) := by
  have hold := (replacing owner P encoded token).before_old h
  have hbefore : ∀ e : RuntimePublishFailure, (publishing p owner P encoded token s).failed e s :=
    fun _ => ⟨p.same_refl s, (replacing owner P encoded token).old_either hold, fun _ => hold⟩
  refine runs_check_bind (fun _ _ => hbefore _) fun _ _ => ?_
  refine runs_check_bind (fun _ _ => hbefore _) fun _ _ => ?_
  refine runs_bind (Q := fun _ s' => s = s')
    (runs_precondition rfl hbefore ((replacing owner P encoded token).old_either hold)) ?_
  rintro _ _ rfl
  exact Replacing.runs_replace (r := replacing owner P encoded token) (plan owner failpoint) _ (fun _ => trivial)
    runs_precondition (fun _ => uncertain_not_rejected) (fun _ ⟨_, he⟩ => by cases he) (fun _ => uncertain_not_rejected) h

end Publishing

/-! ## Opening -/

def Faulty (V : Verdict → Prop) : Prop := ∃ v, V v ∧ v ≠ .works

theorem faulty_of_fails {n : Nat} {kind : ErrorKind} (h : V (.fails n kind)) : Faulty V := ⟨_, h, by simp⟩

theorem faulty_of_halts {n : Nat} (h : V (.halts n)) : Faulty V := ⟨_, h, by simp⟩

theorem classifyEntry_ok {orphans orphans' : List Bytes} {name : Bytes} (h : classifyEntry orphans name = .ok orphans') :
    orphans' = orphans ++ [name].filter validTempName := by
  unfold classifyEntry at h
  split at h
  next hknown =>
    have hinvalid : validTempName name = false := by
      rcases hknown with rfl | rfl <;> decide
    rw [← Except.ok.inj h]
    simp [hinvalid]
  · simp only [bind_ok, rejectIf_ok, exists_unit, pure_ok, Bool.not_eq_false] at h
    obtain ⟨hvalid, -, rfl⟩ := h
    simp [hvalid]

theorem scan_classifyEntry_ok : ∀ {names orphans orphans' : List Bytes}, scan classifyEntry orphans names = .ok orphans' →
    orphans' = orphans ++ names.filter validTempName
  | [], orphans, orphans', h => by rw [← Except.ok.inj h, List.filter_nil, List.append_nil]
  | name :: names, orphans, orphans', h => by
    obtain ⟨mid, hstep, hrest⟩ := (scan_ok_cons ..).1 h
    rw [scan_classifyEntry_ok hrest, classifyEntry_ok hstep, List.append_assoc, ← List.filter_append]
    rfl

theorem scan_classifyEntry_accepts : ∀ (names orphans : List Bytes),
    (∀ name ∈ names, name = lockFileName ∨ name = activeFileName ∨ validTempName name = true) →
    orphans.length + (names.filter validTempName).length ≤ maxOrphanTempFiles →
    ∃ orphans', scan classifyEntry orphans names = .ok orphans'
  | [], orphans, _, _ => ⟨orphans, rfl⟩
  | name :: names, orphans, hknown, hfew => by
    obtain ⟨hname, hnames⟩ := List.forall_mem_cons.1 hknown
    by_cases hstore : name = lockFileName ∨ name = activeFileName
    · have hfilter : (name :: names).filter validTempName = names.filter validTempName := by
        rcases hstore with rfl | rfl <;> exact List.filter_cons_of_neg (by decide)
      rw [hfilter] at hfew
      obtain ⟨orphans', hrest⟩ := scan_classifyEntry_accepts names orphans hnames hfew
      exact ⟨orphans', (scan_ok_cons ..).2 ⟨orphans, if_pos hstore, hrest⟩⟩
    · have hvalid : validTempName name = true := by
        rcases hname with hlock | hactive | hvalid
        · exact absurd (.inl hlock) hstore
        · exact absurd (.inr hactive) hstore
        · exact hvalid
      rw [List.filter_cons_of_pos hvalid, List.length_cons] at hfew
      obtain ⟨orphans', hrest⟩ := scan_classifyEntry_accepts names (orphans ++ [name]) hnames (by
        rw [List.length_append, List.length_singleton]
        omega)
      refine ⟨orphans', (scan_ok_cons ..).2 ⟨orphans ++ [name], ?_, hrest⟩⟩
      rw [classifyEntry, if_neg hstore]
      exact ok_check (by rw [hvalid]; decide) <| ok_check (by omega) rfl

section Opening

variable {temps : List Bytes} {P : File → Prop} {d : Directory Bytes}

def orphansOf (d : Directory Bytes) : List Bytes := (Assoc.keys d.visible).filter validTempName

def Cleaned (d d' : Directory Bytes) : Prop :=
  d'.files = d.files ∧ d'.pending = [] ∧ ∀ name, d'.lookup name = if validTempName name = true then none else d.lookup name

structure Cleaning (owner : Nat) (temps : List Bytes) (P : File → Prop) (d : Directory Bytes) (rest : List Bytes)
    (d' : Directory Bytes) : Prop where
  kept : Kept owner temps P d'
  files : d'.files = d.files
  valid : ∀ name ∈ rest, validTempName name = true
  fresh : rest.Nodup
  left : ∀ name ∈ rest, d'.lookup name ≠ none
  lookup : ∀ name, d'.lookup name = if validTempName name = true ∧ name ∉ rest then none else d.lookup name

theorem Cleaning.unlink {name : Bytes} {rest : List Bytes} {d' : Directory Bytes}
    (h : Cleaning owner temps P d (name :: rest) d') : Cleaning owner temps P d rest (d'.unlink name) := by
  obtain ⟨hname, hvalid⟩ := List.forall_mem_cons.1 h.valid
  obtain ⟨hfresh, hnodup⟩ := List.nodup_cons.1 h.fresh
  refine ⟨h.kept.unlink hname, h.files, hvalid, hnodup, fun k hk => ?_, fun k => ?_⟩
  · rw [lookup_unlink_of_ne (by rintro rfl; exact hfresh hk)]
    exact h.left k (List.mem_cons_of_mem _ hk)
  · by_cases hk : k = name
    · subst hk
      rw [lookup_unlink_self, if_pos ⟨hname, hfresh⟩]
    · rw [lookup_unlink_of_ne hk, h.lookup k]
      simp [hk]

def opening (V : Verdict → Prop) (owner : Nat) (temps : List Bytes) (P : File → Prop) (D : α → Directory Bytes → Prop)
    (welcome : Prop) : Leaving (Directory Bytes) ε α where
  done := D
  failed _ d := Kept owner temps P d ∧ (welcome → Faulty V)
  halted d := Kept owner temps P d ∧ Faulty V

theorem runs_removeOrphan {name : Bytes} {rest : List Bytes} {d' : Directory Bytes}
    (h : Cleaning owner temps P d (name :: rest) d') : Runs V (removeOrphan bareDirectory owner name) d'
      (opening V owner temps P (fun _ t => Cleaning owner temps P d rest t) True) := by
  have hname : validTempName name = true := h.valid name List.mem_cons_self
  have hfails : ∀ n kind, V (.fails n kind) → ∀ _ : RuntimeStoreOpenError, Kept owner temps P d' ∧ (True → Faulty V) :=
    fun _ _ hv _ => ⟨h.kept, fun _ => faulty_of_fails hv⟩
  have hhalts : ∀ n, V (.halts n) → Kept owner temps P d' ∧ Faulty V := fun _ hv => ⟨h.kept, faulty_of_halts hv⟩
  obtain ⟨i, hi⟩ := Option.ne_none_iff_exists'.1 (h.left name List.mem_cons_self)
  obtain ⟨f, hf⟩ := h.kept.opens hi
  refine runs_bind (Q := fun j t => d' = t ∧ ∃ g, d'.Opens (validateRegularFile · owner) name j g)
    (Place.runs_openChecked (fun j g hg => ⟨rfl, g, hg⟩) (fun hno => absurd ⟨i, f, hf⟩ hno) hfails hhalts) ?_
  rintro j _ ⟨rfl, g, hg⟩
  refine runs_bind (Q := fun _ t => d' = t)
    (runs_validateNamedFileIdentity (fun _ => rfl) (fun hno => absurd ⟨g, hg⟩ hno) hfails hhalts) ?_
  rintro _ _ rfl
  have hnext := h.unlink
  refine runs_bind (Q := fun _ t => Cleaning owner temps P d rest t ∧ t.files = d'.files) ?_ fun _ t ht => ?_
  · exact runs_act ⟨hnext, rfl⟩ (fun n kind hv => hfails n kind hv (openIo .removeOrphanTemp kind))
      fun _ hv => ⟨⟨h.kept, faulty_of_halts hv⟩, hnext.kept, faulty_of_halts hv⟩
  · have hfile : t.files[j]? = some g := by
      rw [ht.2]
      exact hg.2.1
    refine runs_bind (Q := fun _ t' => t = t') (Place.runs_stat (fun _ _ => rfl) (fun hnone => ?_)
      (fun _ _ hv => ⟨ht.1.kept, fun _ => faulty_of_fails hv⟩) fun _ hv => ⟨ht.1.kept, faulty_of_halts hv⟩) ?_
    · change t.files[j]? = none at hnone
      rw [hfile] at hnone
      cases hnone
    · rintro _ _ rfl
      exact runs_pure ht.1

/-- **Cleaning up removes exactly the temporaries, and leaves what is left durable.** -/
theorem runs_cleanValidOrphanTemps (h : Kept owner temps P d) (hvalid : ∀ name ∈ temps, validTempName name = true)
    (hfew : temps.length ≤ maxOrphanTempFiles) : Runs V (cleanValidOrphanTemps bareDirectory owner) d
      (opening V owner temps P (fun _ d' => Kept owner [] P d' ∧ Cleaned d d') True) := by
  have hnodup := h.tidy.visible_nodup
  have hlisted : ∀ name ∈ Assoc.keys d.visible,
      name = lockFileName ∨ name = activeFileName ∨ name ∈ temps := fun name hname => (h.tidy.listed hname).1
  have hsub : (orphansOf d) ⊆ temps := by
    intro name hname
    obtain ⟨hmem, htemp⟩ := List.mem_filter.1 hname
    rcases hlisted name hmem with rfl | rfl | hmem
    · exact absurd htemp (by decide)
    · exact absurd htemp (by decide)
    · exact hmem
  have horphans : (orphansOf d).Nodup := hnodup.filter _
  have hcount : (orphansOf d).length ≤ maxOrphanTempFiles :=
    le_trans (List.subperm_of_subset horphans hsub).length_le hfew
  refine runs_bind (Q := fun names d' => d = d' ∧ names = Assoc.keys d.visible)
    (runs_ask (fun names hnames => ⟨rfl, (Except.ok.inj hnames).symm⟩) (fun _ hk => by cases hk)
      (fun _ _ hv => ⟨h, fun _ => faulty_of_fails hv⟩) fun _ hv => ⟨h, faulty_of_halts hv⟩) ?_
  rintro _ _ ⟨rfl, rfl⟩
  refine runs_bind (Q := fun orphans d' => d = d' ∧ orphans = orphansOf d)
    (runs_check (fun orphans ho => ⟨rfl, scan_classifyEntry_ok ho⟩) fun e he => ?_) ?_
  · obtain ⟨orphans, hok⟩ := scan_classifyEntry_accepts (Assoc.keys d.visible) []
      (fun name hname => (hlisted name hname).imp id (Or.imp id (hvalid name))) (by
        rw [List.length_nil, Nat.zero_add]
        exact hcount)
    rw [hok] at he
    cases he
  rintro _ _ ⟨rfl, rfl⟩
  have hstart : Cleaning owner temps P d (orphansOf d) d := by
    refine ⟨h, rfl, fun name hname => (List.mem_filter.1 hname).2, horphans, fun name hname => ?_, fun name => ?_⟩
    · obtain ⟨-, i, -, hi, -⟩ := h.tidy.listed (List.mem_filter.1 hname).1
      rw [hi]
      simp
    · split
      next hgone =>
        refine Assoc.get_eq_none.2 fun hmem => hgone.2 (List.mem_filter.2 ⟨hmem, hgone.1⟩)
      · rfl
  refine runs_bind (Q := fun _ d' => Cleaning owner temps P d [] d')
    (runs_each (I := Cleaning owner temps P d) (fun name rest d' hd' => runs_removeOrphan hd') hstart) fun _ d' hd' => ?_
  have hgone : ∀ name ∈ temps, d'.lookup name = none := by
    intro name hname
    rw [hd'.lookup name, if_pos ⟨hvalid name hname, by simp⟩]
  refine runs_act ⟨hd'.kept.sync_clean hgone, hd'.files, rfl, fun name => ?_⟩
    (fun _ _ hv => ⟨hd'.kept, fun _ => faulty_of_fails hv⟩)
    fun _ hv => ⟨⟨hd'.kept, faulty_of_halts hv⟩, hd'.kept.sync, faulty_of_halts hv⟩
  change d'.sync.lookup name = _
  rw [lookup_sync, hd'.lookup name]
  simp

structure Welcome (c : Contracts) (launch : Launch) (contended : Bool) (f : File) : Prop where
  inspected : launch.inspection = .ok ()
  free : contended = false
  expected : ∃ snapshot, RuntimeJournalSnapshot.decode c f.bytes = .ok snapshot ∧
    snapshot.storeInstanceId = launch.expectedStoreInstanceId ∧
      snapshot.ownerTargetFingerprint = launch.expectedTargetFingerprint
  store : launch.expectedStoreInstanceId.asBytes.all (· = 0) ≠ true
  target : launch.expectedTargetFingerprint.asBytes.all (· = 0) ≠ true

/-- What an opened store holds: the file the active name led to, and that one alone is durable now. -/
structure Opened (c : Contracts) (owner : Nat) (P : File → Prop) (d : Directory Bytes) (store : RuntimeStore)
    (d' : Directory Bytes) : Prop where
  state : store.state = .operational
  cleaned : Cleaned d d'
  file : ∃ f, P f ∧ d.named activeFileName = some f ∧
    RuntimeJournalSnapshot.decode c f.bytes = .ok store.active.snapshot ∧ Kept owner [] (fun g => g = f) d'

/-- **Opening a store reads the active file, and removes exactly the temporaries.** -/
theorem runs_openStore {c : Contracts} {launch : Launch} {contended : Bool} (h : Kept owner temps P d)
    (hvalid : ∀ name ∈ temps, validTempName name = true) (hfew : temps.length ≤ maxOrphanTempFiles) :
    Runs V (RuntimeStore.openStore c owner launch contended) d (opening V owner temps P (Opened c owner P d)
      (∀ f, P f → Welcome c launch contended f)) := by
  obtain ⟨i, f, hactive, hp⟩ := h.opens_active
  obtain ⟨l, g, hlock⟩ := h.opens_lock
  have hfails : ∀ n kind, V (.fails n kind) → ∀ _ : RuntimeStoreOpenError,
      Kept owner temps P d ∧ ((∀ f, P f → Welcome c launch contended f) → Faulty V) :=
    fun _ _ hv _ => ⟨h, fun _ => faulty_of_fails hv⟩
  have hhalts : ∀ n, V (.halts n) → Kept owner temps P d ∧ Faulty V := fun _ hv => ⟨h, faulty_of_halts hv⟩
  have hwelcome : ∀ {x : Except RuntimeStoreOpenError Unit}, (Welcome c launch contended f → x = .ok ()) → ∀ e, x = .error e →
      Kept owner temps P d ∧ ((∀ f, P f → Welcome c launch contended f) → Faulty V) :=
    fun hok e he => ⟨h, fun hall => by rw [hok (hall f hp)] at he; cases he⟩
  refine runs_check_bind (hwelcome fun hw => rejectIf_neg hw.store) fun _ _ => ?_
  refine runs_check_bind (hwelcome fun hw => rejectIf_neg hw.target) fun _ _ => ?_
  refine runs_check_bind (hwelcome fun hw => by rw [hw.inspected]) fun _ _ => ?_
  refine runs_bind (Q := fun j d' => d = d' ∧ ∃ k, d.Opens (validateRegularFile · owner) lockFileName j k)
    (Place.runs_openChecked (fun j k hk => ⟨rfl, k, hk⟩) (fun hno => absurd ⟨l, g, hlock⟩ hno) hfails hhalts) ?_
  rintro j _ ⟨rfl, k, hk⟩
  refine runs_ask_bind (fun n kind hv => hfails n kind hv (openIo .acquireLock kind)) hhalts ?_
  refine runs_check_bind (hwelcome fun hw => rejectIf_neg (by rw [hw.free]; decide)) fun _ _ => ?_
  refine runs_bind (Q := fun _ d' => d = d')
    (runs_validateNamedFileIdentity (fun _ => rfl) (fun hno => absurd ⟨k, hk⟩ hno) hfails hhalts) ?_
  rintro _ _ rfl
  refine runs_bind (Q := fun active d' => d = d' ∧ RuntimeJournalSnapshot.decode c f.bytes = .ok active.snapshot)
    (runs_readActiveSnapshot (fun j f' snapshot hread hdecode => ⟨rfl, ?_⟩) (fun hno e => ⟨h, fun hall => ?_⟩) hfails
      hhalts) ?_
  · rw [(hactive.unique hread.1).2]
    exact hdecode
  · obtain ⟨snapshot, hdecode, -⟩ := (hall f hp).expected
    exact absurd ⟨i, f, snapshot, ⟨hactive, checkActiveLength_of_decode hdecode⟩, hdecode⟩ hno
  rintro active _ ⟨rfl, hdecode⟩
  have hsame : ∀ hw : Welcome c launch contended f, active.snapshot.storeInstanceId = launch.expectedStoreInstanceId ∧
      active.snapshot.ownerTargetFingerprint = launch.expectedTargetFingerprint := by
    intro hw
    obtain ⟨snapshot, hread, hids⟩ := hw.expected
    rw [hdecode] at hread
    rw [Except.ok.inj hread]
    exact hids
  refine runs_check_bind (hwelcome fun hw => rejectIf_neg (not_not.2 (hsame hw).1)) fun _ _ => ?_
  refine runs_check_bind (hwelcome fun hw => rejectIf_neg (not_not.2 (hsame hw).2)) fun _ _ => ?_
  refine runs_bind (Q := fun _ d' => Kept owner [] P d' ∧ Cleaned d d') ((runs_cleanValidOrphanTemps h hvalid hfew).mono
    (fun _ _ hd => hd) (fun _ _ hd => ⟨hd.1, fun _ => hd.2 trivial⟩) fun _ hd => hd) ?_
  rintro _ d' ⟨hkept, hcleaned⟩
  have hlookup : d'.lookup activeFileName = some i := by
    rw [hcleaned.2.2, if_neg (by decide)]
    exact hactive.1
  have halone : Kept owner [] (fun g => g = f) d' := by
    refine ⟨hkept.active.only ?_ hlookup ?_, hkept.lock, hkept.tidy⟩
    · rw [outcomes, hcleaned.2.1, lookup_eq, hcleaned.2.1]
      rfl
    · rw [hcleaned.1]
      exact hactive.2.1
  exact runs_pure ⟨rfl, hcleaned, f, hp, by rw [named, hactive.1]; exact hactive.2.1, hdecode, halone⟩

end Opening

end RuntimeFiles
end ParaEgox
