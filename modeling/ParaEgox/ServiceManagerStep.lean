import ParaEgox.ServiceManager

/-!
# ServiceManagerStep — what the manager does to its one child and to its restart ledger

The world logs the children in the order of their spawns, newest first, with the last answers about each: whether it was reaped
and whether its group is gone.  It logs every spawn call, granted or refused, with the reading of the clock before it and the
failure that was recorded last, and of that failure the reading that stamps it and the one before the wait that went before
it.  A job that tends a child touches that child alone.
-/
namespace ParaEgox
namespace ServiceManager

open Check Program Watchdog

/-! ## The world -/

structure ChildLog where
  generation : UInt64
  pid : UInt32
  reaped : Bool
  gone : Bool

structure DetectionLog where
  failure : ServiceManagerFailure
  instant : Int
  waited : Int

structure SpawnLog where
  instant : Int
  detected : Option DetectionLog

structure World where
  clock : Int
  waited : Int
  children : List ChildLog
  detected : Option DetectionLog
  spawns : List SpawnLog

def World.observe (w : World) (pid : UInt32) (f : ChildLog → ChildLog) : World :=
  { w with
    children := match w.children with
      | [] => []
      | c :: cs => (if c.pid = pid then f c else c) :: cs }

def World.stamped (w : World) (kind : ServiceManagerEvidenceKind) (instant : Int) : World :=
  { w with
    clock := instant
    detected := match kind with
      | .failureDetected failure => some { failure, instant, waited := w.waited }
      | _ => w.detected }

def World.called (w : World) : World := { w with spawns := w.spawns ++ [{ instant := w.clock, detected := w.detected }] }

def World.after (w : World) : (call : Call) → call.Answer → World
  | .spawn generation _ _, .ok child =>
    { w.called with children := { generation, pid := child.pid, reaped := false, gone := false } :: w.children }
  | .spawn .., .error _ => w.called
  | .tryWait pid, .ok reaped => { w.observe pid fun c => { c with reaped } with waited := w.clock }
  | .killpg group none, .ok () => w.observe group fun c => { c with gone := false }
  | .killpg group none, .error .eperm => w.observe group fun c => { c with gone := false }
  | .killpg group none, .error .esrch => w.observe group fun c => { c with gone := true }
  | _, _ => w

/-- The clock never goes back, and a sleep takes its time.  Every other answer is arbitrary. -/
def react : Reaction platform World
  | .now, w, instant, w' => w.clock ≤ instant ∧ w' = { w with clock := instant }
  | .stamp kind, w, instant, w' => w.clock ≤ instant ∧ w' = w.stamped kind instant
  | .sleep duration, w, _, w' => ∃ instant, w.clock + duration ≤ instant ∧ w' = { w with clock := instant }
  | call, w, answer, w' => w' = w.after call answer

abbrev Spec {α : Type} (j : SM α) (m : RuntimeHostServiceManager) (w : World)
    (good : α → RuntimeHostServiceManager → World → Prop) (bad : ServiceManagerError → RuntimeHostServiceManager → World → Prop) :
    Prop := Job.Meets react (fun _ _ => True) j m w good bad

variable {α β : Type} {m : RuntimeHostServiceManager} {w : World}
  {bad : ServiceManagerError → RuntimeHostServiceManager → World → Prop}

theorem spec_readClock {good : Int → RuntimeHostServiceManager → World → Prop}
    (h : ∀ t, w.clock ≤ t → good t m { w with clock := t }) : Spec readClock m w good bad := by
  refine ⟨trivial, ?_⟩
  rintro t w' ⟨ht, rfl⟩
  exact h t ht

variable {kind : ServiceManagerEvidenceKind} {active : ManagedRuntimeHost} {now : Int}

theorem spec_recordFor {good : Unit → RuntimeHostServiceManager → World → Prop} {generation : UInt64} {pid : Option UInt32}
    (h : ∀ entries t, w.clock ≤ t → good () { m with evidence := entries } (w.stamped kind t)) :
    Spec (recordFor generation pid kind) m w good bad := by
  refine ⟨trivial, ?_⟩
  rintro t w' ⟨ht, rfl⟩
  exact h _ t ht

theorem spec_record {good : Unit → RuntimeHostServiceManager → World → Prop} {pid : Option UInt32}
    (h : ∀ entries t, w.clock ≤ t → good () { m with evidence := entries } (w.stamped kind t)) :
    Spec (record pid kind) m w good bad := by
  unfold record
  rw [Spec, Job.meets_bind]
  exact spec_recordFor h

/-- A record of something else than a failure only reads the clock. -/
def Calm (kind : ServiceManagerEvidenceKind) : Prop := ∀ w t, World.stamped w kind t = { w with clock := t }

/-! ## Jobs that tend a child -/

def Settled (c : ChildLog) : Prop := c.reaped = true ∧ c.gone = true

/-- From a world whose newest child is `c` to one where it is `c'`, with all else but the clock as it was. -/
structure Tended (w : World) (c : ChildLog) (cs : List ChildLog) (w' : World) (c' : ChildLog) : Prop where
  before : w.children = c :: cs
  after : w'.children = c' :: cs
  pid : c'.pid = c.pid
  generation : c'.generation = c.generation
  clock : w.clock ≤ w'.clock
  waited : w.waited ≤ w.clock → w'.waited ≤ w'.clock
  detected : w'.detected = w.detected
  spawns : w'.spawns = w.spawns

variable {c : ChildLog} {cs : List ChildLog}

theorem Tended.refl (h : w.children = c :: cs) : Tended w c cs w c :=
  ⟨h, h, rfl, rfl, le_refl _, id, rfl, rfl⟩

theorem Tended.trans {c₁ c₂ : ChildLog} {w₁ w₂ : World} (h : Tended w c cs w₁ c₁)
    (h' : Tended w₁ c₁ cs w₂ c₂) : Tended w c cs w₂ c₂ :=
  ⟨h.before, h'.after, h'.pid.trans h.pid, h'.generation.trans h.generation, le_trans h.clock h'.clock,
    fun hw => h'.waited (h.waited hw), h'.detected.trans h.detected, h'.spawns.trans h.spawns⟩

theorem Tended.later (h : w.children = c :: cs) {t : Int} (ht : w.clock ≤ t) :
    Tended w c cs { w with clock := t } c :=
  ⟨h, h, rfl, rfl, ht, fun hw => le_trans hw ht, rfl, rfl⟩

/-- **The contract of a job that tends the child of a process**: `P` of the child before it, `Q` after it, `X` after its error.
Of the manager it changes the evidence alone. -/
def Tends (pid : UInt32) (P : ChildLog → Prop) (j : SM α) (Q : α → ChildLog → Prop)
    (X : ServiceManagerError → ChildLog → Prop) : Prop :=
  ∀ m w c cs, w.children = c :: cs → c.pid = pid → P c → Spec j m w
    (fun a m' w' => (∃ entries, m' = { m with evidence := entries }) ∧ ∃ c', Tended w c cs w' c' ∧ Q a c')
    (fun e m' w' => (∃ entries, m' = { m with evidence := entries }) ∧ ∃ c', Tended w c cs w' c' ∧ X e c')

section Tends

variable {pid : UInt32} {P : ChildLog → Prop} {j : SM α} {Q : α → ChildLog → Prop} {X : ServiceManagerError → ChildLog → Prop}

theorem tends_pure {a : α} (h : ∀ c, P c → Q a c) : Tends pid P (pure a : SM α) Q X :=
  fun m _ c _ hc _ hP => ⟨⟨m.evidence, rfl⟩, c, .refl hc, h c hP⟩

variable {e : ServiceManagerError}

theorem tends_fail (h : ∀ c, P c → X e c) : Tends pid P (Job.fail e : SM α) Q X :=
  fun m _ c _ hc _ hP => ⟨⟨m.evidence, rfl⟩, c, .refl hc, h c hP⟩

theorem Tends.bind {f : α → SM β} {R : β → ChildLog → Prop} (hj : Tends pid P j Q X)
    (hf : ∀ a, Tends pid (Q a) (f a) R X) : Tends pid P (j >>= f) R X := by
  intro m w c cs hc hpid hP
  rw [Spec, Job.meets_bind]
  refine (hj m w c cs hc hpid hP).mono ?_ fun e m' w' h => h
  rintro a m₁ w₁ ⟨⟨entries, rfl⟩, c₁, ht, hQ⟩
  refine (hf a _ w₁ c₁ cs ht.after (ht.pid.trans hpid) hQ).mono ?_ ?_
  · rintro b m₂ w₂ ⟨⟨entries', rfl⟩, c₂, ht', hR⟩
    exact ⟨⟨entries', rfl⟩, c₂, ht.trans ht', hR⟩
  · rintro e m₂ w₂ ⟨⟨entries', rfl⟩, c₂, ht', hX⟩
    exact ⟨⟨entries', rfl⟩, c₂, ht.trans ht', hX⟩

theorem Tends.mono {Q' : α → ChildLog → Prop} {X' : ServiceManagerError → ChildLog → Prop} (hj : Tends pid P j Q X)
    (hQ : ∀ a c, Q a c → Q' a c) (hX : ∀ e c, X e c → X' e c) : Tends pid P j Q' X' := by
  intro m w c cs hc hpid hP
  refine (hj m w c cs hc hpid hP).mono ?_ ?_
  · rintro a m' w' ⟨hm, c', ht, hq⟩
    exact ⟨hm, c', ht, hQ a c' hq⟩
  · rintro e m' w' ⟨hm, c', ht, hx⟩
    exact ⟨hm, c', ht, hX e c' hx⟩

theorem tends_rejectIf {p : Prop} [Decidable p] {Q : Unit → ChildLog → Prop}
    (hgood : ∀ c, ¬ p → P c → Q () c) (hbad : ∀ c, p → P c → X e c) : Tends pid P (Job.rejectIf p e) Q X := by
  unfold Job.rejectIf
  by_cases hp : p
  · rw [if_pos hp]
    exact tends_fail fun c => hbad c hp
  · rw [if_neg hp]
    exact tends_pure fun c => hgood c hp

theorem tends_self {f : RuntimeHostServiceManager → SM β} {R : β → ChildLog → Prop} (h : ∀ s, Tends pid P (f s) R X) :
    Tends pid P (Job.self >>= f) R X := by
  intro m w c cs hc hpid hP
  rw [Spec, Job.meets_bind, Job.meets_self]
  exact h m m w c cs hc hpid hP

theorem tends_readClock : Tends pid P readClock (fun _ => P) X := by
  intro m w c cs hc _ hP
  exact spec_readClock fun t ht => ⟨⟨m.evidence, rfl⟩, c, .later hc ht, hP⟩

theorem tends_recordFor {generation : UInt64} {about : Option UInt32} {kind : ServiceManagerEvidenceKind} (h : Calm kind) :
    Tends pid P (recordFor generation about kind) (fun _ => P) X := by
  intro m w c cs hc _ hP
  refine spec_recordFor fun entries t ht => ⟨⟨entries, rfl⟩, c, ?_, hP⟩
  rw [h]
  exact .later hc ht

theorem tends_sleep {duration : Nat} : Tends pid P (Job.call (I := platform) (.sleep duration)) (fun _ => P) X := by
  intro m w c cs hc _ hP
  refine ⟨trivial, ?_⟩
  rintro _ w' ⟨t, ht, rfl⟩
  exact ⟨⟨m.evidence, rfl⟩, c, .later hc (by omega), hP⟩

theorem tends_kill {target : UInt32} : Tends pid P (Job.call (I := platform) (.kill target)) (fun _ => P) X := by
  intro m w c cs hc _ hP
  refine ⟨trivial, ?_⟩
  rintro _ w' rfl
  exact ⟨⟨m.evidence, rfl⟩, c, .refl hc, hP⟩

theorem observe_cons {c : ChildLog} {cs : List ChildLog} {f : ChildLog → ChildLog} (hc : w.children = c :: cs)
    (hpid : c.pid = pid) (hfpid : (f c).pid = c.pid) (hfgen : (f c).generation = c.generation) :
    Tended w c cs (w.observe pid f) (f c) := by
  refine ⟨hc, ?_, hfpid, hfgen, le_refl _, id, rfl, rfl⟩
  simp [World.observe, hc, hpid]

theorem Tended.answered {c : ChildLog} {cs : List ChildLog} (hc : w.children = c :: cs) (hpid : c.pid = pid)
    (reaped : Bool) : Tended w c cs (w.after (.tryWait pid) (.ok reaped)) { c with reaped } := by
  have h : Tended w c cs (w.observe pid fun c => { c with reaped }) { c with reaped } := observe_cons hc hpid rfl rfl
  exact ⟨hc, h.after, rfl, rfl, le_refl _, fun _ => le_refl _, rfl, rfl⟩

abbrev Plain (e : ServiceManagerError) (_ : ChildLog) : Prop := e ≠ .stateInconsistent

theorem tends_tryWait : Tends pid P (tryWait pid) (fun reaped c => c.reaped = reaped) Plain := by
  intro m w c cs hc hpid _
  unfold tryWait
  rw [Spec, Job.meets_bind]
  refine ⟨trivial, ?_⟩
  rintro (e | reaped) w' rfl
  · exact ⟨⟨m.evidence, rfl⟩, c, .refl hc, by simp⟩
  · exact ⟨⟨m.evidence, rfl⟩, _, .answered hc hpid reaped, rfl⟩

theorem tends_checkPid : Tends pid P (checkPid pid) (fun _ => P) Plain :=
  tends_rejectIf (fun _ _ hP => hP) fun _ _ _ => by simp

theorem tends_signalProcessGroup {signal : Signal} : Tends pid P (signalProcessGroup pid signal) (fun _ => P) Plain := by
  refine tends_checkPid.bind fun _ => ?_
  intro m w c cs hc hpid hP
  rw [Spec, Job.meets_bind]
  refine ⟨trivial, ?_⟩
  rintro ((_ | _ | code) | _) w' rfl
  · exact ⟨⟨m.evidence, rfl⟩, c, .refl hc, hP⟩
  · exact ⟨⟨m.evidence, rfl⟩, c, .refl hc, by simp⟩
  · exact ⟨⟨m.evidence, rfl⟩, c, .refl hc, by simp⟩
  · exact ⟨⟨m.evidence, rfl⟩, c, .refl hc, hP⟩

theorem tends_processGroupExists {reaped : Bool} : Tends pid (fun c => c.reaped = reaped) (processGroupExists pid)
    (fun groupExists c => c.reaped = reaped ∧ c.gone = !groupExists) Plain := by
  refine tends_checkPid.bind fun _ => ?_
  intro m w c cs hc hpid hP
  rw [Spec, Job.meets_bind]
  refine ⟨trivial, ?_⟩
  rintro ((_ | _ | code) | _) w' rfl
  · exact ⟨⟨m.evidence, rfl⟩, _, observe_cons hc hpid rfl rfl, hP, rfl⟩
  · exact ⟨⟨m.evidence, rfl⟩, _, observe_cons hc hpid rfl rfl, hP, rfl⟩
  · exact ⟨⟨m.evidence, rfl⟩, c, .refl hc, by simp⟩
  · exact ⟨⟨m.evidence, rfl⟩, _, observe_cons hc hpid rfl rfl, hP, rfl⟩

theorem Tends.of_true (h : Tends pid (fun _ => True) j Q X) : Tends pid P j Q X :=
  fun m w c cs hc hpid _ => h m w c cs hc hpid trivial

theorem tends_ownedGroupGone : Tends pid P (ownedGroupGone pid) (fun gone c => gone = true → Settled c) Plain := by
  refine tends_tryWait.bind fun reaped => ?_
  cases reaped with
  | true =>
    refine tends_processGroupExists.bind fun groupExists => tends_pure ?_
    rintro c ⟨hreaped, hgone⟩ hsome
    exact ⟨hreaped, hgone.trans hsome⟩
  | false => exact tends_pure fun _ _ h => by cases h

theorem tends_waitTurns {deadline : Int} {pollInterval : Nat} : ∀ turns,
    Tends pid (fun _ => True) (waitTurns pid deadline pollInterval turns) (fun gone c => gone = true → Settled c) Plain
  | 0 => tends_pure fun _ _ h => by cases h
  | turns + 1 => by
    refine tends_ownedGroupGone.bind fun gone => ?_
    cases gone with
    | true => exact tends_pure fun c h _ => h rfl
    | false =>
      rw [if_neg Bool.false_ne_true]
      refine tends_readClock.bind fun now => ?_
      split
      · exact tends_pure fun _ _ h => by cases h
      · exact tends_sleep.bind fun _ => (tends_waitTurns turns).of_true

theorem tends_need {x : Option α} (h : e ≠ .stateInconsistent) :
    Tends pid P (Job.need e x : SM α) (fun _ => P) Plain := by
  cases x with
  | none => exact tends_fail fun _ _ => h
  | some a => exact tends_pure fun _ hP => hP

variable {range : InstantRange}

theorem tends_waitForOwnedGroupCleanup {budget pollInterval : Nat} :
    Tends pid P (waitForOwnedGroupCleanup range pid budget pollInterval) (fun gone c => gone = true → Settled c) Plain :=
  tends_readClock.bind fun _ => (tends_need (by simp)).bind fun _ => (tends_waitTurns _).of_true

theorem tends_killAndReapFailedSpawn {owner : FailedSpawnCleanupOwner} (h : owner.pid = pid) :
    Tends pid P (killAndReapFailedSpawn range owner) (fun _ c => Settled c) Plain := by
  subst h
  refine tends_signalProcessGroup.bind fun _ => (tends_recordFor fun _ _ => rfl).bind fun _ => ?_
  refine tends_kill.bind fun _ => tends_self fun s => ?_
  refine tends_waitForOwnedGroupCleanup.bind fun gone => ?_
  refine (tends_rejectIf (Q := fun _ c => Settled c) (fun c hgone hc => hc (by simpa using hgone)) ?_).bind fun _ =>
    tends_recordFor fun _ _ => rfl
  simp

theorem tends_signalAndReap {active : ManagedRuntimeHost} (h : active.pid = pid) :
    Tends pid P (signalAndReap range active) (fun _ c => Settled c) Plain := by
  subst h
  refine tends_signalProcessGroup.bind fun _ => (tends_recordFor fun _ _ => rfl).bind fun _ => tends_self fun s => ?_
  refine tends_waitForOwnedGroupCleanup.bind fun gone => ?_
  cases gone with
  | true =>
    rw [if_pos rfl]
    exact (tends_recordFor fun _ _ => rfl).mono (fun _ c hc => hc rfl) fun e c he => he
  | false =>
    rw [if_neg Bool.false_ne_true]
    refine tends_signalProcessGroup.bind fun _ => (tends_recordFor fun _ _ => rfl).bind fun _ => ?_
    refine tends_waitForOwnedGroupCleanup.bind fun gone => ?_
    refine (tends_rejectIf (Q := fun _ c => Settled c) (fun c hgone hc => hc (by simpa using hgone)) ?_).bind fun _ =>
      tends_recordFor fun _ _ => rfl
    simp

/-- **The child is settled where its termination succeeds.**  An inconsistent state is one of a leader that was not reaped and
whose group is gone. -/
theorem tends_terminateAndReap {active : ManagedRuntimeHost} (h : active.pid = pid) :
    Tends pid P (terminateAndReap range active) (fun _ c => Settled c)
      (fun e c => e = .stateInconsistent → c.reaped = false ∧ c.gone = true) := by
  have hplain : ∀ e c, Plain e c → e = .stateInconsistent → c.reaped = false ∧ c.gone = true := fun e c he heq =>
    absurd heq he
  subst h
  refine (tends_tryWait.mono (fun _ _ hc => hc) hplain).bind fun reaped => ?_
  refine (tends_processGroupExists.mono (fun _ _ hc => hc) hplain).bind fun groupExists => ?_
  split
  · rename_i hdone
    refine (tends_recordFor fun _ _ => rfl).mono ?_ fun e c he => he
    rintro _ c ⟨hreaped, hgone⟩
    exact ⟨hreaped.trans hdone.1, hgone.trans (by simpa using hdone.2)⟩
  · split
    · rename_i hlost
      refine tends_fail ?_
      rintro c ⟨hreaped, hgone⟩ -
      exact ⟨hreaped.trans (by simpa using hlost.1), hgone.trans (by simpa using hlost.2)⟩
    · exact (tends_signalAndReap rfl).mono (fun _ _ hc => hc) hplain

end Tends

/-! ## Quiet jobs -/

/-- **The contract of a job that only writes evidence and reads the clock**, and never fails. -/
def Quiet (j : SM α) (Q : α → Prop) : Prop :=
  ∀ m w, Spec j m w
    (fun a m' w' => (∃ entries, m' = { m with evidence := entries }) ∧ (∃ t, w.clock ≤ t ∧ w' = { w with clock := t }) ∧ Q a)
    fun _ _ _ => False

theorem quiet_pure {a : α} {Q : α → Prop} (h : Q a) : Quiet (pure a : SM α) Q :=
  fun m w => ⟨⟨m.evidence, rfl⟩, ⟨w.clock, le_refl _, rfl⟩, h⟩

theorem Quiet.bind {j : SM α} {f : α → SM β} {Q : α → Prop} {R : β → Prop} (hj : Quiet j Q) (hf : ∀ a, Q a → Quiet (f a) R) :
    Quiet (j >>= f) R := by
  intro m w
  rw [Spec, Job.meets_bind]
  refine (hj m w).mono ?_ fun _ _ _ h => h
  rintro a m₁ w₁ ⟨⟨entries, rfl⟩, ⟨t, ht, rfl⟩, hQ⟩
  refine (hf a hQ _ _).mono ?_ fun _ _ _ h => h
  rintro b m₂ w₂ ⟨⟨entries', rfl⟩, ⟨t', ht', rfl⟩, hR⟩
  exact ⟨⟨entries', rfl⟩, ⟨t', le_trans ht ht', rfl⟩, hR⟩

theorem quiet_self {f : RuntimeHostServiceManager → SM β} {R : β → Prop} (h : ∀ s, Quiet (f s) R) :
    Quiet (Job.self >>= f) R := by
  intro m w
  rw [Spec, Job.meets_bind, Job.meets_self]
  exact h m m w

theorem quiet_recordFor {generation : UInt64} {about : Option UInt32} (h : Calm kind) :
    Quiet (recordFor generation about kind) fun _ => True :=
  fun _ _ => spec_recordFor fun entries t ht => ⟨⟨entries, rfl⟩, ⟨t, ht, h _ t⟩, trivial⟩

def SameChild (active active' : ManagedRuntimeHost) : Prop :=
  active'.pid = active.pid ∧ active'.generation = active.generation

theorem SameChild.trans {a b c : ManagedRuntimeHost} (h : SameChild a b) (h' : SameChild b c) : SameChild a c :=
  ⟨h'.1.trans h.1, h'.2.trans h.2⟩

theorem quiet_writeFrame {pid : UInt32} {frame : HostWatchdogFrame} : Quiet (writeFrame pid frame) fun _ => True := by
  intro m w
  unfold writeFrame
  rw [Spec, Job.meets_bind]
  refine ⟨trivial, ?_⟩
  rintro (_ | _) w' rfl
  · exact ⟨⟨m.evidence, rfl⟩, ⟨_, le_refl _, rfl⟩, trivial⟩
  · refine ⟨trivial, ?_⟩
    rintro flushed w'' rfl
    exact ⟨⟨m.evidence, rfl⟩, ⟨_, le_refl _, rfl⟩, trivial⟩

theorem quiet_sendControlProbe : Quiet (sendControlProbe active now) fun r => SameChild active r.2 := by
  unfold sendControlProbe
  split
  · exact quiet_pure ⟨rfl, rfl⟩
  · refine quiet_writeFrame.bind fun written _ => ?_
    split
    · exact quiet_pure ⟨rfl, rfl⟩
    · split
      · exact quiet_pure ⟨rfl, rfl⟩
      · split
        · exact quiet_pure ⟨rfl, rfl⟩
        · exact quiet_pure ⟨rfl, rfl⟩

def Accepted (active : ManagedRuntimeHost) : Except ManagedRuntimeHost (ManagedRuntimeHost × ServiceManagerEvidenceKind) → Prop
  | .error active' => SameChild active active'
  | .ok (active', kind) => SameChild active active' ∧ Calm kind

theorem acceptHostFrame_accepted (active : ManagedRuntimeHost) (frame : HostWatchdogFrame) (now : Int) :
    Accepted active (acceptHostFrame active frame now) := by
  unfold acceptHostFrame
  dsimp only
  repeat' split
  all_goals first | exact ⟨rfl, rfl⟩ | exact ⟨⟨rfl, rfl⟩, fun _ _ => rfl⟩

theorem quiet_readHostFrames : ∀ (reads : Nat) (active : ManagedRuntimeHost),
    Quiet (readHostFrames now reads active) fun r => SameChild active r.2
  | 0, active => quiet_pure ⟨rfl, rfl⟩
  | reads + 1, active => by
    intro m w
    unfold readHostFrames
    rw [Spec, Job.meets_bind]
    refine ⟨trivial, ?_⟩
    rintro answer w' rfl
    suffices h : Quiet _ fun r : Option ServiceManagerFailure × ManagedRuntimeHost => SameChild active r.2 from h m w'
    split
    · exact quiet_pure ⟨rfl, rfl⟩
    · exact quiet_pure ⟨rfl, rfl⟩
    · split
      · exact quiet_pure ⟨rfl, rfl⟩
      · split
        · exact quiet_readHostFrames reads _
        · split
          · exact quiet_pure ⟨rfl, rfl⟩
          · rename_i frame _
            have haccepted := acceptHostFrame_accepted { active with readBuffer := [] } frame now
            split
            · rename_i active' haccept
              rw [haccept] at haccepted
              exact quiet_pure haccepted
            · rename_i active' kind haccept
              rw [haccept] at haccepted
              obtain ⟨hsame, hcalm⟩ := haccepted
              refine (quiet_recordFor hcalm).bind fun _ _ => ?_
              exact fun m w => (quiet_readHostFrames reads active' m w).mono
                (fun _ _ _ h => ⟨h.1, h.2.1, SameChild.trans hsame h.2.2⟩) fun _ _ _ h => h

theorem quiet_maybeSendProbe : Quiet (maybeSendProbe active now) fun r => SameChild active r.2 := by
  refine quiet_self fun s => ?_
  split
  · exact quiet_pure ⟨rfl, rfl⟩
  · refine quiet_sendControlProbe.bind ?_
    rintro ⟨sent, active'⟩ hsame
    cases sent with
    | none => exact quiet_pure hsame
    | some nonce => exact (quiet_recordFor fun _ _ => rfl).bind fun _ _ => quiet_pure hsame

theorem quiet_observe : Quiet (observe active now) fun r => SameChild active r.2 := by
  refine (quiet_readHostFrames _ active).bind ?_
  rintro ⟨failure, active'⟩ hsame
  cases failure with
  | some failure => exact quiet_pure hsame
  | none =>
    refine quiet_self fun s => ?_
    split
    · exact quiet_pure hsame
    · exact fun m w => (quiet_maybeSendProbe m w).mono (fun _ _ _ h => ⟨h.1, h.2.1, hsame.trans h.2.2⟩) fun _ _ _ h => h

end ServiceManager
end ParaEgox
