import ParaEgox.ApplyContract
import ParaEgox.JournalHead
import ParaEgox.JournalSample
import ParaEgox.ReassemblyContract

/-!
# ServiceRuns — the record of a run of the Runtime

Over every run of processes on one journal: the journal is a chain of builder calls, each call on record was permitted
where it was made, and what an earlier process left under way is only wound down.
-/
namespace ParaEgox
namespace Control

open Check Journal RuntimeJournalSnapshot Program

variable {c : Contracts} {w w' : World} {sys sys' : System}

/-! ## Actions of earlier processes -/

/-- What a process makes of an action it finds: interrupted, or reported. -/
def Past (s : RuntimeJournalState) (action : JournalActionRef) : Prop :=
  Interrupted s action ∨ ∃ selection, Reported s action selection

section Past

variable {d d' : RuntimeJournalSnapshot} {action : JournalActionRef}

theorem Known.past (h : Known d.state action) (hcall : Builder.call c d .startupInvalidation = .ok d') :
    Past d'.state action := by
  rcases h with ⟨latch, hu⟩ | ⟨selection, hr⟩
  · exact .inl ((Builder.call_step hcall).interrupts (Builder.call_transaction hcall) hu)
  · exact .inr ⟨selection, hr.step (Builder.call_step hcall).transition⟩

theorem Past.call (h : Past d.state action) (hd : d.Built c) {b : Builder} (hb : b ≠ .startupInvalidation)
    (hcall : Builder.call c d b = .ok d') : Past d'.state action := by
  rcases h with hi | ⟨selection, hr⟩
  · cases hi.windsDown hd hb hcall with
    | taken _ still => exact .inl still
    | kept _ still => exact .inl still
    | reported selection report _ => exact .inr ⟨selection, report⟩
  · exact .inr ⟨selection, hr.step (Builder.call_step hcall).transition⟩

/-- An announced effect moves an action that is under way, in a phase no restart leaves it in. -/
theorem Announced.underway {s : RuntimeJournalState} {call : PortCall} (h : Announced s call)
    (hmoves : call.moves = some action) : Underway s action none ∧
      ((∃ p, s.prepared = some p ∧ (p.phase = .firstActionIntent ∨ p.phase = .headCommittedRetiringOld)) ∨
        ∃ r, s.recoveryAction = some r ∧ r.phase = .startCallIntent) := by
  have hstart : StartIntended s action → Underway s action none ∧
      ((∃ p, s.prepared = some p ∧ (p.phase = .firstActionIntent ∨ p.phase = .headCommittedRetiringOld)) ∨
        ∃ r, s.recoveryAction = some r ∧ r.phase = .startCallIntent) := by
    intro h
    cases h with
    | operation p hp phase ha latch => exact ⟨.prepared p hp ha latch, .inl ⟨p, hp, .inl phase⟩⟩
    | recovery r hr phase ha latch => exact ⟨.recovery r hr ha latch, .inr ⟨r, hr, phase⟩⟩
  cases call
  case startOneSourceOnce a => cases hmoves; exact hstart h.1
  case materializeOneSource a refs => cases hmoves; exact hstart h.1
  case stopOneSourceOnce a =>
    cases hmoves
    obtain ⟨p, hp, phase, ha, latch⟩ := h
    exact ⟨.prepared p hp ha latch, .inl ⟨p, hp, .inr phase⟩⟩
  all_goals cases hmoves

/-- **No effect is announced for an action of the past**, nor under its id. -/
theorem Past.not_announced {s : RuntimeJournalState} (h : Past s action) (hs : s.ActionsOk c) {call : PortCall}
    (hannounced : Announced s call) {action' : JournalActionRef} (hmoves : call.moves = some action') :
    action'.actionId ≠ action.actionId := by
  obtain ⟨hu, hphase⟩ := hannounced.underway hmoves
  rcases h with hi | ⟨selection, hr⟩
  · rcases hphase with ⟨p, hp, hfirst | hretire⟩ | ⟨r, hr, hcalled⟩
    · rcases hi.prepared_phase hs hp (by rw [hfirst]; rfl) with heq | heq <;> rw [hfirst] at heq <;> cases heq
    · rcases hi.prepared_phase hs hp (by rw [hretire]; rfl) with heq | heq <;> rw [hretire] at heq <;> cases heq
    · have hinvalidated := hi.recovery_phase hs hr
      rw [hcalled] at hinvalidated
      cases hinvalidated
  · exact (hu.not_reported hs hr).symm

end Past

/-! ## The record -/

/-- The journal has come from a call on record to `now`; a later process found it on the way. -/
structure Event.Since (c : Contracts) (e : Event) (n : Nat) (boot now : RuntimeJournalSnapshot) : Prop where
  lifetime : e.lifetime ≤ n
  reached : Chain c e.after now
  found : e.lifetime < n → Chain c e.after boot

/-- The world a call on record was made in, over the older record. -/
def Event.world (e : Event) (older : List Event) : World := ⟨⟨e.before, false⟩, e.lifetime, e.boot, e.task, older⟩

/-- **What a call on record keeps to**: it was announced, it moves the journal by a builder its task may call or not at all,
and its process has left alone what it found. -/
structure Event.Sound (c : Contracts) (e : Event) (older : List Event) : Prop where
  reach : BuilderReachable c e.before
  booted : Chain c e.boot e.before
  announced : Announced e.before.state e.call
  moved : e.after = e.before ∨ ∃ b, allowed c (e.world older) b ∧ Builder.call c e.before b = .ok e.after
    ∧ e.call = .commitSnapshot e.after
  past : ∀ action, Known e.boot.state action → Past e.before.state action
  since : ∀ f ∈ older, f.Since c e.lifetime e.boot e.before

structure World.Ok (c : Contracts) (w : World) : Prop where
  reach : BuilderReachable c w.store.durable
  booted : Chain c w.boot w.store.durable
  log : ∀ e older, e :: older <:+ w.log → e.Sound c older
  since : ∀ e ∈ w.log, e.Since c w.lifetime w.boot w.store.durable

theorem allowed_ne_startup {b : Builder} (h : allowed c w b) : b ≠ .startupInvalidation := by
  rintro rfl
  exact h

theorem permitted.moves {call : PortCall} (hmay : permitted c call w) {answer : call.Answer} {store : Store}
    (h : answers c call w.store answer store) : store.durable = w.store.durable ∨
      w.store.stopped = false ∧ ∃ b, allowed c w b ∧ Builder.call c w.store.durable b = .ok store.durable
        ∧ call = .commitSnapshot store.durable := by
  by_cases hcommit : call.isCommit = false
  · exact .inl (congrArg Store.durable (answers_store hcommit h))
  cases call
  case commitSnapshot next =>
    obtain ⟨hrunning, b, hb, hcall⟩ := hmay
    replace h : Commits c next w.store answer store := h
    generalize w.store = old at h hrunning hcall
    cases h with
    | published d accepted => exact .inr ⟨hrunning, b, hb, hcall, rfl⟩
    | refused => exact .inl rfl
    | uncertain d accepted => exact .inr ⟨hrunning, b, hb, hcall, rfl⟩
  all_goals exact absurd rfl hcommit

theorem permitted.announced {call : PortCall} (h : permitted c call w) : Announced w.store.durable.state call := by
  cases call
  case commitSnapshot next => trivial
  all_goals exact h

theorem Event.Since.step {e : Event} {n : Nat} {boot now next : RuntimeJournalSnapshot}
    (h : e.Since c n boot now) (hchain : Chain c now next) : e.Since c n boot next :=
  ⟨h.lifetime, h.reached.trans hchain, h.found⟩

theorem moved_chain {s s' : RuntimeJournalSnapshot} {b : Builder} (h : Builder.call c s b = .ok s') : Chain c s s' :=
  .single (Builder.call_step h)

theorem permitted.chain {call : PortCall} (hmay : permitted c call w) {answer : call.Answer} {store : Store}
    (h : answers c call w.store answer store) : Chain c w.store.durable store.durable := by
  rcases hmay.moves h with heq | ⟨_, b, _, hcall, _⟩
  · rw [heq]
    exact .refl
  · exact moved_chain hcall

theorem World.Ok.built (h : w.Ok c) : w.store.durable.Built c := h.reach.reachable.built

/-- **The step lemma of the record**: a permitted call keeps it, and opens nothing of the past. -/
theorem World.Ok.record (h : w.Ok c) (hpast : ∀ action, Known w.boot.state action → Past w.store.durable.state action)
    {call : PortCall} (hmay : permitted c call w) {answer : call.Answer} {store : Store}
    (hanswer : answers c call w.store answer store) :
    (w.record call store).Ok c ∧ ∀ action, Known w.boot.state action → Past store.durable.state action := by
  have hmoves := hmay.moves hanswer
  have hchain := hmay.chain hanswer
  refine ⟨⟨?_, h.booted.trans hchain, ?_, ?_⟩, ?_⟩
  · rcases hmoves with heq | ⟨_, b, _, hcall, _⟩
    · exact (congrArg (BuilderReachable c) heq).mpr h.reach
    · exact h.reach.call hcall
  · intro e older hsuffix
    rcases List.suffix_cons_iff.1 hsuffix with heq | hsuffix
    · cases heq
      refine ⟨h.reach, h.booted, hmay.announced, ?_, hpast, h.since⟩
      rcases hmoves with heq | ⟨_, b, hb, hcall, hcommit⟩
      · exact .inl heq
      · refine .inr ⟨b, ?_, hcall, hcommit⟩
        cases b <;> exact hb
    · exact h.log e older hsuffix
  · intro e he
    rcases List.mem_cons.1 he with rfl | he
    · exact ⟨le_rfl, .refl, fun hlt => absurd hlt (lt_irrefl _)⟩
    · exact (h.since e he).step hchain
  · intro action hk
    rcases hmoves with heq | ⟨_, b, hb, hcall, _⟩
    · rw [heq]
      exact hpast action hk
    · exact (hpast action hk).call h.built (allowed_ne_startup hb) hcall

theorem World.Ok.started (h : w.Ok c) {store : Store} (hchain : Chain c w.store.durable store.durable)
    (hreach : BuilderReachable c store.durable) : (w.started store).Ok c where
  reach := hreach
  booted := hchain
  log := h.log
  since e he := ⟨(h.since e he).lifetime.trans (Nat.le_succ _), (h.since e he).reached.trans hchain,
    fun _ => (h.since e he).reached⟩

/-! ## Processes -/

def Mode.Ok (c : Contracts) (w : World) : Mode → Prop
  | .down => True
  | .reassembling _ p => p.meets (reacts c) (permitted c) (Job.outcome (fun _ => Follows) fun _ _ _ => True) w
  | .serving _ core => Aligned c core w
  | .applying _ p => p.meets (reacts c) (permitted c)
      (Job.outcome (fun outcome core w => Aligned c core w ∧ Apply.Answered c w outcome) fun _ => Aligned c) w

/-- **The invariant of a run.** -/
structure System.Ok (c : Contracts) (sys : System) : Prop where
  world : sys.world.Ok c
  past : sys.mode ≠ .down → ∀ action, Known sys.world.boot.state action → Past sys.world.store.durable.state action
  mode : sys.mode.Ok c sys.world

theorem tryFromStartedSnapshot_ok {s started : RuntimeJournalSnapshot} (h : tryFromStartedSnapshot s = .ok started) :
    started = s := by
  simp only [tryFromStartedSnapshot, bind_ok, exists_unit, pure_ok] at h
  exact h.2.symm

theorem System.Ok.step (h : sys.Ok c) (hstep : System.Step c sys sys') : sys'.Ok c := by
  obtain ⟨hworld, hpast, hmode⟩ := h
  cases hstep with
  | start w k next store hnext hcommit =>
    cases hcommit
    refine ⟨hworld.started (moved_chain hnext) (hworld.reach.call hnext), ?_, ?_⟩
    · intro _ action hk
      exact Known.past hk hnext
    · exact Reassembly.run_keeps (x := k.provision c) k.execution k.depth ⟨rfl, rfl⟩
  | failStart w next store hnext hcommit =>
    refine ⟨?_, fun hne => absurd rfl hne, trivial⟩
    cases hcommit with
    | refused => exact hworld.started .refl hworld.reach
    | uncertain d accepted => exact hworld.started (moved_chain hnext) (hworld.reach.call hnext)
  | reassemble w w' k call next answer hreact =>
    obtain ⟨store, hanswer, rfl⟩ := hreact
    obtain ⟨hworld', hpast'⟩ := hworld.record (hpast (by rintro ⟨⟩)) hmode.1 hanswer
    exact ⟨hworld', fun _ => hpast', hmode.2 answer _ ⟨store, hanswer, rfl⟩⟩
  | serve w k s started hrunning hstarted =>
    refine ⟨hworld, fun _ => hpast (by rintro ⟨⟩), ⟨.inr (tryFromStartedSnapshot_ok hstarted), resident_none⟩⟩
  | receive w k core request preflight =>
    have htask : Aligned c core { w with task := .apply request preflight core.state } :=
      ⟨hmode.current, hmode.resident⟩
    exact ⟨⟨hworld.reach, hworld.booted, hworld.log, hworld.since⟩, fun _ => hpast (by rintro ⟨⟩),
      Apply.tryApply_safe (x := k.provision c) htask rfl⟩
  | apply w w' k call next answer hreact =>
    obtain ⟨store, hanswer, rfl⟩ := hreact
    obtain ⟨hworld', hpast'⟩ := hworld.record (hpast (by rintro ⟨⟩)) hmode.1 hanswer
    exact ⟨hworld', fun _ => hpast', hmode.2 answer _ ⟨store, hanswer, rfl⟩⟩
  | reply w k core outcome =>
    refine ⟨hworld, fun _ => hpast (by rintro ⟨⟩), ?_⟩
    cases outcome with
    | ok outcome => exact hmode.1
    | error e => exact hmode
  | crash w mode => exact ⟨hworld, fun hne => absurd rfl hne, trivial⟩

theorem System.Ok.chain (h : sys.Ok c) (hstep : System.Step c sys sys') :
    Chain c sys.world.store.durable sys'.world.store.durable := by
  obtain ⟨_, _, hmode⟩ := h
  cases hstep with
  | start w k next store hnext hcommit =>
    cases hcommit
    exact moved_chain hnext
  | failStart w next store hnext hcommit =>
    cases hcommit with
    | refused => exact .refl
    | uncertain d accepted => exact moved_chain hnext
  | reassemble w w' k call next answer hreact =>
    obtain ⟨store, hanswer, rfl⟩ := hreact
    exact hmode.1.chain hanswer
  | apply w w' k call next answer hreact =>
    obtain ⟨store, hanswer, rfl⟩ := hreact
    exact hmode.1.chain hanswer
  | serve | receive | reply | crash => exact .refl

theorem System.Ok.later (h : sys.Ok c) (hlater : Relation.ReflTransGen (System.Step c) sys sys') :
    sys'.Ok c ∧ Chain c sys.world.store.durable sys'.world.store.durable := by
  induction hlater with
  | refl => exact ⟨h, .refl⟩
  | tail _ hstep ih => exact ⟨ih.1.step hstep, ih.2.trans (ih.1.chain hstep)⟩

theorem System.Reachable.later (h : System.Reachable c sys) (hlater : Relation.ReflTransGen (System.Step c) sys sys') :
    System.Reachable c sys' := by
  induction hlater with
  | refl => exact h
  | tail _ hstep ih => exact ih.step hstep

/-- **The run lemma.** -/
theorem System.Reachable.ok (h : System.Reachable c sys) : sys.Ok c := by
  induction h with
  | fresh first hfirst =>
    have hlog : ∀ e older, e :: older <:+ ([] : List Event) → e.Sound c older := by
      intro e older hsuffix
      cases List.suffix_nil.1 hsuffix
    refine ⟨⟨⟨first, [], hfirst, rfl⟩, .refl, hlog, ?_⟩, fun hne => absurd rfl hne, trivial⟩
    intro e he
    cases he
  | step h hstep ih => exact ih.step hstep

/-! ## Driven runs -/

structure Oracle (c : Contracts) where
  respond : (call : PortCall) → Store → call.Answer × Store
  answers : ∀ call store, Control.answers c call store (respond call store).1 (respond call store).2

/-- The answer of an oracle, with the world that has it on record. -/
def Oracle.react (o : Oracle c) (call : PortCall) (w : World) : call.Answer × World :=
  ((o.respond call w.store).1, w.record call (o.respond call w.store).2)

theorem Oracle.reacts (o : Oracle c) (call : PortCall) (w : World) :
    Control.reacts c call w (o.react call w).1 (o.react call w).2 :=
  ⟨_, o.answers call w.store, rfl⟩

variable {k : Process}

theorem System.Reachable.drive_apply (o : Oracle c) : ∀ (n : Nat) {w : World}
    {p : Prog ports (Except RuntimeReferenceApplyError RuntimeReferenceApplyOutcome × RuntimeReferenceApplyCore)},
    System.Reachable c ⟨w, .applying k p⟩ →
      System.Reachable c ⟨(p.drive o.react n w).2, .applying k (p.drive o.react n w).1⟩
  | 0, _, _, h => h
  | _ + 1, _, .done _, h => h
  | n + 1, w, .ask call next, h => drive_apply o n (h.step (.apply w _ k call next _ (o.reacts call w)))

theorem System.Reachable.drive_reassemble (o : Oracle c) : ∀ (n : Nat) {w : World}
    {p : Prog ports (Except RuntimeRestartReassemblyError Unit × RuntimeJournalSnapshot)},
    System.Reachable c ⟨w, .reassembling k p⟩ →
      System.Reachable c ⟨(p.drive o.react n w).2, .reassembling k (p.drive o.react n w).1⟩
  | 0, _, _, h => h
  | _ + 1, _, .done _, h => h
  | n + 1, w, .ask call next, h => drive_reassemble o n (h.step (.reassemble w _ k call next _ (o.reacts call w)))

theorem run_settled {x : Provision} {execution : Option ReferenceTargetExecution} {depth : Nat}
    {s : RuntimeJournalSnapshot} (h : Reassembly.settled s.state) :
    Reassembly.run x execution (depth + 1) s = .done (.ok (), s) := by
  change (if Reassembly.settled s.state then Pure.pure () else _ : Reassembly Unit) s = _
  rw [if_pos h]
  rfl

end Control

namespace Sample

open Check Journal RuntimeJournalSnapshot Program Control

/-- The process on the socket of an endpoint. -/
def process (endpoint : Nat) (execution : Option ReferenceTargetExecution) : Process where
  execution := execution
  depth := 1
  signTerminal request preview channel := okOr (decodeReceipt (encodeReceipt preview request.targetSliceDigest
    request.operationId request.envelopeRequestDigest channel.bindingDigest)) .responseSignerRejected
  channel := channelAt endpoint

def preflight (endpoint : Nat) (request : ReferenceApplyRequest) (now : U64) : RuntimeReferenceApplyPreflight where
  localTarget := target
  ownerTargetFingerprint := owner
  admissionPolicyFingerprint := sequenceOne.admissionPolicyFingerprint
  channelPolicyFingerprint := sequenceOne.channelPolicyFingerprint
  controllerKeyFingerprint := sequenceOne.controllerKeyFingerprint
  tenureNonceIdentity := (ingress request).tenureNonceIdentity
  requestNonceIdentity := (ingress request).requestNonceIdentity
  temporalLineageDigest := (ingress request).temporalLineageDigest
  admittedAtNanos := now
  responseChannel := channelAt endpoint

/-- Commits are published, the clock stands, and the owner plans one action. -/
def respond (now : U64) : (call : PortCall) → Store → call.Answer × Store
  | .currentSnapshot, store => (if store.stopped then .error .unavailable else .ok store.durable, store)
  | .commitSnapshot next, store =>
    if store.stopped = false ∧ next.validateSuccessorOf contracts store.durable = .ok () then (.ok (), ⟨next, false⟩)
    else (.error .unavailable, ⟨store.durable, true⟩)
  | .observe generation, store => (.ok ⟨generation, now⟩, store)
  | .prepareOneSource .., store => (.ok ⟨.ofNat 50, 1, 1, 1, refs, ⟨100, 200, 300⟩⟩, store)
  | .materializeOneSource .., store => (.ok ownership, store)
  | .startOneSourceOnce _, store => (.ok (), store)
  | .prepareEmptyRetire .., store => (.error .unavailable, store)
  | .stopOneSourceOnce _, store => (.ok (), store)
  | .cleanupOneSourceOnce _, store => (.ok tombstones, store)
  | .proveRestartExactZero .., store => (.ok tombstones, store)
  | .proveRestartActionExactZero .., store => (.ok (), store)
  | .proveInterruptedNormalActionExactZero .., store => (.ok (), store)
  | .prepareRecoveryOneSource .., store => (.error .unavailable, store)
  | .cleanupRecoveryOneSourceOnce _, store => (.ok tombstones, store)

def oracle (now : U64) : Oracle contracts where
  respond := respond now
  answers call store := by
    cases call
    case currentSnapshot => exact ⟨rfl, rfl⟩
    case commitSnapshot next =>
      change Commits contracts next store (respond now (.commitSnapshot next) store).1 _
      rw [respond]
      by_cases h : store.stopped = false ∧ next.validateSuccessorOf contracts store.durable = .ok ()
      · rw [if_pos h]
        obtain ⟨d, stopped⟩ := store
        obtain ⟨rfl, haccepted⟩ := h
        exact .published d haccepted
      · rw [if_neg h]
        exact .refused store
    all_goals exact rfl

def restart (w : World) : Res World := do
  let next ← Builder.call contracts w.store.durable .startupInvalidation
  rejectIf (¬ Reassembly.settled next.state ∨ tryFromStartedSnapshot next ≠ .ok next) .danglingReference
  pure (w.started ⟨next, false⟩)

theorem restart_later {w w' : World} {mode : Mode} (hw : restart w = .ok w') (endpoint : Nat) :
    Relation.ReflTransGen (System.Step contracts) ⟨w, mode⟩
      ⟨w', .serving (process endpoint none) ⟨w'.store.durable, none⟩⟩ := by
  simp only [restart, bind_ok, rejectIf_ok, exists_unit, pure_ok, not_or, not_not] at hw
  obtain ⟨next, hnext, ⟨hsettled, hstarted⟩, rfl⟩ := hw
  have hstart : System.Step contracts ⟨w, .down⟩ _ :=
    .start w (process endpoint none) next _ hnext (.published _ (Builder.call_step hnext).accepted)
  rw [Process.reassembly, process, run_settled hsettled] at hstart
  exact ((Relation.ReflTransGen.single (.crash _ _)).tail hstart).tail (.serve _ _ next next rfl hstarted)

theorem restart_serving {w w' : World} {mode : Mode} (h : System.Reachable contracts ⟨w, mode⟩) (hw : restart w = .ok w')
    (endpoint : Nat) :
    System.Reachable contracts ⟨w', .serving (process endpoint none) ⟨w'.store.durable, none⟩⟩ :=
  h.later (restart_later hw endpoint)

def fresh (first : RuntimeJournalSnapshot) : World := ⟨⟨first, true⟩, 0, first, .reassembly, []⟩

theorem fresh_serving {first : RuntimeJournalSnapshot} {w : World} (hfirst : initialized = .ok first)
    (hw : restart (fresh first) = .ok w) (endpoint : Nat) :
    System.Reachable contracts ⟨w, .serving (process endpoint none) ⟨w.store.durable, none⟩⟩ := by
  have hfresh : System.Reachable contracts ⟨fresh first, .down⟩ := .fresh first ⟨store, owner, sequenceOne, hfirst⟩
  exact restart_serving hfresh hw endpoint

/-- The first calls of a request, on the channel of its process. -/
def applied (endpoint calls : Nat) (w : World) (core : RuntimeReferenceApplyCore) (r : ReferenceApplyRequest) :
    Prog ports (Except RuntimeReferenceApplyError RuntimeReferenceApplyOutcome × RuntimeReferenceApplyCore) × World :=
  (Apply.tryApply ((process endpoint none).provision contracts) r (preflight endpoint r 5) core).drive
    (oracle 10).react calls { w with task := .apply r (preflight endpoint r 5) core.state }

theorem applied_reachable {endpoint : Nat} {w : World} {core : RuntimeReferenceApplyCore}
    (h : System.Reachable contracts ⟨w, .serving (process endpoint none) core⟩) (calls : Nat) (r : ReferenceApplyRequest) :
    System.Reachable contracts
      ⟨(applied endpoint calls w core r).2, .applying (process endpoint none) (applied endpoint calls w core r).1⟩ :=
  (h.step (.receive _ _ core r (preflight endpoint r 5))).drive_apply (oracle 10) calls

/-- A start that crashes once its resources are materialized, and the next process, on a socket of its own, that closes it. -/
def twoProcesses : Res System := do
  let first ← initialized
  let w ← restart (fresh first)
  let r ← request startWire
  let crashed := (applied 27 10 w ⟨w.store.durable, none⟩ r).2
  let cut ← Builder.call contracts crashed.store.durable .startupInvalidation
  let second := process 29 (some (execution 0))
  let restarted := (second.reassembly contracts cut).drive (oracle 20).react 20 (crashed.started ⟨cut, false⟩)
  pure ⟨restarted.2, .reassembling second restarted.1⟩

theorem twoProcesses_reachable {sys : System} (h : twoProcesses = .ok sys) : System.Reachable contracts sys := by
  simp only [twoProcesses, bind_ok, pure_ok] at h
  obtain ⟨first, hfirst, w, hw, r, _, cut, hcut, rfl⟩ := h
  have hcrashed := (applied_reachable (fresh_serving hfirst hw 27) 10 r).step (.crash _ _)
  exact (hcrashed.step (.start _ (process 29 (some (execution 0))) cut _ hcut
    (.published _ (Builder.call_step hcut).accepted))).drive_reassemble (oracle 20) 20

end Sample

namespace Control

open Check Journal RuntimeJournalSnapshot Program

variable {c : Contracts} {w : World} {sys : System}

/-! ## Effects -/

theorem older_or_eq {l : List Event} {e f : Event} (he : e ∈ l) (hf : f ∈ l) : e = f ∨
    (∃ older, e :: older <:+ l ∧ f ∈ older) ∨ ∃ older, f :: older <:+ l ∧ e ∈ older := by
  obtain ⟨newer, older, rfl⟩ := List.append_of_mem he
  rcases List.mem_append.1 hf with hf | hf
  · obtain ⟨first, rest, rfl⟩ := List.append_of_mem hf
    refine .inr (.inr ⟨rest ++ e :: older, ⟨first, ?_⟩, List.mem_append_right _ List.mem_cons_self⟩)
    rw [List.append_assoc, List.cons_append]
  · rcases List.mem_cons.1 hf with rfl | hf
    · exact .inl rfl
    · exact .inr (.inl ⟨older, List.suffix_append _ _, hf⟩)

theorem World.Ok.sound (h : w.Ok c) {e : Event} (he : e ∈ w.log) : ∃ older, e.Sound c older := by
  obtain ⟨newer, older, heq⟩ := List.append_of_mem he
  exact ⟨older, h.log e older ⟨newer, heq.symm⟩⟩

variable {e f : Event} {older : List Event} {action action' : JournalActionRef}

theorem Event.Sound.effect (h : e.Sound c older) (hmoves : e.call.moves = some action) : e.after = e.before := by
  rcases h.moved with heq | ⟨b, _, _, hcommit⟩
  · exact heq
  · rw [hcommit] at hmoves
    cases hmoves

theorem Event.Sound.known (h : e.Sound c older) (hmoves : e.call.moves = some action) : Known e.before.state action :=
  .inl ⟨none, (h.announced.underway hmoves).1⟩

theorem Event.Sound.fresh (h : e.Sound c older) (hmoves : e.call.moves = some action)
    (hk : Known e.boot.state action') : action.actionId ≠ action'.actionId :=
  (h.past action' hk).not_announced h.reach.reachable.built.valid.actions h.announced hmoves

/-- **Effects on one action are of one process**: what an older process moved, this one found in its journal. -/
theorem Event.Sound.lifetime_eq {older' : List Event} (h : e.Sound c older) (hf : f ∈ older) (hsound : f.Sound c older')
    (he : e.call.moves = some action) (hmoves : f.call.moves = some action')
    (hid : action.actionId = action'.actionId) : e.lifetime = f.lifetime := by
  have hsince := h.since f hf
  by_contra hne
  have hchain := hsince.found (lt_of_le_of_ne hsince.lifetime (Ne.symm hne))
  rw [hsound.effect hmoves] at hchain
  have hfound : Known e.boot.state action' := Chain.known hsound.reach.reachable.built hchain (hsound.known hmoves)
  exact h.fresh he hfound hid

/-- **An action found under way is only wound down**: while it is interrupted, what is committed is a takeover, cleanup or
its terminal, and it is not reported live. -/
theorem Event.Sound.windsDown (h : e.Sound c older) (hi : Interrupted e.before.state action) : e.after = e.before ∨
    WindsDown e.before.state e.after.state action ∧
      CleansUp e.before.state.ownedResources e.after.state.ownedResources := by
  rcases h.moved with heq | ⟨b, hb, hcall, _⟩
  · exact .inl heq
  · have hbuilt := h.reach.reachable.built
    refine .inr ⟨hi.windsDown hbuilt (allowed_ne_startup hb) hcall, Builder.call_cleansUp hcall ?_⟩
    exact hi.not_acquires rfl hbuilt.valid.actions hcall

/-- **Lifecycle effects are never replayed across crashes.**  In every run, of whatever requests, answers and crashes: an
effect is made only over the durable facts that announce it; the effects on one action id are all of one process; and an
action that a process found under way or reported is not moved by it again; under way, it is only wound down. -/
theorem effects_never_replayed (h : System.Reachable c sys) :
    (∀ e ∈ sys.world.log, Announced e.before.state e.call) ∧
    (∀ e ∈ sys.world.log, ∀ f ∈ sys.world.log, ∀ action action', e.call.moves = some action →
      f.call.moves = some action' → action.actionId = action'.actionId → e.lifetime = f.lifetime) ∧
    ∀ e ∈ sys.world.log, ∀ action, Known e.boot.state action →
      (∀ action', e.call.moves = some action' → action'.actionId ≠ action.actionId) ∧
      (Interrupted e.before.state action ∧ (e.after = e.before ∨ WindsDown e.before.state e.after.state action ∧
          CleansUp e.before.state.ownedResources e.after.state.ownedResources) ∨
        ∃ selection, Reported e.before.state action selection) := by
  have hok := h.ok.world
  refine ⟨fun e he => ?_, fun e he f hf action action' hmoves hmoves' hid => ?_, fun e he action hknown => ?_⟩
  · obtain ⟨older, hsound⟩ := hok.sound he
    exact hsound.announced
  · obtain ⟨_, hsound⟩ := hok.sound he
    obtain ⟨_, hsound'⟩ := hok.sound hf
    rcases older_or_eq he hf with rfl | ⟨older, hsuffix, hmem⟩ | ⟨older, hsuffix, hmem⟩
    · rfl
    · exact (hok.log e older hsuffix).lifetime_eq hmem hsound' hmoves hmoves' hid
    · exact ((hok.log f older hsuffix).lifetime_eq hmem hsound hmoves' hmoves hid.symm).symm
  · obtain ⟨older, hsound⟩ := hok.sound he
    refine ⟨fun action' hmoves => hsound.fresh hmoves hknown, ?_⟩
    rcases hsound.past action hknown with hi | hr
    · exact .inl ⟨hi, hsound.windsDown hi⟩
    · exact .inr hr

theorem effects_never_replayed_restart : ∃ sys, Sample.twoProcesses = .ok sys ∧
    (∃ e ∈ sys.world.log, e.lifetime = 1 ∧ e.call.moves.isSome ∧ Announced e.before.state e.call) ∧
    ∃ e ∈ sys.world.log, e.lifetime = 2 ∧ ∃ action latch, Underway e.boot.state action latch ∧
      ∀ action', e.call.moves = some action' → action'.actionId ≠ action.actionId := by
  have hall : (Sample.twoProcesses.map fun sys =>
      (sys.world.log.any fun e => decide (e.lifetime = 1) && e.call.moves.isSome)
        && sys.world.log.any fun e => decide (e.lifetime = 2) && (e.boot.state.prepared.bind (·.action)).isSome) =
      .ok true := by decide +kernel
  cases hrun : Sample.twoProcesses with
  | error e => rw [hrun] at hall; cases hall
  | ok sys =>
    obtain ⟨hannounced, _, hpast⟩ := effects_never_replayed (Sample.twoProcesses_reachable hrun)
    rw [hrun] at hall
    replace hall := Except.ok.inj hall
    simp only [Bool.and_eq_true, List.any_eq_true, decide_eq_true_eq, Option.isSome_iff_exists] at hall
    obtain ⟨⟨e, he, hfirst, hmoves⟩, f, hf, hsecond, action, haction⟩ := hall
    obtain ⟨p, hp, ha⟩ := Option.bind_eq_some_iff.1 haction
    have hu : Underway f.boot.state action p.rawOutcome := .prepared p hp ha rfl
    refine ⟨sys, rfl, ⟨e, he, hfirst, Option.isSome_iff_exists.2 hmoves, hannounced e he⟩, f, hf, hsecond, action, _,
      hu, ?_⟩
    exact (hpast f hf action (.inl ⟨_, hu⟩)).1

theorem Event.Sound.after_reach (h : e.Sound c older) : BuilderReachable c e.after := by
  rcases h.moved with heq | ⟨b, _, hcall, _⟩
  · rw [heq]
    exact h.reach
  · exact h.reach.call hcall

/-- **What a call left in the journal outlives every crash.**  In every run the durable journal is reached by builders alone,
and from every call on record it has only grown: its identity, histories and high waters are kept, its head is not lost or
put back, and an outcome latched then is still latched or reported with its facts. -/
theorem journal_outlives_crashes (h : System.Reachable c sys) :
    BuilderReachable c sys.world.store.durable ∧ ∀ e ∈ sys.world.log,
      sys.world.store.durable.storeInstanceId = e.after.storeInstanceId ∧
      Extends e.after.state sys.world.store.durable.state ∧
      (∀ head, e.after.state.activeDesired = some head → ∃ now, sys.world.store.durable.state.activeDesired = some now ∧
        head.sourceRevision ≤ now.sourceRevision) ∧
      ∀ action raw, Underway e.after.state action (some raw) → Survives raw action sys.world.store.durable.state := by
  have hok := h.ok.world
  refine ⟨hok.reach, fun e he => ?_⟩
  obtain ⟨older, hsound⟩ := hok.sound he
  have hchain := (hok.since e he).reached
  obtain ⟨first, hfirst, hfrom⟩ := hsound.after_reach.reachable
  have hbuilt := Chain.built hfirst.built hfrom
  obtain ⟨hstore, _, hextends⟩ := Chain.extends hbuilt hchain
  exact ⟨hstore, hextends, Chain.head_mono hfirst hfrom hchain, fun action raw hopen =>
    Chain.survives hbuilt hchain hopen⟩

theorem journal_outlives_crashes_restart : ∃ sys, Sample.twoProcesses = .ok sys ∧
    ∃ e ∈ sys.world.log, e.lifetime = 1 ∧ Extends e.after.state sys.world.store.durable.state := by
  have hall : (Sample.twoProcesses.map fun sys => sys.world.log.any fun e => decide (e.lifetime = 1)) = .ok true := by
    decide +kernel
  cases hrun : Sample.twoProcesses with
  | error e => rw [hrun] at hall; cases hall
  | ok sys =>
    have hkept := (journal_outlives_crashes (Sample.twoProcesses_reachable hrun)).2
    rw [hrun] at hall
    obtain ⟨e, he, hfirst⟩ := List.any_eq_true.1 (Except.ok.inj hall)
    exact ⟨sys, rfl, e, he, of_decide_eq_true hfirst, (hkept e he).2.1⟩

end Control
end ParaEgox
