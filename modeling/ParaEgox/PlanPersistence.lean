import ParaEgox.Cursors
import ParaEgox.PlanningRuns

/-!
# PlanPersistence — a planned content survives its bytes

`PersistedPlanContentReader` keeps the whole slice and an offset; its length arithmetic is that of a machine word, and what
would panic is told from what is an error.  It accepts exactly what the reader of `PlanContent` accepts, so whatever the
planner returns is restored from its bytes, whatever is restored has the bytes it came from, and no bytes make it panic.
-/
namespace ParaEgox
namespace Controller

open Check Wire

/-! ## The reader of the source -/

abbrev PersistedPlanContentReader (α : Type) := SliceReader PlannerFault α

namespace PersistedPlanContentReader

def check (x : Except PlannerError α) : PersistedPlanContentReader α := SliceReader.lift (wrapErr .error x)

theorem length_take {length : Nat} {c : Wire.Cursor} (h : c.offset + length ≤ c.bytes.length) :
    (c.rest.take length).length = length := by
  rw [List.length_take, c.length_rest]
  omega

/-- `take`: the end of the read is computed in machine words before the slice is looked at. -/
def take (length : Nat) : PersistedPlanContentReader {bs : Bytes // bs.length = length} := fun c =>
  if u64Max < c.offset + length then .error (.error .canonicalLengthOverflow)
  else if h : c.offset + length ≤ c.bytes.length then
    .ok (⟨c.rest.take length, length_take h⟩, { c with offset := c.offset + length })
  else .error (.error .invalidPersistedPlanContent)

/-- `remaining`, a subtraction that would panic below zero. -/
def remaining : PersistedPlanContentReader Nat := fun c =>
  if c.bytes.length < c.offset then .error .panic else .ok (c.bytes.length - c.offset, c)

def uint (width : Nat) : PersistedPlanContentReader Nat := do
  let bytes ← take width
  pure (fromBE bytes.val)

def ref16 : PersistedPlanContentReader Ref16 := do
  let bytes ← take 16
  pure (Ref16.fromBytes bytes)

def digest : PersistedPlanContentReader Digest32 := do
  let bytes ← take 32
  pure (Digest32.fromBytes bytes)

def u64 : PersistedPlanContentReader UInt64 := do
  let n ← uint 8
  pure (UInt64.ofNat n)

def finish : PersistedPlanContentReader Unit := do
  let left ← remaining
  check (rejectIf (left ≠ 0) .invalidPersistedPlanContent)

def loopFields (manifest : VerifiedRuntimeManifestIngressV1) : PersistedPlanContentReader LoopFields := do
  let deckLockDigest ← digest
  let key ← ref16
  let cardInstance ← ref16
  let loopDomain ← ref16
  let start ← u64
  let drain ← u64
  let cleanup ← u64
  check (rejectIf (start = 0 ∨ drain = 0 ∨ cleanup = 0) .invalidPersistedPlanContent)
  let lifecycle ← check (mapErr (LifecycleBudgets.tryNew start drain cleanup) .invalidPersistedPlanContent)
  let configDigest ← digest
  check (rejectIf (configDigest ≠ manifest.canonicalEmptyConfigDigest) .invalidPersistedPlanContent)
  pure { deckLockDigest, key, cardInstance, loopDomain, lifecycle, configDigest }

def optionalLoop (manifest : VerifiedRuntimeManifestIngressV1) :
    TargetIntent → PersistedPlanContentReader (Option LoopFields)
  | .oneSourceLoop => do
    let loop ← loopFields manifest
    pure (some loop)
  | _ => pure none

def rebuiltTag : TargetIntent → Except PlannerFault Nat
  | .oneSourceLoop => .ok 1
  | .emptyTarget => .ok 2
  | .omitted => .error .panic

/-- The body of `try_from_persisted`. -/
def planContent (c : Codecs) (expectedTarget : Ref16) (canonicalBytes : Bytes) :
    PersistedPlanContentReader PlanContent := do
  let magic ← take planContentMagic.length
  check (rejectIf (magic.val ≠ planContentMagic) .invalidPersistedPlanContent)
  let version ← uint 2
  check (rejectIf (version ≠ planContentVersion) .invalidPersistedPlanContent)
  let tag ← uint 1
  let shape ← check (readShape tag)
  let target ← ref16
  check (rejectIf (target ≠ expectedTarget) .invalidPersistedPlanContent)
  let profileFingerprint ← digest
  let manifestDigest ← digest
  check (rejectIf (manifestDigest = 0) .invalidManifestDigest)
  let projectionLength ← uint 8
  let projection ← take projectionLength
  let fixtureDefinition ← ref16
  let fixtureImplementation ← ref16
  let fixtureExport ← ref16
  let fixtureDefinitionDigest ← digest
  let fixtureArtifactDigest ← digest
  let manifest ← check (okOr (c.verifyProjection projection.val manifestDigest) .invalidPersistedPlanContent)
  check (rejectIf (manifest.target ≠ expectedTarget ∨ profileFingerprint ≠ manifest.profileFingerprint
    ∨ fixtureDefinition ≠ manifest.fixtureDefinition ∨ fixtureImplementation ≠ manifest.fixtureImplementation
    ∨ fixtureExport ≠ manifest.fixtureExport ∨ fixtureDefinitionDigest ≠ manifest.fixtureDefinitionDigest
    ∨ fixtureArtifactDigest ≠ manifest.fixtureArtifactDigest) .invalidPersistedPlanContent)
  let loop ← optionalLoop manifest shape
  finish
  let _ ← SliceReader.lift (rebuiltTag shape)
  check (rejectIf (planContentBytes shape target profileFingerprint manifestDigest projection.val fixtureDefinition
    fixtureImplementation fixtureExport fixtureDefinitionDigest fixtureArtifactDigest loop ≠ canonicalBytes)
    .invalidPersistedPlanContent)
  pure { target := expectedTarget, shape, manifestDigest,
         stableAllocationSubject := loop.map fun f => (f.key, f.cardInstance, f.loopDomain),
         referenceLifecycle := loop.map (·.lifecycle), canonicalBytes }

end PersistedPlanContentReader

/-- `PlanContent::try_from_persisted`. -/
def PlanContent.restore (c : Codecs) (expectedTarget : Ref16) (canonicalBytes : Bytes) :
    Except PlannerFault PlanContent := do
  let (content, _) ← PersistedPlanContentReader.planContent c expectedTarget canonicalBytes (.start canonicalBytes)
  pure content

/-! ## The two readers -/

def PlannerFault.Benign (fault : PlannerFault) : Prop := ∃ e, fault = .error e

abbrev FollowsPlan {α : Type} (x : PersistedPlanContentReader α) (y : Reader PlannerError α) : Prop :=
  Follows u64Max PlannerFault.Benign x y

namespace PersistedPlanContentReader

theorem follows_check (x : Except PlannerError α) : FollowsPlan (check x) (Reader.lift x) := by
  refine follows_lift (fun a ha => ?_) fun e he => ?_
  · rw [ha]
    rfl
  · rw [he]
    exact ⟨_, rfl, e, rfl⟩

theorem follows_take (n : Nat) : FollowsPlan (take n) (Reader.take n short) := by
  refine Wire.follows_take (fun c hc h => ?_) fun c hc h => ?_
  · have hlimit := hc.length_le
    rw [take, if_neg (by omega), dif_pos h]
  · rw [take]
    by_cases hover : u64Max < c.offset + n
    · rw [if_pos hover]
      exact ⟨_, rfl, _, rfl⟩
    · rw [if_neg hover, dif_neg (by omega)]
      exact ⟨_, rfl, _, rfl⟩

theorem follows_uint (width : Nat) : FollowsPlan (uint width) (Fields.uint short width) :=
  follows_bind (follows_take width) fun _ => follows_pure _

theorem follows_ref16 : FollowsPlan ref16 (Fields.ref16 short) := follows_bind (follows_take 16) fun _ => follows_pure _

theorem follows_digest : FollowsPlan digest (Fields.digest short) := follows_bind (follows_take 32) fun _ => follows_pure _

theorem follows_u64 : FollowsPlan u64 (Fields.u64 short) := follows_bind (follows_uint 8) fun _ => follows_pure _

theorem finish_run {c : Cursor} (h : c.offset ≤ c.bytes.length) :
    finish c = if c.bytes.length - c.offset ≠ 0 then .error (.error .invalidPersistedPlanContent) else .ok ((), c) := by
  unfold finish
  rw [slice_bind_run, remaining, if_neg (by omega)]
  unfold check rejectIf
  by_cases hleft : c.bytes.length - c.offset ≠ 0
  · rw [if_pos hleft]
    dsimp only [Except.bind]
    rw [if_pos hleft]
    rfl
  · rw [if_neg hleft]
    dsimp only [Except.bind]
    rw [if_neg hleft]
    rfl

theorem follows_finish : FollowsPlan finish (Reader.finish .invalidPersistedPlanContent) := by
  refine Wire.follows_finish (fun c hc h => ?_) fun c hc h => ?_
  · rw [finish_run hc.offset_le, if_neg (by omega)]
  · rw [finish_run hc.offset_le, if_pos (by omega)]
    exact ⟨_, rfl, _, rfl⟩

theorem follows_loopFields (manifest : VerifiedRuntimeManifestIngressV1) :
    FollowsPlan (loopFields manifest) (readLoopFields manifest) := by
  refine follows_bind follows_digest fun _ => ?_
  refine follows_bind follows_ref16 fun _ => ?_
  refine follows_bind follows_ref16 fun _ => ?_
  refine follows_bind follows_ref16 fun _ => ?_
  refine follows_bind follows_u64 fun _ => ?_
  refine follows_bind follows_u64 fun _ => ?_
  refine follows_bind follows_u64 fun _ => ?_
  refine follows_bind (follows_check _) fun _ => ?_
  refine follows_bind (follows_check _) fun _ => ?_
  refine follows_bind follows_digest fun _ => ?_
  exact follows_bind (follows_check _) fun _ => follows_pure _

theorem follows_optionalLoop (manifest : VerifiedRuntimeManifestIngressV1) (shape : TargetIntent) :
    FollowsPlan (optionalLoop manifest shape) (readOptionalLoop manifest shape) := by
  cases shape with
  | oneSourceLoop => exact follows_bind (follows_loopFields manifest) fun _ => follows_pure _
  | emptyTarget => exact follows_pure _
  | omitted => exact follows_pure _

theorem rebuiltTag_total {tag : Nat} {shape : TargetIntent} (h : readShape tag = .ok shape) :
    ∃ n, rebuiltTag shape = .ok n := by
  unfold readShape at h
  split at h
  · cases h
    exact ⟨1, rfl⟩
  · cases h
    exact ⟨2, rfl⟩
  · cases h

theorem follows_planContent (c : Codecs) (target : Ref16) (bytes : Bytes) :
    FollowsPlan (planContent c target bytes) (PlanContent.read c target bytes) := by
  unfold planContent PlanContent.read
  refine follows_bind (follows_take _) fun magic => ?_
  refine follows_bind (follows_check _) fun _ => ?_
  refine follows_bind (follows_uint _) fun version => ?_
  refine follows_bind (follows_check _) fun _ => ?_
  refine follows_bind (follows_uint _) fun tag => ?_
  refine follows_bind_of_yields (follows_check _) (yields_lift fun _ hshape => hshape) fun shape hshape => ?_
  refine follows_bind follows_ref16 fun target => ?_
  refine follows_bind (follows_check _) fun _ => ?_
  refine follows_bind follows_digest fun profileFingerprint => ?_
  refine follows_bind follows_digest fun manifestDigest => ?_
  refine follows_bind (follows_check _) fun _ => ?_
  refine follows_bind (follows_uint _) fun projectionLength => ?_
  refine follows_bind (follows_take _) fun projection => ?_
  refine follows_bind follows_ref16 fun fixtureDefinition => ?_
  refine follows_bind follows_ref16 fun fixtureImplementation => ?_
  refine follows_bind follows_ref16 fun fixtureExport => ?_
  refine follows_bind follows_digest fun fixtureDefinitionDigest => ?_
  refine follows_bind follows_digest fun fixtureArtifactDigest => ?_
  refine follows_bind (follows_check _) fun manifest => ?_
  refine follows_bind (follows_check _) fun _ => ?_
  refine follows_bind (follows_optionalLoop _ _) fun loop => ?_
  refine follows_bind follows_finish fun _ => ?_
  obtain ⟨n, hn⟩ := rebuiltTag_total hshape
  rw [hn]
  refine follows_step ?_
  exact follows_bind (follows_check _) fun _ => follows_pure _

end PersistedPlanContentReader

/-- **The reader with an offset accepts what the plain reader accepts, and never panics.** -/
theorem PlanContent.restore_follows (c : Codecs) (target : Ref16) {bytes : Bytes} (h : bytes.length ≤ u64Max) :
    (∀ content, PlanContent.restore c target bytes = .ok content ↔ PlanContent.tryFromPersisted c target bytes = .ok content)
      ∧ PlanContent.restore c target bytes ≠ .error .panic := by
  have hfollows := PersistedPlanContentReader.follows_planContent c target bytes (.start bytes) (Cursor.inside_start h)
  have hrest : (Cursor.start bytes).rest = bytes := List.drop_zero
  rw [hrest] at hfollows
  unfold PlanContent.restore PlanContent.tryFromPersisted
  cases hread : PlanContent.read c target bytes bytes with
  | error e =>
    rw [hread] at hfollows
    obtain ⟨fault, hfault, e', rfl⟩ := hfollows
    rw [hfault]
    exact ⟨fun content => ⟨fun hok => by (cases hok), fun hok => by (cases hok)⟩, fun he => by cases he⟩
  | ok p =>
    obtain ⟨content, rest⟩ := p
    rw [hread] at hfollows
    obtain ⟨c', hok, _⟩ := hfollows
    rw [hok]
    exact ⟨fun content' => ⟨fun heq => Except.ok.inj heq ▸ rfl, fun heq => Except.ok.inj heq ▸ rfl⟩, fun he => by cases he⟩

/-! ## What the planner returns -/

def ProjectionDecodes (c : Codecs) (manifest : Option VerifiedRuntimeManifestIngressV1) : Prop :=
  ∀ m, manifest = some m → c.verifyProjection m.projectionCanonicalWire m.manifestDigest = some m

/-- **A planned content is rebuilt from its bytes, under the digest of its candidate.** -/
theorem plan_sealed {c : Codecs} {input : PlannerInput} {cand : DeploymentPlanCandidate}
    (hmanifest : ProjectionDecodes c input.manifest) (h : plan c.sha256 input = .ok (.candidate cand)) :
    cand.content.target = input.target ∧ cand.content.Sealed c ∧ cand.content.digest c.sha256 = .ok cand.contentDigest := by
  simp only [plan, bind_ok, wrapErr_ok, rejectIf_ok, exists_unit] at h
  obtain ⟨_, -, -, -, -, -, hdesired⟩ := h
  unfold planDesired at hdesired
  split at hdesired
  · cases hdesired
  · rename_i deckLock lifecycle configDigest hd
    simp only [bind_ok, plannedManifest, okOr_ok, rejectIf_ok, exists_unit, pure_ok, not_not] at hdesired
    obtain ⟨manifest, ⟨manifest', hsome, htarget, rfl⟩, cand', hplan, heq⟩ := hdesired
    cases heq
    simp only [planLoop, candidate, bind_ok, rejectIf_ok, exists_unit, pure_ok] at hplan
    obtain ⟨-, card, -, -, a, -, content, hcontent, digest, hdigest, rfl⟩ := hplan
    rw [← htarget] at hcontent ⊢
    have hsealed := buildLoopContent_sealed (hmanifest _ hsome) hcontent
    simp only [buildLoopContent, bind_ok, rejectIf_ok, exists_unit, pure_ok] at hcontent
    obtain ⟨_, -, -, -, -, rfl⟩ := hcontent
    exact ⟨rfl, hsealed, hdigest⟩
  · simp only [bind_ok, plannedManifest, okOr_ok, rejectIf_ok, exists_unit, pure_ok, not_not] at hdesired
    obtain ⟨manifest, ⟨manifest', hsome, htarget, rfl⟩, cand', hplan, heq⟩ := hdesired
    cases heq
    simp only [planEmpty, candidate, bind_ok, pure_ok] at hplan
    obtain ⟨_, -, content, hcontent, digest, hdigest, rfl⟩ := hplan
    rw [← htarget] at hcontent ⊢
    have hsealed := buildEmptyContent_sealed (hmanifest _ hsome) hcontent
    simp only [buildEmptyContent, bind_ok, rejectIf_ok, exists_unit, pure_ok] at hcontent
    obtain ⟨-, -, rfl⟩ := hcontent
    exact ⟨rfl, hsealed, hdigest⟩

theorem bind_reads_same {α β γ : Type} {r : Reader PlannerError α} {f : α → Reader PlannerError β}
    {g : α → Reader PlannerError γ} {bytes rest rest' : Bytes} {b : β} {b' : γ} (h : (r >>= f) bytes = .ok (b, rest))
    (h' : (r >>= g) bytes = .ok (b', rest')) : ∃ a mid, f a mid = .ok (b, rest) ∧ g a mid = .ok (b', rest') := by
  obtain ⟨a, mid, hr, hf⟩ := (bind_reads_ok ..).1 h
  obtain ⟨a', mid', hr', hg⟩ := (bind_reads_ok ..).1 h'
  cases hr.symm.trans hr'
  exact ⟨a, mid, hf, hg⟩

theorem tryFromPersisted_target {c : Codecs} {target target' : Ref16} {bytes : Bytes} {content content' : PlanContent}
    (h : PlanContent.tryFromPersisted c target bytes = .ok content)
    (h' : PlanContent.tryFromPersisted c target' bytes = .ok content') : target = target' := by
  simp only [PlanContent.tryFromPersisted, bind_ok, Prod.exists] at h h'
  obtain ⟨_, _, h, _⟩ := h
  obtain ⟨_, _, h', _⟩ := h'
  unfold PlanContent.read at h h'
  obtain ⟨magic, _, h, h'⟩ := bind_reads_same h h'
  obtain ⟨_, _, h, h'⟩ := bind_reads_same h h'
  obtain ⟨version, _, h, h'⟩ := bind_reads_same h h'
  obtain ⟨_, _, h, h'⟩ := bind_reads_same h h'
  obtain ⟨tag, _, h, h'⟩ := bind_reads_same h h'
  obtain ⟨shape, _, h, h'⟩ := bind_reads_same h h'
  obtain ⟨named, _, h, h'⟩ := bind_reads_same h h'
  obtain ⟨_, _, hcheck, _⟩ := (bind_reads_ok ..).1 h
  obtain ⟨_, _, hcheck', _⟩ := (bind_reads_ok ..).1 h'
  simp only [lift_reads_ok, rejectIf_ok, not_not] at hcheck hcheck'
  rw [← hcheck.1, hcheck'.1]

/-- **Plan content survives persistence.**  What the planner returns is restored, equal and under the same digest, from
its canonical bytes; what is restored has the bytes it came from; equal bytes are equal contents; and no bytes make the
reader panic. -/
theorem plan_content_persists (c : Codecs) :
    (∀ input cand, plan c.sha256 input = .ok (.candidate cand) → ProjectionDecodes c input.manifest →
        cand.content.canonicalBytes.length ≤ u64Max →
          PlanContent.restore c input.target cand.content.canonicalBytes = .ok cand.content
            ∧ cand.content.digest c.sha256 = .ok cand.contentDigest)
      ∧ (∀ target bytes content, bytes.length ≤ u64Max → PlanContent.restore c target bytes = .ok content →
          content.canonicalBytes = bytes)
      ∧ (∀ input input' cand cand', plan c.sha256 input = .ok (.candidate cand) →
          plan c.sha256 input' = .ok (.candidate cand') → ProjectionDecodes c input.manifest →
            ProjectionDecodes c input'.manifest → cand.content.canonicalBytes = cand'.content.canonicalBytes →
              cand.content = cand'.content)
      ∧ ∀ target bytes, bytes.length ≤ u64Max → PlanContent.restore c target bytes ≠ .error .panic := by
  refine ⟨fun input cand hplan hmanifest hlength => ?_, fun target bytes content hlength hrestore => ?_,
    fun input input' cand cand' hplan hplan' hmanifest hmanifest' heq => ?_, fun target bytes hlength => ?_⟩
  · obtain ⟨htarget, hsealed, hdigest⟩ := plan_sealed hmanifest hplan
    rw [← htarget]
    exact ⟨((PlanContent.restore_follows c _ hlength).1 _).2 hsealed, hdigest⟩
  · exact (PlanContent.tryFromPersisted_ok (((PlanContent.restore_follows c target hlength).1 content).1 hrestore)).2
  · obtain ⟨_, hsealed, _⟩ := plan_sealed hmanifest hplan
    obtain ⟨_, hsealed', _⟩ := plan_sealed hmanifest' hplan'
    unfold PlanContent.Sealed at hsealed hsealed'
    rw [← heq] at hsealed'
    have htarget := tryFromPersisted_target hsealed hsealed'
    rw [← htarget, hsealed] at hsealed'
    exact Except.ok.inj hsealed'
  · exact (PlanContent.restore_follows c target hlength).2

def soleCodecs : Codecs where
  sha256 := mixingHash
  decodeApplyRequest _ := .error (.contract .invalidLifecycleBudget)
  decodeTerminalReceipt _ := .error (.contract .invalidLifecycleBudget)
  decodeBootstrapResponse _ := .error (.contract .invalidLifecycleBudget)
  decodeQueryRequest _ := .error (.contract .invalidLifecycleBudget)
  decodeQueryResponse _ := .error (.contract .invalidLifecycleBudget)
  verifyManifest _ digest := if digest = soleManifest.manifestDigest then some soleManifest else none
  verifyProjection _ digest := if digest = soleManifest.manifestDigest then some soleManifest else none

def plannedBytes : Except PlannerFault PlannerOutcome → Bytes
  | .ok (.candidate cand) => cand.content.canonicalBytes
  | _ => []

theorem plan_content_persists_sole : ∃ cand, plan mixingHash soleInput = .ok (.candidate cand)
    ∧ PlanContent.restore soleCodecs (.ofNat 1) cand.content.canonicalBytes = .ok cand.content := by
  have hsome : plannedBytes (plan mixingHash soleInput) ≠ [] := by decide +kernel
  have hlength : (plannedBytes (plan mixingHash soleInput)).length ≤ u64Max := by decide +kernel
  cases hplan : plan mixingHash soleInput with
  | error fault =>
    rw [hplan] at hsome
    exact absurd rfl hsome
  | ok outcome =>
    rw [hplan] at hsome hlength
    cases outcome with
    | omitted => exact absurd rfl hsome
    | candidate cand =>
      refine ⟨cand, rfl, ?_⟩
      exact ((plan_content_persists soleCodecs).1 soleInput cand hplan
        (fun m hm => by cases hm; rfl) hlength).1

end Controller
end ParaEgox
