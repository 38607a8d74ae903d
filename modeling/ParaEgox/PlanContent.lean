import ParaEgox.Fields
import ParaEgox.Planner

/-!
# PlanContent — the digest-covered content of a plan, and its restart from bytes

The Planner writes the content of a plan in one canonical layout.  A restarted Controller rebuilds the content from those bytes
alone; it parses every field, verifies the manifest projection inside, and demands that its own layout of what it parsed is the
bytes it was given.
-/
namespace ParaEgox
namespace Controller

open Check Wire

/-- `PersistedPlanContentReader` and its caller fail with this on every field that is not there. -/
abbrev short : PlannerError := .invalidPersistedPlanContent

inductive TargetIntent
  | oneSourceLoop
  | emptyTarget
  | omitted
  deriving DecidableEq

/-- `ValidatedReferenceLifecycleBudgetsV1`, in nanoseconds. -/
structure LifecycleBudgets where
  start : UInt64
  drain : UInt64
  cleanup : UInt64

def maxReferenceLifecycleBudgetNanos : UInt64 := 86400000000000

def validLifecycleBudget (value : UInt64) : Bool := 0 < value ∧ value ≤ maxReferenceLifecycleBudgetNanos

def LifecycleBudgets.tryNew (start drain cleanup : UInt64) : Except ReferenceControlError LifecycleBudgets := do
  rejectIf (¬ (validLifecycleBudget start ∧ validLifecycleBudget drain ∧ validLifecycleBudget cleanup))
    (.contract .invalidLifecycleBudget)
  pure ⟨start, drain, cleanup⟩

structure PlanContent where
  target : Ref16
  shape : TargetIntent
  manifestDigest : Digest32
  stableAllocationSubject : Option (Ref16 × Ref16 × Ref16)
  referenceLifecycle : Option LifecycleBudgets
  canonicalBytes : Bytes

/-- The fields only a loop has: its deck lock, its allocation, its budgets and its configuration. -/
structure LoopFields where
  deckLockDigest : Digest32
  key : Ref16
  cardInstance : Ref16
  loopDomain : Ref16
  lifecycle : LifecycleBudgets
  configDigest : Digest32

def planContentMagic : Bytes :=
  Text.bytes (s := "ParaEGOX") ⟨_, spells_paraEGOX⟩ ++ [0]
    ++ Text.bytes (s := "deployment-plan-content") ⟨_, by conv => rhs; simp [ascii]⟩

def planContentVersion : Nat := 1

def TargetIntent.tag : TargetIntent → Nat
  | .oneSourceLoop => 1
  | .emptyTarget => 2
  | .omitted => 0

def LoopFields.fields (loop : LoopFields) : List Bytes :=
  [loop.deckLockDigest.asBytes, loop.key.asBytes, loop.cardInstance.asBytes, loop.loopDomain.asBytes,
    bytesBE 8 loop.lifecycle.start.toNat, bytesBE 8 loop.lifecycle.drain.toNat, bytesBE 8 loop.lifecycle.cleanup.toNat,
    loop.configDigest.asBytes]

def planContentBytes (shape : TargetIntent) (target : Ref16) (profileFingerprint manifestDigest : Digest32)
    (projection : Bytes) (fixtureDefinition fixtureImplementation fixtureExport : Ref16)
    (fixtureDefinitionDigest fixtureArtifactDigest : Digest32) (loop : Option LoopFields) : Bytes :=
  [planContentMagic, bytesBE 2 planContentVersion, bytesBE 1 shape.tag, target.asBytes, profileFingerprint.asBytes,
    manifestDigest.asBytes, bytesBE 8 projection.length, projection, fixtureDefinition.asBytes,
    fixtureImplementation.asBytes, fixtureExport.asBytes, fixtureDefinitionDigest.asBytes,
    fixtureArtifactDigest.asBytes, (loop.elim [] LoopFields.fields).flatten].flatten

/-! ## Built by the Planner -/

/-- What a loop content is built from beside the manifest: the deck lock, the allocation and the requested budgets. -/
structure LoopFacts where
  deckLockDigest : Digest32
  key : Ref16
  cardInstance : Ref16
  loopDomain : Ref16
  start : UInt64
  drain : UInt64
  cleanup : UInt64

/-- `build_content` of a loop, whose configuration digest the Planner has compared with the manifest's. -/
def buildLoopContent (target : Ref16) (manifest : VerifiedRuntimeManifestIngressV1) (facts : LoopFacts) :
    Except PlannerError PlanContent := do
  let lifecycle ← mapErr (LifecycleBudgets.tryNew facts.start facts.drain facts.cleanup) .invalidLifecycleBudget
  rejectIf (2 ^ 64 ≤ manifest.projectionCanonicalWire.length) .canonicalLengthOverflow
  let loop : LoopFields := { facts with lifecycle, configDigest := manifest.canonicalEmptyConfigDigest }
  let canonicalBytes := planContentBytes .oneSourceLoop target manifest.profileFingerprint manifest.manifestDigest
    manifest.projectionCanonicalWire manifest.fixtureDefinition manifest.fixtureImplementation manifest.fixtureExport
    manifest.fixtureDefinitionDigest manifest.fixtureArtifactDigest (some loop)
  rejectIf (facts.start = 0 ∨ facts.drain = 0 ∨ facts.cleanup = 0) .invalidLifecycleBudget
  rejectIf (manifest.manifestDigest = 0) .invalidManifestDigest
  pure { target, shape := .oneSourceLoop, manifestDigest := manifest.manifestDigest,
         stableAllocationSubject := some (facts.key, facts.cardInstance, facts.loopDomain),
         referenceLifecycle := some lifecycle, canonicalBytes }

/-- `build_content` of an empty target. -/
def buildEmptyContent (target : Ref16) (manifest : VerifiedRuntimeManifestIngressV1) : Except PlannerError PlanContent := do
  rejectIf (2 ^ 64 ≤ manifest.projectionCanonicalWire.length) .canonicalLengthOverflow
  let canonicalBytes := planContentBytes .emptyTarget target manifest.profileFingerprint manifest.manifestDigest
    manifest.projectionCanonicalWire manifest.fixtureDefinition manifest.fixtureImplementation manifest.fixtureExport
    manifest.fixtureDefinitionDigest manifest.fixtureArtifactDigest none
  rejectIf (manifest.manifestDigest = 0) .invalidManifestDigest
  pure { target, shape := .emptyTarget, manifestDigest := manifest.manifestDigest, stableAllocationSubject := none,
         referenceLifecycle := none, canonicalBytes }

/-! ## Rebuilt from bytes -/

def readLoopFields (manifest : VerifiedRuntimeManifestIngressV1) : Reader PlannerError LoopFields := do
  let deckLockDigest ← Fields.digest short
  let key ← Fields.ref16 short
  let cardInstance ← Fields.ref16 short
  let loopDomain ← Fields.ref16 short
  let start ← Fields.u64 short
  let drain ← Fields.u64 short
  let cleanup ← Fields.u64 short
  Reader.lift (rejectIf (start = 0 ∨ drain = 0 ∨ cleanup = 0) .invalidPersistedPlanContent)
  let lifecycle ← Reader.lift (mapErr (LifecycleBudgets.tryNew start drain cleanup) .invalidPersistedPlanContent)
  let configDigest ← Fields.digest short
  Reader.lift (rejectIf (configDigest ≠ manifest.canonicalEmptyConfigDigest) .invalidPersistedPlanContent)
  pure { deckLockDigest, key, cardInstance, loopDomain, lifecycle, configDigest }

def readShape (tag : Nat) : Except PlannerError TargetIntent := match tag with
  | 1 => .ok .oneSourceLoop
  | 2 => .ok .emptyTarget
  | _ => .error .invalidPersistedPlanContent

def readOptionalLoop (manifest : VerifiedRuntimeManifestIngressV1) : TargetIntent → Reader PlannerError (Option LoopFields)
  | .oneSourceLoop => do
    let loop ← readLoopFields manifest
    pure (some loop)
  | _ => pure none

/-- A projection whose length does not fit the cursor is out of range like any other. -/
def PlanContent.read (c : Codecs) (expectedTarget : Ref16) (canonicalBytes : Bytes) : Reader PlannerError PlanContent := do
  let magic ← Reader.take planContentMagic.length short
  Reader.lift (rejectIf (magic.val ≠ planContentMagic) .invalidPersistedPlanContent)
  let version ← Fields.uint short 2
  Reader.lift (rejectIf (version ≠ planContentVersion) .invalidPersistedPlanContent)
  let tag ← Fields.uint short 1
  let shape ← Reader.lift (readShape tag)
  let target ← Fields.ref16 short
  Reader.lift (rejectIf (target ≠ expectedTarget) .invalidPersistedPlanContent)
  let profileFingerprint ← Fields.digest short
  let manifestDigest ← Fields.digest short
  Reader.lift (rejectIf (manifestDigest = 0) .invalidManifestDigest)
  let projectionLength ← Fields.uint short 8
  let projection ← Reader.take projectionLength short
  let fixtureDefinition ← Fields.ref16 short
  let fixtureImplementation ← Fields.ref16 short
  let fixtureExport ← Fields.ref16 short
  let fixtureDefinitionDigest ← Fields.digest short
  let fixtureArtifactDigest ← Fields.digest short
  let manifest ← Reader.lift (okOr (c.verifyProjection projection.val manifestDigest) .invalidPersistedPlanContent)
  Reader.lift (rejectIf (manifest.target ≠ expectedTarget ∨ profileFingerprint ≠ manifest.profileFingerprint
    ∨ fixtureDefinition ≠ manifest.fixtureDefinition ∨ fixtureImplementation ≠ manifest.fixtureImplementation
    ∨ fixtureExport ≠ manifest.fixtureExport ∨ fixtureDefinitionDigest ≠ manifest.fixtureDefinitionDigest
    ∨ fixtureArtifactDigest ≠ manifest.fixtureArtifactDigest) .invalidPersistedPlanContent)
  let loop ← readOptionalLoop manifest shape
  Reader.finish .invalidPersistedPlanContent
  Reader.lift (rejectIf (planContentBytes shape target profileFingerprint manifestDigest projection.val fixtureDefinition
    fixtureImplementation fixtureExport fixtureDefinitionDigest fixtureArtifactDigest loop ≠ canonicalBytes)
    .invalidPersistedPlanContent)
  pure { target := expectedTarget, shape, manifestDigest,
         stableAllocationSubject := loop.map fun f => (f.key, f.cardInstance, f.loopDomain),
         referenceLifecycle := loop.map (·.lifecycle), canonicalBytes }

def PlanContent.tryFromPersisted (c : Codecs) (expectedTarget : Ref16) (canonicalBytes : Bytes) :
    Except PlannerError PlanContent := do
  let (content, _) ← PlanContent.read c expectedTarget canonicalBytes canonicalBytes
  pure content

def planContentDigestDomain : Bytes :=
  Text.bytes (s := "paraegox.deployment.plan-content.sha256.v1") ⟨_, by conv => rhs; simp [ascii]⟩

/-- `PlanContentDigest::try_for_content`. -/
def PlanContent.digest (sha256 : Sha256) (content : PlanContent) : Except PlannerError Digest32 :=
  wrapErr .digest (digest32 sha256 planContentDigestDomain [content.canonicalBytes])

inductive PlannerDiagnostic
  | freshStableAllocation
  | reusedStableAllocation
  | stableAllocationTombstoned

structure DeploymentPlanCandidate where
  content : PlanContent
  allocationDelta : StableAllocationDelta
  diagnostics : List PlannerDiagnostic
  contentDigest : Digest32

/-! ## What is rebuilt -/

def PlanContent.Sealed (c : Codecs) (content : PlanContent) : Prop :=
  PlanContent.tryFromPersisted c content.target content.canonicalBytes = .ok content

variable {c : Codecs} {content : PlanContent} {manifest : VerifiedRuntimeManifestIngressV1}

theorem PlanContent.tryFromPersisted_ok {target : Ref16} {bytes : Bytes}
    (h : PlanContent.tryFromPersisted c target bytes = .ok content) :
    content.target = target ∧ content.canonicalBytes = bytes := by
  unfold PlanContent.tryFromPersisted at h
  obtain ⟨⟨content', rest⟩, hread, hcontent⟩ := bind_ok.1 h
  obtain rfl := pure_ok.1 hcontent
  have hyields : Yields (PlanContent.read c target bytes) fun content =>
      content.target = target ∧ content.canonicalBytes = bytes := by
    unfold PlanContent.read
    iterate 23 refine yields_skip fun _ => ?_
    exact yields_pure ⟨rfl, rfl⟩
  exact hyields _ _ _ hread

theorem reads_loopFields {loop : LoopFields}
    (hlifecycle : LifecycleBudgets.tryNew loop.lifecycle.start loop.lifecycle.drain loop.lifecycle.cleanup =
      .ok loop.lifecycle)
    (hconfig : loop.configDigest = manifest.canonicalEmptyConfigDigest) :
    Reads (readLoopFields manifest) loop.fields.flatten loop := by
  have hzero : ¬ (loop.lifecycle.start = 0 ∨ loop.lifecycle.drain = 0 ∨ loop.lifecycle.cleanup = 0) := by
    simp only [LifecycleBudgets.tryNew, bind_ok, rejectIf_ok, exists_unit, not_not] at hlifecycle
    obtain ⟨⟨h1, h2, h3⟩, -⟩ := hlifecycle
    rintro (h | h | h)
    · rw [h] at h1
      exact absurd h1 (by decide)
    · rw [h] at h2
      exact absurd h2 (by decide)
    · rw [h] at h3
      exact absurd h3 (by decide)
  exact reads_field (Fields.reads_digest _ _) <| reads_field (Fields.reads_ref16 _ _) <|
    reads_field (Fields.reads_ref16 _ _) <| reads_field (Fields.reads_ref16 _ _) <|
    reads_field (Fields.reads_u64 _ _) <| reads_field (Fields.reads_u64 _ _) <| reads_field (Fields.reads_u64 _ _) <|
    reads_check (rejectIf_neg hzero) <| reads_check (mapErr_ok.2 hlifecycle) <|
    reads_field (Fields.reads_digest _ _) <| reads_check (rejectIf_neg (not_not.2 hconfig)) <| reads_done loop

/-- **The canonical layout is read back**: what the manifest verifies is what was written. -/
theorem read_planContentBytes {target : Ref16}
    {shape : TargetIntent} {loop : Option LoopFields} (hshape : readShape shape.tag = .ok shape) (hsmall : shape.tag < 256 ^ 1)
    (hloop : Reads (readOptionalLoop manifest shape) (loop.elim [] LoopFields.fields).flatten loop)
    (htarget : manifest.target = target) (hdigest : manifest.manifestDigest ≠ 0)
    (hlength : manifest.projectionCanonicalWire.length < 256 ^ 8)
    (hprojection : c.verifyProjection manifest.projectionCanonicalWire manifest.manifestDigest = some manifest)
    {bytes : Bytes} (hbytes : bytes = planContentBytes shape target manifest.profileFingerprint manifest.manifestDigest
      manifest.projectionCanonicalWire manifest.fixtureDefinition manifest.fixtureImplementation manifest.fixtureExport
      manifest.fixtureDefinitionDigest manifest.fixtureArtifactDigest loop) :
    PlanContent.tryFromPersisted c target bytes = .ok
      { target, shape, manifestDigest := manifest.manifestDigest,
        stableAllocationSubject := loop.map fun f => (f.key, f.cardInstance, f.loopDomain),
        referenceLifecycle := loop.map (·.lifecycle), canonicalBytes := bytes } := by
  have hsame : ¬ (manifest.target ≠ target ∨ manifest.profileFingerprint ≠ manifest.profileFingerprint
      ∨ manifest.fixtureDefinition ≠ manifest.fixtureDefinition
      ∨ manifest.fixtureImplementation ≠ manifest.fixtureImplementation
      ∨ manifest.fixtureExport ≠ manifest.fixtureExport
      ∨ manifest.fixtureDefinitionDigest ≠ manifest.fixtureDefinitionDigest
      ∨ manifest.fixtureArtifactDigest ≠ manifest.fixtureArtifactDigest) := by simp [htarget]
  refine ok_bind (a := (_, [])) (show Consumes (PlanContent.read c target bytes) bytes _ from ?_) rfl
  nth_rewrite 2 [hbytes]
  exact consumes_field (reads_take planContentMagic _) <| consumes_check (rejectIf_neg (not_not.2 rfl)) <|
      consumes_field (Fields.reads_uint _ (by decide)) <| consumes_check (rejectIf_neg (not_not.2 rfl)) <|
      consumes_field (Fields.reads_uint _ hsmall) <| consumes_check hshape <|
      consumes_field (Fields.reads_ref16 _ _) <| consumes_check (rejectIf_neg (not_not.2 rfl)) <|
      consumes_field (Fields.reads_digest _ _) <| consumes_field (Fields.reads_digest _ _) <|
      consumes_check (rejectIf_neg hdigest) <| consumes_field (Fields.reads_uint _ hlength) <|
      consumes_field (reads_take _ _) <| consumes_field (Fields.reads_ref16 _ _) <|
      consumes_field (Fields.reads_ref16 _ _) <| consumes_field (Fields.reads_ref16 _ _) <|
      consumes_field (Fields.reads_digest _ _) <| consumes_field (Fields.reads_digest _ _) <|
      consumes_check (okOr_ok.2 hprojection) <| consumes_check (rejectIf_neg hsame) <|
      consumes_field hloop <| consumes_end _ <| consumes_check (rejectIf_neg (not_not.2 hbytes.symm)) rfl

theorem buildLoopContent_sealed {facts : LoopFacts}
    (hprojection : c.verifyProjection manifest.projectionCanonicalWire manifest.manifestDigest = some manifest)
    (hcontent : buildLoopContent manifest.target manifest facts = .ok content) : content.Sealed c := by
  simp only [buildLoopContent, bind_ok, mapErr_ok, rejectIf_ok, exists_unit, pure_ok, not_le] at hcontent
  obtain ⟨lifecycle, hlifecycle, hlength, -, hnonzero, rfl⟩ := hcontent
  have hbudgets : lifecycle = ⟨facts.start, facts.drain, facts.cleanup⟩ := by
    simp only [LifecycleBudgets.tryNew, bind_ok, rejectIf_ok, exists_unit, pure_ok] at hlifecycle
    exact hlifecycle.2.symm
  subst hbudgets
  have hloop : Reads (readOptionalLoop manifest .oneSourceLoop) (Option.elim (some (LoopFields.mk facts.deckLockDigest
      facts.key facts.cardInstance facts.loopDomain ⟨facts.start, facts.drain, facts.cleanup⟩
      manifest.canonicalEmptyConfigDigest)) [] LoopFields.fields).flatten (some _) :=
    reads_map some (reads_loopFields hlifecycle rfl)
  exact read_planContentBytes rfl (by decide) hloop rfl hnonzero (lt_of_lt_of_eq hlength (by decide)) hprojection rfl

theorem buildEmptyContent_sealed
    (hprojection : c.verifyProjection manifest.projectionCanonicalWire manifest.manifestDigest = some manifest)
    (hcontent : buildEmptyContent manifest.target manifest = .ok content) : content.Sealed c := by
  simp only [buildEmptyContent, bind_ok, rejectIf_ok, exists_unit, pure_ok, not_le] at hcontent
  obtain ⟨hlength, hnonzero, rfl⟩ := hcontent
  have hloop : Reads (readOptionalLoop manifest .emptyTarget) (Option.elim none [] LoopFields.fields).flatten none :=
    reads_pure none
  exact read_planContentBytes rfl (by decide) hloop rfl hnonzero (lt_of_lt_of_eq hlength (by decide)) hprojection rfl

end Controller
end ParaEgox
