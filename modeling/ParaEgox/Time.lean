import ParaEgox.Digest

/-!
# Time — owner-local monotonic deadlines

A deadline is comparable only with a reading of its own clock domain and generation.
-/
namespace ParaEgox

open Check

inductive TimeError
  | invalidClockGeneration
  | deadlineOverflow
  | clockDomainMismatch
  | clockGenerationMismatch
  deriving DecidableEq

structure ClockReading where
  domain : Ref16
  generation : U64
  now : U64

structure MonotonicDeadline where
  domain : Ref16
  generation : U64
  deadline : U64
  deriving DecidableEq

/-- `ClockReading::try_deadline_after`: arithmetic overflow is rejected instead of wrapping. -/
def ClockReading.tryDeadlineAfter (reading : ClockReading) (duration : U64) : Except TimeError MonotonicDeadline := do
  rejectIf (u64Max < reading.now + duration) .deadlineOverflow
  pure ⟨reading.domain, reading.generation, reading.now + duration⟩

namespace MonotonicDeadline

def ensureCompatible (d : MonotonicDeadline) (reading : ClockReading) : Except TimeError Unit := do
  rejectIf (reading.domain ≠ d.domain) .clockDomainMismatch
  rejectIf (reading.generation ≠ d.generation) .clockGenerationMismatch

/-- `is_expired_at`: the reading has reached the deadline. -/
def isExpiredAt (d : MonotonicDeadline) (reading : ClockReading) : Except TimeError Bool := do
  d.ensureCompatible reading
  pure (d.deadline ≤ reading.now)

theorem isExpiredAt_ok (d : MonotonicDeadline) (reading : ClockReading) (expired : Bool) :
    d.isExpiredAt reading = .ok expired ↔ reading.domain = d.domain ∧ reading.generation = d.generation
      ∧ decide (d.deadline ≤ reading.now) = expired := by
  simp only [isExpiredAt, ensureCompatible, bind_ok, rejectIf_ok, exists_unit, pure_ok, ne_eq, not_not, and_assoc]

end MonotonicDeadline
end ParaEgox
