import CrazySwarm.SupervisorLeaseRuns

/-! What a caller that cleans up relies on: no operation of a disarm or a disconnection raises a
cancellation that was not asked of it, a disarm does not put a vehicle in the air, a release of
a vehicle on the ground clears its lease at once, and only a claim grants one. -/
namespace CrazySwarm
open PyFloat PyMath

variable {F : Type}

variable [PyMath F]

namespace SafetySupervisor
open Coroutine EventLoop

variable {clock : MonotonicClock F} {a b d s : SafetySupervisor F} {ref : Nat}
  {vehicleId ownerId : String} {origin : CommandOrigin} {allowExpired : Bool}
  {may : Awaited F → Prop}

section Leases

variable {leaving : String → Prop} {granting : String → String → Prop}

section Meets

variable {φ : Type} {waits : φ → Awaited F → SafetySupervisor F → Prop}
  {ready : (on : Awaited F) → SafetySupervisor F → Reply on → SafetySupervisor F → φ → Prop}
  {first : φ}

theorem meets_session {post : φ → Except (Raised F) Nat → SafetySupervisor F → Prop}
    (found : ∀ ref, s.sessions.get? vehicleId = some ref → post first (.ok ref) s)
    (missing : ∀ raised, s.sessions.get? vehicleId = none → post first (.error raised) s) :
    (session vehicleId).Meets waits ready post first s := by
  refine meets_bind.mpr (meets_get.mpr ?_)
  dsimp only
  split
  · next ref registered => exact found ref registered
  · next absent => exact missing _ absent

theorem meets_load {post : φ → Except (Raised F) (VehicleSession F) → SafetySupervisor F → Prop}
    (found : ∀ session, s.heap[ref]? = some session → post first (.ok session) s)
    (missing : ∀ raised, s.heap[ref]? = none → post first (.error raised) s) :
    (load ref).Meets waits ready post first s := by
  refine meets_bind.mpr (meets_get.mpr ?_)
  dsimp only
  split
  · next session object => exact found session object
  · next absent => exact missing _ absent

theorem meets_failUnless {condition : Bool} {code : ErrorCode} {message : String}
    {post : φ → Except (Raised F) Unit → SafetySupervisor F → Prop}
    (passes : condition = true → post first (.ok ()) s)
    (fails : ∀ raised, post first (.error raised) s) :
    (failUnless condition code message).Meets waits ready post first s := by
  cases condition with
  | true => exact passes rfl
  | false => exact fails _

end Meets

end Leases

end SafetySupervisor

end CrazySwarm
