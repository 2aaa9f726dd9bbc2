import RosMcp.Contracts.Core

/-!
# The command planner (`execution/planner.py`)

`selectBackend` maps an operation to a configured backend, or to `none` when the capability registry does not hold
the capability with enough confidence.  A NAVIGATE never falls back to the motion backend.
-/

namespace RosMcp

variable {N : Type}

inductive Backend
  | motion | navigation
  deriving DecidableEq, Repr

/-- The backends that the planner was constructed with; `is_available()` of the navigation backend is its current
answer. -/
structure PlannerBackends where
  motion : Bool
  navigation : Bool
  navigationAvailable : Bool

/-- `entry is None or entry.confidence == Confidence.AMBIGUOUS` -/
def missingOrAmbiguous (entry : Option (CapabilityEntry N)) : Bool :=
  match entry with
  | none => true
  | some e => e.confidence == .ambiguous

/-- `DefaultCommandPlanner.select_backend` -/
def selectBackend (backends : PlannerBackends) (operation : Operation) (registry : List (CapabilityEntry N)) :
    Option Backend :=
  if operation = .move ∨ operation = .stop then
    if missingOrAmbiguous (registryGet registry "differential_drive_motion") then none
    else if backends.motion then some .motion else none
  else if operation = .navigate then
    if missingOrAmbiguous (registryGet registry "autonomous_navigation") then none
    else if (registryGet registry "localization").isNone then none
    else if backends.navigation = false ∨ backends.navigationAvailable = false then none
    else some .navigation
  else none

end RosMcp
