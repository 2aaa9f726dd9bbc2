import RosMcp.Contracts.Core

/-!
# The capability registry (`capabilities/registry.py`)

`update` replaces the entries, and counts the version up, when they are not the ones that are held.
-/

namespace RosMcp

deriving instance DecidableEq for CapabilityEntry

/-- `InMemoryCapabilityRegistry`, without its callbacks. -/
structure CapabilityRegistry (N : Type) where
  entries : List (CapabilityEntry N)
  version : Nat

/-- A registry that has just been constructed. -/
def CapabilityRegistry.initial {N : Type} : CapabilityRegistry N := ⟨[], 0⟩

/-- `InMemoryCapabilityRegistry.update`: the registry that it leaves behind. -/
def CapabilityRegistry.update {N : Type} [DecidableEq N] (registry : CapabilityRegistry N)
    (entries : List (CapabilityEntry N)) : CapabilityRegistry N :=
  if entries ≠ registry.entries then ⟨entries, registry.version + 1⟩ else registry

section Update

variable {N : Type} [DecidableEq N] (registry : CapabilityRegistry N) (entries : List (CapabilityEntry N))

/-- The registry holds what it was given last. -/
@[simp] theorem CapabilityRegistry.update_entries : (registry.update entries).entries = entries := by
  unfold CapabilityRegistry.update
  split
  · rfl
  · next h => exact (not_not.1 h).symm

/-- The version counts the updates that change something. -/
theorem CapabilityRegistry.update_version :
    (registry.update entries).version = registry.version + if entries ≠ registry.entries then 1 else 0 := by
  unfold CapabilityRegistry.update
  split <;> rfl

end Update

end RosMcp
