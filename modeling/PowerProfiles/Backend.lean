import PowerProfiles.Profile

/-!
# Drivers and actions as the core sees them

A bound profile driver is its name, the profiles it implements and its
`performance-degraded` reason (`PpdDriverPrivate` in `ppd-driver.c`). The outcome of
its `activate_profile` is supplied by the run's environment, so the core is verified
for every driver behaviour. Actions are side-effect subscribers; of their internals the
core reads one, the `last_profile` of `ppd-action-amdgpu-dpm.c`, which its hot-plug handler
turns into a target.
-/

namespace PowerProfiles

/-- The slot a driver fills: a `PpdDriverCpu` or a `PpdDriverPlatform`. -/
inductive DriverKind
  | cpu
  | platform
  deriving DecidableEq, Repr

/-- A profile driver (`PpdDriverPrivate`): the properties the core reads. -/
structure PpdDriver where
  /-- The construct-only `driver-name` property. -/
  driverName : String
  /-- The construct-only `profiles` bitmask. -/
  profiles : ProfileMask
  /-- The `performance-degraded` property; `ppd_driver_set_property` stores an empty
  string as `NULL`. -/
  performanceDegraded : Option String
  deriving DecidableEq, Repr

/-- `driver_profile_support`: a driver is bound and its mask meets `profile`. -/
def driverProfileSupport : Option PpdDriver → ProfileMask → Bool
  | none, _ => false
  | some driver, profile => driver.profiles.meets profile

@[simp] theorem driverProfileSupport_none (m : ProfileMask) :
    driverProfileSupport none m = false := rfl

@[simp] theorem driverProfileSupport_some (d : PpdDriver) (m : ProfileMask) :
    driverProfileSupport (some d) m = d.profiles.meets m := rfl

/-- `ppd_driver_get_driver_name` on a slot; `NULL` for an empty one. -/
def driverNameOf : Option PpdDriver → Option String
  | none => none
  | some driver => some driver.driverName

/-- The value `g_object_set` gives `performance-degraded` (`ppd_driver_set_property`). -/
def normalizeDegraded (degraded : String) : Option String :=
  if degraded = "" then none else some degraded

/-- An action back-end. `ppd-action-amdgpu-dpm.c` keeps the last profile it was
activated with; the other actions' state is not read by anything modelled. -/
inductive PpdAction
  | amdgpuDpm (lastProfile : PpdProfile)
  | other (actionName : String)
  deriving DecidableEq, Repr

/-- `ppd_action_get_action_name`. -/
def PpdAction.actionName : PpdAction → String
  | .amdgpuDpm _ => "amdgpu_dpm"
  | .other name => name

/-- Modelled from the spec: `ppd_action_activate_profile` of `ppd-action.c` (not among the
sources) dispatches to the action's `activate_profile`;
`ppd_action_amdgpu_dpm_activate_profile` stores the profile before touching devices. -/
def PpdAction.activateProfile : PpdAction → PpdProfile → PpdAction
  | .amdgpuDpm _, profile => .amdgpuDpm profile
  | .other name, _ => .other name

@[simp] theorem PpdAction.actionName_activateProfile (a : PpdAction) (p : PpdProfile) :
    (a.activateProfile p).actionName = a.actionName := by
  cases a <;> rfl

/-- An activated `amdgpu_dpm` action holds the profile it was told. -/
theorem PpdAction.eq_of_activateProfile {a : PpdAction} {p q : PpdProfile}
    (h : a.activateProfile q = .amdgpuDpm p) : p = q := by
  cases a <;> simp_all [PpdAction.activateProfile]

/-- The `switch` of `ppd_action_amdgpu_dpm_update_target`: the value written to
`power_dpm_force_performance_level`; `none` is its `g_assert_not_reached` branch. -/
def ppdActionAmdgpuDpmUpdateTarget : PpdProfile → Option String
  | .powerSaver => some "low"
  | .balanced => some "auto"
  | .performance => some "auto"
  | .unset => none

/-- The driver of `ppd-driver-intel-pstate.c`: `intel_pstate`, with all three profiles. -/
def ppdDriverIntelPstate : PpdDriver := ⟨"intel_pstate", ppdProfileAll, none⟩

/-- The driver of `ppd-driver-amd-pstate.c`: `amd_pstate`, with all three profiles. -/
def ppdDriverAmdPstate : PpdDriver := ⟨"amd_pstate", ppdProfileAll, none⟩

/-- A new `amdgpu_dpm` action: GObject zeroes `last_profile`, which is `PPD_PROFILE_UNSET`. -/
def ppdActionAmdgpuDpm : PpdAction := .amdgpuDpm .unset

/-- The action of `ppd-action-amdgpu-panel-power.c`: `amdgpu_panel_power`, whose state the
daemon's core does not read. -/
def ppdActionAmdgpuPanelPower : PpdAction := .other "amdgpu_panel_power"

/-- One entry of the `objects` array after `g_object_new`, with what its `probe ()` returns
on this machine. -/
inductive Backend
  | driver (kind : DriverKind) (driver : PpdDriver) (probe : PpdProbeResult)
  | action (action : PpdAction) (probe : PpdProbeResult)
  deriving DecidableEq, Repr

end PowerProfiles
