import PowerProfiles.HoldTable

/-!
# The daemon state and what it emits

`PpdApp` mirrors the struct of `power-profiles-daemon.c`, flattened with the part of
the bus the daemon's calls change: the live name watches of `g_bus_watch_name`, and
the ordered trace of everything the daemon emits (driver and action calls, state-file
writes, D-Bus signals and method replies). The property getters and
`send_dbus_event` are the code's, over that state.
-/

namespace PowerProfiles

/-- `POWER_PROFILES_DBUS_NAME`, also the interface name. -/
def powerProfilesIfaceName : String := "org.freedesktop.UPower.PowerProfiles"

/-- `POWER_PROFILES_DBUS_PATH`. -/
def powerProfilesDbusPath : String := "/org/freedesktop/UPower/PowerProfiles"

/-- `POWER_PROFILES_LEGACY_DBUS_NAME`, also the legacy interface name. -/
def powerProfilesLegacyIfaceName : String := "net.hadess.PowerProfiles"

/-- `POWER_PROFILES_LEGACY_DBUS_PATH`. -/
def powerProfilesLegacyDbusPath : String := "/net/hadess/PowerProfiles"

/-- `POWER_PROFILES_POLICY_NAMESPACE`. -/
def powerProfilesPolicyNamespace : String := "org.freedesktop.UPower.PowerProfiles"

/-- The `[State]` group of the state file: the keys the daemon reads and writes. -/
structure KeyFile where
  /-- Key `CpuDriver`. -/
  cpuDriver : Option String
  /-- Key `PlatformDriver`. -/
  platformDriver : Option String
  /-- Key `Profile`. -/
  profile : Option String
  deriving DecidableEq, Repr

/-- The values the daemon's properties and replies take: `s`, `u`, `as` and `aa{sv}`
whose values are all strings. -/
inductive GVariant
  | string (value : String)
  | uint32 (value : Nat)
  | strv (values : List String)
  | dictArray (dicts : List (List (String × String)))
  deriving DecidableEq, Repr

/-- The D-Bus error names the daemon replies with; `unmapped` stands for an error of a
driver's own domain. -/
inductive GDBusError
  | failed
  | invalidArgs
  | accessDenied
  | unknownInterface
  | unknownMethod
  | unmapped
  deriving DecidableEq, Repr

/-- A `GError`: its D-Bus error name and message. -/
structure GError where
  /-- The error code. -/
  code : GDBusError
  /-- The error message. -/
  message : String
  deriving DecidableEq, Repr

/-- `g_prefix_error`. -/
def gPrefixError (e : GError) (pre : String) : GError := { e with message := pre ++ e.message }

/-- Replies and activation outcomes are compared by value. -/
instance exceptDecidableEq {ε α : Type} [DecidableEq ε] [DecidableEq α] :
    DecidableEq (Except ε α)
  | .error a, .error b => decidable_of_iff (a = b) ⟨congrArg _, Except.error.inj⟩
  | .ok a, .ok b => decidable_of_iff (a = b) ⟨congrArg _, Except.ok.inj⟩
  | .error _, .ok _ => isFalse fun h => Except.noConfusion h
  | .ok _, .error _ => isFalse fun h => Except.noConfusion h

/-- Everything the daemon emits, in order. -/
inductive Emission
  /-- A call of `ppd_driver_activate_profile` on the driver in a slot. -/
  | driverActivateProfile (kind : DriverKind) (profile : PpdProfile)
      (reason : PpdProfileActivationReason)
  /-- A call of `ppd_action_activate_profile`. -/
  | actionActivateProfile (actionName : String) (profile : PpdProfile)
  /-- `g_key_file_save_to_file` of the state file. -/
  | keyFileSave (file : KeyFile)
  /-- `PropertiesChanged` on an interface and path. -/
  | propertiesChanged (iface path : String) (props : List (String × GVariant))
  /-- The `ProfileReleased` signal to a peer. -/
  | profileReleased (dest path iface : String) (cookie : Nat)
  /-- The reply to a method call or property set. -/
  | methodReply (dest : String) (reply : Except GError (Option GVariant))
  /-- A `g_assert_not_reached` was hit: the process aborts. -/
  | assertionFailed (location : String)
  deriving DecidableEq, Repr

/-- The daemon's state (`PpdApp`) with the bus state its calls change. -/
structure PpdApp where
  /-- `active_profile`. -/
  activeProfile : PpdProfile
  /-- `selected_profile`. -/
  selectedProfile : PpdProfile
  /-- `probed_drivers`: drivers whose probe deferred. -/
  probedDrivers : List PpdDriver
  /-- `cpu_driver`. -/
  cpuDriver : Option PpdDriver
  /-- `platform_driver`. -/
  platformDriver : Option PpdDriver
  /-- `actions`. -/
  actions : List PpdAction
  /-- `profile_holds`. -/
  profileHolds : HoldTable
  /-- `config`, the state file as loaded and written. -/
  config : KeyFile
  /-- `debug_options->blocked_drivers`. -/
  blockedDrivers : List String
  /-- `debug_options->blocked_actions`. -/
  blockedActions : List String
  /-- `was_started`. -/
  wasStarted : Bool
  /-- `ret`, the exit status. -/
  ret : Nat
  /-- The main loop has not been told to quit. -/
  loopRunning : Bool
  /-- The live `g_bus_watch_name` subscriptions: watch id and watched name. -/
  watches : List (Nat × String)
  /-- Everything emitted so far. -/
  trace : List Emission
  /-- Proof-only ghost state: every (cookie, hold) ever inserted into `profile_holds`. -/
  issued : List (Nat × ProfileHold)
  deriving DecidableEq

/-- What the run's environment decides: the version string of `config.h`, and how the
driver called as the `n`-th emission of the trace answers `activate_profile`. -/
structure Env where
  /-- `VERSION`. -/
  version : String
  /-- The outcome of the driver's `activate_profile` class method. -/
  activate : Nat → DriverKind → PpdProfile → PpdProfileActivationReason → Except GError Unit

/-- The driver in a slot. -/
def PpdApp.driverOf (app : PpdApp) : DriverKind → Option PpdDriver
  | .cpu => app.cpuDriver
  | .platform => app.platformDriver

/-- The environment in which every driver's `activate_profile` succeeds. -/
def Env.allSucceed (version : String) : Env := ⟨version, fun _ _ _ _ => .ok ()⟩

/-- The state `main` builds before the bus name is acquired. -/
def initialApp (config : KeyFile) (blockedDrivers blockedActions : List String) : PpdApp where
  activeProfile := .balanced
  selectedProfile := .balanced
  probedDrivers := []
  cpuDriver := none
  platformDriver := none
  actions := []
  profileHolds := .empty
  config := config
  blockedDrivers := blockedDrivers
  blockedActions := blockedActions
  wasStarted := false
  ret := 0
  loopRunning := true
  watches := []
  trace := []
  issued := []

/-- Append emissions to the trace. -/
def PpdApp.emit (app : PpdApp) (es : List Emission) : PpdApp := { app with trace := app.trace ++ es }

section Fields

variable (app : PpdApp) (es : List Emission)

@[simp] theorem emit_trace : (app.emit es).trace = app.trace ++ es := rfl
@[simp] theorem emit_activeProfile : (app.emit es).activeProfile = app.activeProfile := rfl
@[simp] theorem emit_selectedProfile : (app.emit es).selectedProfile = app.selectedProfile := rfl
@[simp] theorem emit_profileHolds : (app.emit es).profileHolds = app.profileHolds := rfl
@[simp] theorem emit_cpuDriver : (app.emit es).cpuDriver = app.cpuDriver := rfl
@[simp] theorem emit_platformDriver : (app.emit es).platformDriver = app.platformDriver := rfl
@[simp] theorem emit_actions : (app.emit es).actions = app.actions := rfl
@[simp] theorem emit_config : (app.emit es).config = app.config := rfl
@[simp] theorem emit_watches : (app.emit es).watches = app.watches := rfl
@[simp] theorem emit_issued : (app.emit es).issued = app.issued := rfl
@[simp] theorem emit_loopRunning : (app.emit es).loopRunning = app.loopRunning := rfl
@[simp] theorem emit_probedDrivers : (app.emit es).probedDrivers = app.probedDrivers := rfl

theorem emit_emit (es' : List Emission) : (app.emit es).emit es' = app.emit (es ++ es') := by
  simp [PpdApp.emit]

@[simp] theorem emit_nil (app : PpdApp) : app.emit [] = app := by
  simp [PpdApp.emit]

end Fields

/-- `get_profile_available`. -/
def getProfileAvailable (app : PpdApp) (profile : ProfileMask) : Bool :=
  driverProfileSupport app.cpuDriver profile || driverProfileSupport app.platformDriver profile

/-- `get_performance_degraded`: the reasons of the drivers that implement performance,
CPU first, joined by a comma. -/
def getPerformanceDegraded (app : PpdApp) : String :=
  let platformDegraded :=
    if driverProfileSupport app.platformDriver PpdProfile.performance.mask then
      app.platformDriver.bind (·.performanceDegraded) else none
  let cpuDegraded :=
    if driverProfileSupport app.cpuDriver PpdProfile.performance.mask then
      app.cpuDriver.bind (·.performanceDegraded) else none
  match cpuDegraded, platformDegraded with
  | none, none => ""
  | none, some platform => platform
  | some cpu, none => cpu
  | some cpu, some platform => cpu ++ "," ++ platform

/-- The dictionary `get_profiles_variant` builds for one available profile. -/
def profileDict (app : PpdApp) (profile : PpdProfile) : List (String × String) :=
  let cpu := driverProfileSupport app.cpuDriver profile.mask
  let platform := driverProfileSupport app.platformDriver profile.mask
  let cpuName := (driverNameOf app.cpuDriver).getD ""
  let platformName := (driverNameOf app.platformDriver).getD ""
  [("Profile", ppdProfileToStr profile)] ++
    (if cpu then [("CpuDriver", cpuName)] else []) ++
    (if platform then [("PlatformDriver", platformName)] else []) ++
    (if cpu && platform then [("Driver", "multiple")]
      else if cpu then [("Driver", cpuName)]
      else if platform then [("Driver", platformName)] else [])

/-- `get_profiles_variant`: one dictionary per available profile, in bit order. -/
def getProfilesVariant (app : PpdApp) : GVariant :=
  .dictArray (([PpdProfile.powerSaver, .balanced, .performance].filter
    fun p => getProfileAvailable app p.mask).map (profileDict app))

/-- `get_actions_variant`. -/
def getActionsVariant (app : PpdApp) : GVariant := .strv (app.actions.map PpdAction.actionName)

/-- `get_profile_holds_variant`, in the table's iteration order. -/
def getProfileHoldsVariant (app : PpdApp) : GVariant :=
  .dictArray (app.profileHolds.entries.map fun e =>
    [("ApplicationId", e.2.applicationId), ("Profile", ppdProfileToStr e.2.profile),
      ("Reason", e.2.reason)])

/-- `handle_get_property`. -/
def handleGetProperty (env : Env) (app : PpdApp) (propertyName : String) : Option GVariant :=
  if propertyName = "ActiveProfile" then some (.string (ppdProfileToStr app.activeProfile))
  else if propertyName = "PerformanceInhibited" then some (.string "")
  else if propertyName = "Profiles" then some (getProfilesVariant app)
  else if propertyName = "Actions" then some (getActionsVariant app)
  else if propertyName = "PerformanceDegraded" then some (.string (getPerformanceDegraded app))
  else if propertyName = "ActiveProfileHolds" then some (getProfileHoldsVariant app)
  else if propertyName = "Version" then some (.string env.version)
  else none

/-- `PropertiesMask`, one flag a property. -/
structure PropertiesMask where
  /-- `PROP_ACTIVE_PROFILE`. -/
  activeProfile : Bool := false
  /-- `PROP_INHIBITED`. -/
  inhibited : Bool := false
  /-- `PROP_PROFILES`. -/
  profiles : Bool := false
  /-- `PROP_ACTIONS`. -/
  actions : Bool := false
  /-- `PROP_DEGRADED`. -/
  degraded : Bool := false
  /-- `PROP_ACTIVE_PROFILE_HOLDS`. -/
  activeProfileHolds : Bool := false
  /-- `PROP_VERSION`. -/
  version : Bool := false
  deriving DecidableEq, Repr

/-- `PROP_ALL`. -/
def propAll : PropertiesMask := ⟨true, true, true, true, true, true, true⟩

/-- `mask == 0`. -/
def PropertiesMask.isEmpty (m : PropertiesMask) : Bool :=
  !(m.activeProfile || m.inhibited || m.profiles || m.actions || m.degraded ||
    m.activeProfileHolds || m.version)

/-- The `a{sv}` that `send_dbus_event_iface` builds for a mask, in the code's order. -/
def changedProperties (env : Env) (app : PpdApp) (m : PropertiesMask) : List (String × GVariant) :=
  (if m.activeProfile then [("ActiveProfile", .string (ppdProfileToStr app.activeProfile))]
    else []) ++
  (if m.inhibited then [("PerformanceInhibited", .string "")] else []) ++
  (if m.degraded then [("PerformanceDegraded", .string (getPerformanceDegraded app))] else []) ++
  (if m.profiles then [("Profiles", getProfilesVariant app)] else []) ++
  (if m.actions then [("Actions", getActionsVariant app)] else []) ++
  (if m.activeProfileHolds then [("ActiveProfileHolds", getProfileHoldsVariant app)] else []) ++
  (if m.version then [("Version", .string env.version)] else [])

/-- `send_dbus_event_iface`. -/
def sendDbusEventIface (env : Env) (app : PpdApp) (m : PropertiesMask) (iface path : String) :
    PpdApp :=
  if m.isEmpty then app else app.emit [.propertiesChanged iface path (changedProperties env app m)]

/-- `send_dbus_event`: the same change on the current and the legacy interface. -/
def sendDbusEvent (env : Env) (app : PpdApp) (m : PropertiesMask) : PpdApp :=
  sendDbusEventIface env
    (sendDbusEventIface env app m powerProfilesIfaceName powerProfilesDbusPath) m
    powerProfilesLegacyIfaceName powerProfilesLegacyDbusPath

/-- `send_dbus_event` emits one `PropertiesChanged` on each interface, with the same
properties, or nothing for an empty mask. -/
theorem sendDbusEvent_eq (env : Env) (app : PpdApp) (m : PropertiesMask) :
    sendDbusEvent env app m = app.emit (if m.isEmpty then [] else
      [.propertiesChanged powerProfilesIfaceName powerProfilesDbusPath (changedProperties env app m),
       .propertiesChanged powerProfilesLegacyIfaceName powerProfilesLegacyDbusPath
        (changedProperties env app m)]) := by
  unfold sendDbusEvent sendDbusEventIface
  split
  · simp
  · simp only [emit_emit, List.singleton_append]; rfl

/-- The emissions of `send_dbus_event`. -/
def Emission.isPropertiesChanged : Emission → Bool
  | .propertiesChanged .. => true
  | _ => false

section SendDbusEvent

variable (env : Env) (app : PpdApp) (m : PropertiesMask)

@[simp] theorem sendDbusEvent_activeProfile :
    (sendDbusEvent env app m).activeProfile = app.activeProfile := by
  rw [sendDbusEvent_eq]; rfl
@[simp] theorem sendDbusEvent_selectedProfile :
    (sendDbusEvent env app m).selectedProfile = app.selectedProfile := by
  rw [sendDbusEvent_eq]; rfl
@[simp] theorem sendDbusEvent_profileHolds :
    (sendDbusEvent env app m).profileHolds = app.profileHolds := by
  rw [sendDbusEvent_eq]; rfl
@[simp] theorem sendDbusEvent_cpuDriver : (sendDbusEvent env app m).cpuDriver = app.cpuDriver := by
  rw [sendDbusEvent_eq]; rfl
@[simp] theorem sendDbusEvent_platformDriver :
    (sendDbusEvent env app m).platformDriver = app.platformDriver := by
  rw [sendDbusEvent_eq]; rfl
@[simp] theorem sendDbusEvent_actions : (sendDbusEvent env app m).actions = app.actions := by
  rw [sendDbusEvent_eq]; rfl
@[simp] theorem sendDbusEvent_config : (sendDbusEvent env app m).config = app.config := by
  rw [sendDbusEvent_eq]; rfl
@[simp] theorem sendDbusEvent_watches : (sendDbusEvent env app m).watches = app.watches := by
  rw [sendDbusEvent_eq]; rfl
@[simp] theorem sendDbusEvent_issued : (sendDbusEvent env app m).issued = app.issued := by
  rw [sendDbusEvent_eq]; rfl
@[simp] theorem sendDbusEvent_loopRunning :
    (sendDbusEvent env app m).loopRunning = app.loopRunning := by
  rw [sendDbusEvent_eq]; rfl
@[simp] theorem sendDbusEvent_probedDrivers :
    (sendDbusEvent env app m).probedDrivers = app.probedDrivers := by
  rw [sendDbusEvent_eq]; rfl

/-- `send_dbus_event` emits `PropertiesChanged` signals only. -/
theorem sendDbusEvent_trace : ∃ es, (sendDbusEvent env app m).trace = app.trace ++ es ∧
    ∀ e ∈ es, e.isPropertiesChanged := by
  rw [sendDbusEvent_eq]
  refine ⟨_, rfl, ?_⟩
  split <;> simp [Emission.isPropertiesChanged]

end SendDbusEvent

/-- `save_configuration`: record the bound drivers' names and the active profile, and
write the file. A failed write only logs a warning. -/
def saveConfiguration (app : PpdApp) : PpdApp :=
  let config := match app.cpuDriver with
    | some driver => { app.config with cpuDriver := some driver.driverName }
    | none => app.config
  let config := match app.platformDriver with
    | some driver => { config with platformDriver := some driver.driverName }
    | none => config
  let config := { config with profile := some (ppdProfileToStr app.activeProfile) }
  { app with config := config }.emit [.keyFileSave config]

/-- `apply_configuration`: adopt the stored profile when each bound driver's name is the
one stored for its slot; an unparsable profile is removed from the key file. -/
def applyConfiguration (app : PpdApp) : PpdApp × Bool :=
  if app.cpuDriver.isSome ∧ driverNameOf app.cpuDriver ≠ app.config.cpuDriver then (app, false)
  else if app.platformDriver.isSome ∧ driverNameOf app.platformDriver ≠ app.config.platformDriver
  then (app, false)
  else match app.config.profile with
    | none => (app, false)
    | some profileStr =>
      if ppdProfileFromStr profileStr = .unset then
        ({ app with config := { app.config with profile := none } }, false)
      else ({ app with activeProfile := ppdProfileFromStr profileStr }, true)

/-- `apply_configuration` keeps the state, drops a `Profile` key that does not parse, or
adopts the stored profile. -/
theorem applyConfiguration_cases (app : PpdApp) :
    applyConfiguration app = (app, false) ∨
    ((∃ s, app.config.profile = some s ∧ ppdProfileFromStr s = .unset) ∧
      applyConfiguration app = ({ app with config := { app.config with profile := none } }, false)) ∨
    ∃ s, app.config.profile = some s ∧ ppdProfileFromStr s ≠ .unset ∧
      applyConfiguration app = ({ app with activeProfile := ppdProfileFromStr s }, true) := by
  unfold applyConfiguration
  split_ifs
  · exact .inl rfl
  · exact .inl rfl
  split
  · exact .inl rfl
  split_ifs with hu
  · exact .inr (.inl ⟨⟨_, ‹_›, hu⟩, rfl⟩)
  · exact .inr (.inr ⟨_, ‹_›, hu, rfl⟩)

/-- The object path `release_hold_notify` signals on: the legacy path for the legacy
interface, the current one otherwise. -/
def releasePath (iface : String) : String :=
  if iface = powerProfilesLegacyIfaceName then powerProfilesLegacyDbusPath
  else powerProfilesDbusPath

/-- The `ProfileReleased` signal of a hold. -/
def releaseSignal (cookie : Nat) (hold : ProfileHold) : Emission :=
  .profileReleased hold.requester (releasePath hold.requesterIface) hold.requesterIface cookie

/-- A `ProfileReleased` signal for a cookie. -/
def Emission.releasesCookie (cookie : Nat) : Emission → Bool
  | .profileReleased _ _ _ c => c == cookie
  | _ => false

theorem Emission.releasesCookie_of_isPropertiesChanged {m : Emission} (c : Nat)
    (h : m.isPropertiesChanged) : m.releasesCookie c = false := by
  cases m <;> simp_all [isPropertiesChanged, releasesCookie]

/-- `release_hold_notify`. -/
def releaseHoldNotify (app : PpdApp) (hold : ProfileHold) (cookie : Nat) : PpdApp :=
  app.emit [releaseSignal cookie hold]

/-- `g_bus_unwatch_name`. -/
def gBusUnwatchName (app : PpdApp) (watchId : Nat) : PpdApp :=
  { app with watches := app.watches.filter (·.1 != watchId) }

/-- A reply to the caller. -/
def PpdApp.reply (app : PpdApp) (dest : String) (r : Except GError (Option GVariant)) : PpdApp :=
  app.emit [.methodReply dest r]

end PowerProfiles
