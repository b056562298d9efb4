import PowerProfiles.Holds

/-!
# The daemon's event loop

The bus handlers (`handle_set_property`, `handle_method_call`), the probe loop and the
start/stop cycle of `start_profile_drivers`, and the driver and udev callbacks. `step`
dispatches one event of the main loop; `Reachable` is every state a run reaches from
the start, with the watch ids that `g_bus_watch_name` hands out never reused.
-/

namespace PowerProfiles

/-- What `polkit_authority_check_authorization_sync` answers. -/
inductive PolkitResult
  | authorized
  | notAuthorized
  | failed (message : String)
  deriving DecidableEq, Repr

/-- `check_action_permission`. -/
def checkActionPermission (auth : PolkitResult) (action : String) : Except GError Unit :=
  match auth with
  | .authorized => .ok ()
  | .notAuthorized => .error ⟨.accessDenied, "Not Authorized: " ++ action⟩
  | .failed message => .error ⟨.accessDenied, "Not Authorized: " ++ message⟩

/-- `handle_set_property`. -/
def handleSetProperty (env : Env) (app : PpdApp) (propertyName value : String)
    (auth : PolkitResult) : PpdApp × Except GError Unit :=
  if propertyName ≠ "ActiveProfile" then
    (app, .error ⟨.failed, "No such property: " ++ propertyName⟩)
  else match checkActionPermission auth (powerProfilesPolicyNamespace ++ ".switch-profile") with
    | .error e => (app, .error e)
    | .ok () => setActiveProfile env app value

/-- `handle_set_property` refuses with the state untouched, or runs `set_active_profile`. -/
theorem handleSetProperty_cases (env : Env) (app : PpdApp) (propertyName value : String)
    (auth : PolkitResult) :
    ((propertyName ≠ "ActiveProfile" ∨ auth ≠ .authorized) ∧
      ∃ err, handleSetProperty env app propertyName value auth = (app, .error err)) ∨
    (propertyName = "ActiveProfile" ∧ auth = .authorized ∧
      handleSetProperty env app propertyName value auth = setActiveProfile env app value) := by
  unfold handleSetProperty
  split_ifs with hname
  · exact .inl ⟨.inl hname, _, rfl⟩
  · cases auth with
    | authorized => exact .inr ⟨not_not.mp hname, rfl, rfl⟩
    | _ => exact .inl ⟨.inr nofun, _, rfl⟩

/-- A method call with its arguments; the introspection data makes GDBus check the
argument types before `handle_method_call` runs. -/
inductive MethodCall
  | holdProfile (profile reason applicationId : String) (watchId : Nat)
  | releaseProfile (cookie : Nat)
  | other (methodName : String)
  deriving DecidableEq, Repr

/-- `handle_method_call`. -/
def handleMethodCall (env : Env) (app : PpdApp) (sender iface : String) (call : MethodCall)
    (auth : PolkitResult) : PpdApp :=
  if iface ≠ powerProfilesIfaceName ∧ iface ≠ powerProfilesLegacyIfaceName then
    app.reply sender (.error ⟨.unknownInterface, "Unknown interface " ++ iface⟩)
  else match call with
    | .holdProfile profile reason applicationId watchId =>
      match checkActionPermission auth (powerProfilesPolicyNamespace ++ ".hold-profile") with
      | .error e => app.reply sender (.error e)
      | .ok () => holdProfile env app sender iface profile reason applicationId watchId
    | .releaseProfile cookie => releaseProfile env app sender cookie
    | .other methodName =>
      app.reply sender (.error ⟨.unknownMethod,
        "No such method " ++ iface ++ " in interface " ++ methodName⟩)

/-- `driver_blocked`. -/
def driverBlocked (app : PpdApp) (driver : PpdDriver) : Bool :=
  app.blockedDrivers.contains driver.driverName

/-- `action_blocked`. -/
def actionBlocked (app : PpdApp) (action : PpdAction) : Bool :=
  app.blockedActions.contains action.actionName

/-- One iteration of the probe loop of `start_profile_drivers`. -/
def probeBackend (app : PpdApp) : Backend → PpdApp
  | .driver kind driver result =>
    if driverBlocked app driver then app
    else if kind = .cpu ∧ app.cpuDriver.isSome then app
    else if kind = .platform ∧ app.platformDriver.isSome then app
    else if !driver.profiles.meets ppdProfileAll then app
    else match result with
      | .fail => app
      | .defer => { app with probedDrivers := app.probedDrivers ++ [driver] }
      | .success => match kind with
        | .cpu => { app with cpuDriver := some driver }
        | .platform => { app with platformDriver := some driver }
  | .action action result =>
    if actionBlocked app action then app
    else if result = .fail then app
    else { app with actions := app.actions ++ [action] }

/-- Probing touches only the back-end fields. -/
theorem keepsHolds_probeBackend (app : PpdApp) (b : Backend) : KeepsHolds app (probeBackend app b) := by
  unfold probeBackend
  split <;> (repeat' split) <;> exact ⟨rfl, rfl, rfl, fun _ => rfl⟩

/-- `has_required_drivers`. -/
def hasRequiredDrivers (app : PpdApp) : Bool :=
  if app.cpuDriver.isNone ∧ app.platformDriver.isNone then false
  else getProfileAvailable app (PpdProfile.balanced.mask.or PpdProfile.powerSaver.mask)

/-- `start_profile_drivers`: probe the back-ends, check the required drivers (quitting
the main loop if they are missing), restore the stored profile and activate it. -/
def startProfileDrivers (env : Env) (app : PpdApp) (backends : List Backend) : PpdApp :=
  let app := backends.foldl probeBackend app
  let app := if hasRequiredDrivers app then app else { app with ret := 1, loopRunning := false }
  let app := (applyConfiguration app).1
  let app := (activateTargetProfile env app app.activeProfile .reset).1
  { sendDbusEvent env app propAll with wasStarted := true }

/-- `apply_configuration` touches only the active profile and the key file. -/
theorem keepsHolds_applyConfiguration (app : PpdApp) : KeepsHolds app (applyConfiguration app).1 := by
  rcases applyConfiguration_cases app with h | ⟨-, h⟩ | ⟨_, -, -, h⟩ <;> rw [h] <;>
    exact ⟨rfl, rfl, rfl, fun _ => rfl⟩

/-- A start leaves the registry, the watches and the releases alone. -/
theorem keepsHolds_startProfileDrivers (env : Env) (app : PpdApp) (backends : List Backend) :
    KeepsHolds app (startProfileDrivers env app backends) := by
  have hprobe : KeepsHolds app (backends.foldl probeBackend app) := by
    induction backends generalizing app with
    | nil => exact .refl _
    | cons b bs ih => exact (keepsHolds_probeBackend app b).trans (ih _)
  have hgate : ∀ a : PpdApp,
      KeepsHolds a (if hasRequiredDrivers a then a else { a with ret := 1, loopRunning := false }) :=
    fun a => by split_ifs <;> exact ⟨rfl, rfl, rfl, fun _ => rfl⟩
  unfold startProfileDrivers
  dsimp only
  refine hprobe.trans ((hgate _).trans ((keepsHolds_applyConfiguration _).trans ?_))
  exact (KeepsHolds.of_transacts ((transacts_activateTargetProfile ..).trans
    (transacts_sendDbusEvent ..))).trans ⟨rfl, rfl, rfl, fun _ => rfl⟩

/-- `stop_profile_drivers`: release the holds and drop every back-end. -/
def stopProfileDrivers (app : PpdApp) : PpdApp :=
  { releaseAllProfileHolds app with
    probedDrivers := [], actions := [], cpuDriver := none, platformDriver := none }

/-- `driver_profile_changed_cb`. -/
def driverProfileChangedCb (env : Env) (app : PpdApp) (newProfile : PpdProfile) : PpdApp :=
  if newProfile = app.activeProfile then app
  else sendDbusEvent env (activateTargetProfile env app newProfile .internal).1
    { activeProfile := true }

theorem transacts_driverProfileChangedCb (env : Env) (app : PpdApp) (newProfile : PpdProfile) :
    Transacts app (driverProfileChangedCb env app newProfile) := by
  unfold driverProfileChangedCb
  split_ifs
  · exact .refl _
  · exact (transacts_activateTargetProfile ..).trans (transacts_sendDbusEvent ..)

/-- A bound driver sets its `performance-degraded` property, and
`driver_performance_degraded_changed_cb` runs on the notification. -/
def setPerformanceDegraded (env : Env) (app : PpdApp) (kind : DriverKind) (degraded : String) :
    PpdApp :=
  match app.driverOf kind with
  | none => app
  | some driver =>
    let driver := { driver with performanceDegraded := normalizeDegraded degraded }
    let app := match kind with
      | .cpu => { app with cpuDriver := some driver }
      | .platform => { app with platformDriver := some driver }
    if !driver.profiles.meets PpdProfile.performance.mask then app
    else sendDbusEvent env app { degraded := true }

theorem keepsHolds_setPerformanceDegraded (env : Env) (app : PpdApp) (kind : DriverKind)
    (degraded : String) : KeepsHolds app (setPerformanceDegraded env app kind degraded) := by
  have hk : ∀ d : PpdDriver, KeepsHolds app (match kind with
      | .cpu => { app with cpuDriver := some d }
      | .platform => { app with platformDriver := some d }) := fun d => by
    cases kind <;> exact ⟨rfl, rfl, rfl, fun _ => rfl⟩
  unfold setPerformanceDegraded
  split
  · exact .refl _
  · dsimp only
    split_ifs
    · exact hk _
    · exact (hk _).trans (.of_transacts (transacts_sendDbusEvent ..))

/-- `udev_uevent_cb` of one bound action: an amdgpu_dpm action runs
`ppd_action_amdgpu_dpm_update_target` on a DRM device added with the attribute. -/
def actionUevent (action : String) (hasDpmAttr : Bool) (app : PpdApp) : PpdAction → PpdApp
  | .amdgpuDpm lastProfile =>
    if action = "add" ∧ hasDpmAttr ∧ ppdActionAmdgpuDpmUpdateTarget lastProfile = none then
      { app.emit [.assertionFailed "ppd_action_amdgpu_dpm_update_target"] with
        loopRunning := false }
    else app
  | .other _ => app

/-- The uevent handlers signal no release. -/
theorem keepsHolds_foldl_actionUevent (action : String) (hasDpmAttr : Bool) (actions : List PpdAction)
    (app : PpdApp) : KeepsHolds app (actions.foldl (actionUevent action hasDpmAttr) app) := by
  induction actions generalizing app with
  | nil => exact .refl _
  | cons a rest ih =>
    refine (?_ : KeepsHolds app (actionUevent action hasDpmAttr app a)).trans (ih _)
    cases a with
    | amdgpuDpm lastProfile =>
      simp only [actionUevent]
      split_ifs
      · exact (KeepsHolds.emit (by simp [Emission.releasesCookie])).trans ⟨rfl, rfl, rfl, fun _ => rfl⟩
      · exact .refl _
    | other => exact .refl _

/-- An event of the main loop. -/
inductive Event
  /-- A client sets a property. -/
  | setProperty (sender propertyName value : String) (auth : PolkitResult)
  /-- A client calls a method. -/
  | methodCall (sender iface : String) (call : MethodCall) (auth : PolkitResult)
  /-- A watched bus name loses its owner. -/
  | nameVanished (name : String)
  /-- A bound driver emits `profile-changed`. -/
  | profileChanged (kind : DriverKind) (profile : PpdProfile)
  /-- A bound driver sets `performance-degraded`. -/
  | performanceDegradedChanged (kind : DriverKind) (degraded : String)
  /-- A deferred driver emits `probe-request`; the back-ends are probed again. -/
  | probeRequest (backends : List Backend)
  /-- A DRM uevent. -/
  | drmUevent (action : String) (hasDpmAttr : Bool)
  /-- SIGINT or SIGTERM: the loop quits and `free_app_data` stops the drivers. -/
  | quit
  deriving DecidableEq, Repr

/-- Handle one event. -/
def dispatch (env : Env) (app : PpdApp) : Event → PpdApp
  | .setProperty sender propertyName value auth =>
    let r := handleSetProperty env app propertyName value auth
    r.1.reply sender (r.2.map fun _ => none)
  | .methodCall sender iface call auth => handleMethodCall env app sender iface call auth
  | .nameVanished name =>
    if app.watches.any (·.2 = name) then holderDisappeared env app name else app
  | .profileChanged kind profile =>
    if (app.driverOf kind).isSome ∧ profile.hasSingleFlag then
      driverProfileChangedCb env app profile
    else app
  | .performanceDegradedChanged kind degraded => setPerformanceDegraded env app kind degraded
  | .probeRequest backends =>
    if app.probedDrivers = [] then app
    else startProfileDrivers env (stopProfileDrivers app) backends
  | .drmUevent action hasDpmAttr => app.actions.foldl (actionUevent action hasDpmAttr) app
  | .quit => { stopProfileDrivers app with loopRunning := false }

/-- One iteration of the main loop; nothing is dispatched after it quits. -/
def step (env : Env) (app : PpdApp) (e : Event) : PpdApp :=
  if app.loopRunning then dispatch env app e else app

/-- A run: the events in order. -/
def run (env : Env) (app : PpdApp) (events : List Event) : PpdApp := events.foldl (step env) app

/-- What one iteration of the main loop can do to the state. -/
inductive StepCase (env : Env) (app : PpdApp) : Event → PpdApp → Prop
  /-- The loop has quit, or the event finds nothing to do. -/
  | same (e : Event) : StepCase env app e app
  /-- A request refused with an error reply. -/
  | refuse (e : Event) (sender : String) (err : GError) :
      StepCase env app e (app.reply sender (.error err))
  /-- An authorized set of `ActiveProfile`. -/
  | set (sender value : String) :
      StepCase env app (.setProperty sender "ActiveProfile" value .authorized)
        ((setActiveProfile env app value).1.reply sender
          ((setActiveProfile env app value).2.map fun _ => none))
  /-- An authorized `HoldProfile` on a known interface. -/
  | hold (sender iface profileName reason applicationId : String) (watchId : Nat) :
      StepCase env app (.methodCall sender iface (.holdProfile profileName reason applicationId watchId)
        .authorized) (holdProfile env app sender iface profileName reason applicationId watchId)
  /-- A `ReleaseProfile` of a known cookie on a known interface. -/
  | release (sender iface : String) (cookie : Nat) (auth : PolkitResult)
      (hc : cookie ∈ app.profileHolds.keys) :
      StepCase env app (.methodCall sender iface (.releaseProfile cookie) auth)
        ((releaseProfileHold env app cookie).reply sender (.ok none))
  /-- A watched name vanishes. -/
  | vanish (name : String) :
      StepCase env app (.nameVanished name) (holderDisappeared env app name)
  /-- A bound driver reports a single profile. -/
  | profileChanged (kind : DriverKind) (profile : PpdProfile) (hp : profile ≠ .unset) :
      StepCase env app (.profileChanged kind profile) (driverProfileChangedCb env app profile)
  /-- A driver's `performance-degraded` changes. -/
  | degraded (kind : DriverKind) (degraded : String) :
      StepCase env app (.performanceDegradedChanged kind degraded)
        (setPerformanceDegraded env app kind degraded)
  /-- A deferred driver asks for a new probe: the drivers restart. -/
  | restart (backends : List Backend) :
      StepCase env app (.probeRequest backends)
        (startProfileDrivers env (stopProfileDrivers app) backends)
  /-- A DRM uevent reaches every bound action. -/
  | uevent (action : String) (hasDpmAttr : Bool) :
      StepCase env app (.drmUevent action hasDpmAttr) (app.actions.foldl (actionUevent action hasDpmAttr) app)
  /-- The loop quits and the drivers stop. -/
  | quit : StepCase env app .quit { stopProfileDrivers app with loopRunning := false }

/-- Every iteration of the main loop is one of the cases of `StepCase`. -/
theorem stepCase (env : Env) (app : PpdApp) (e : Event) : StepCase env app e (step env app e) := by
  unfold step
  split_ifs
  swap
  · exact .same e
  cases e with
  | setProperty sender name value auth =>
    rcases handleSetProperty_cases env app name value auth with ⟨-, err, hr⟩ | ⟨rfl, rfl, hr⟩ <;>
      simp only [dispatch, hr]
    · exact .refuse _ sender err
    · exact .set sender value
  | methodCall sender iface call auth =>
    simp only [dispatch]
    unfold handleMethodCall
    split_ifs
    · exact .refuse _ _ _
    cases call with
    | holdProfile profileName reason applicationId watchId =>
      cases auth <;> simp only [checkActionPermission]
      · exact .hold sender iface profileName reason applicationId watchId
      all_goals exact .refuse _ _ _
    | releaseProfile cookie =>
      simp only [releaseProfile]
      split_ifs with hc
      · exact .refuse _ _ _
      · exact .release sender iface cookie auth (by simpa using hc)
    | other => exact .refuse _ _ _
  | nameVanished name =>
    simp only [dispatch]
    split_ifs
    · exact .vanish name
    · exact .same _
  | profileChanged kind profile =>
    simp only [dispatch]
    split_ifs with hk
    · exact .profileChanged kind profile (by simpa [PpdProfile.hasSingleFlag] using hk.2)
    · exact .same _
  | performanceDegradedChanged kind degraded => exact .degraded kind degraded
  | probeRequest backends =>
    simp only [dispatch]
    split_ifs
    · exact .same _
    · exact .restart backends
  | drmUevent action hasDpmAttr => exact .uevent action hasDpmAttr
  | quit => exact .quit

/-- The watch id of a `HoldProfile` call was never handed out before. -/
def Event.FreshWatchId (app : PpdApp) : Event → Prop
  | .methodCall _ _ (.holdProfile _ _ _ watchId) _ => watchId ∉ app.issued.map Prod.fst
  | _ => True

instance Event.decidableFreshWatchId (app : PpdApp) : (e : Event) → Decidable (e.FreshWatchId app)
  | .methodCall _ _ (.holdProfile _ _ _ watchId) _ =>
    inferInstanceAs (Decidable (watchId ∉ app.issued.map Prod.fst))
  | .methodCall _ _ (.releaseProfile _) _ | .methodCall _ _ (.other _) _ | .setProperty .. |
    .nameVanished _ | .profileChanged .. | .performanceDegradedChanged .. | .probeRequest _ |
    .drmUevent .. | .quit => isTrue trivial

/-- The states of a run: the start with any state file, blocklists and back-ends, then
any events whose watch ids are fresh. -/
inductive Reachable (env : Env) : PpdApp → Prop
  | start (config : KeyFile) (blockedDrivers blockedActions : List String)
      (backends : List Backend) :
      Reachable env (startProfileDrivers env (initialApp config blockedDrivers blockedActions)
        backends)
  | step {app : PpdApp} (e : Event) :
      Reachable env app → e.FreshWatchId app → Reachable env (step env app e)

end PowerProfiles
