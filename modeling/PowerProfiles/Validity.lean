import PowerProfiles.Arbitration

/-!
# Single profiles

The daemon never keeps `PPD_PROFILE_UNSET`: every activation it commits targets a single
profile, `apply_configuration` adopts only a profile that parses, and `hold_profile`
admits only performance and power-saver. An `amdgpu_dpm` action learns a profile from
each successful activation, so when every driver succeeds every reachable state has
told each bound action one, and a DRM hot-plug never reaches the assertion of
`ppd_action_amdgpu_dpm_update_target`. A failed first activation tells the action nothing,
and the next hot-plug aborts the daemon.
-/

namespace PowerProfiles

/-- The profiles the daemon keeps are single profiles: the active and the selected one
are never unset, and every hold is valid. -/
structure ProfilesValid (app : PpdApp) : Prop where
  activeProfile : app.activeProfile ≠ .unset
  selectedProfile : app.selectedProfile ≠ .unset
  holdsValid : HoldsValid app.profileHolds.entries

/-- Every bound `amdgpu_dpm` action has been told a profile. -/
def ActionsTold (app : PpdApp) : Prop :=
  ∀ p, PpdAction.amdgpuDpm p ∈ app.actions → p ≠ .unset

/-- `app'` keeps the profiles valid, and keeps every action told if `app` did. -/
structure ValidStep (app app' : PpdApp) : Prop where
  profilesValid : ProfilesValid app'
  actionsTold : ActionsTold app → ActionsTold app'

namespace ValidStep

theorem trans {a b c : PpdApp} (h1 : ValidStep a b) (h2 : ProfilesValid b → ValidStep b c) :
    ValidStep a c :=
  ⟨(h2 h1.1).1, fun h => (h2 h1.1).2 (h1.2 h)⟩

/-- A step that keeps the profiles, the holds and the actions. -/
theorem of_eq {app app' : PpdApp} (h : ProfilesValid app) (hact : app'.activeProfile = app.activeProfile)
    (hsel : app'.selectedProfile = app.selectedProfile) (hh : app'.profileHolds = app.profileHolds)
    (ha : app'.actions = app.actions) : ValidStep app app' :=
  ⟨⟨hact ▸ h.1, hsel ▸ h.2, hh ▸ h.3⟩, fun ht p hp => ht p (ha ▸ hp)⟩

theorem refl {app : PpdApp} (h : ProfilesValid app) : ValidStep app app := of_eq h rfl rfl rfl rfl

theorem reply {app : PpdApp} (h : ProfilesValid app) (dest : String) (r : Except GError (Option GVariant)) :
    ValidStep app (app.reply dest r) := of_eq h rfl rfl rfl rfl

theorem sendDbusEvent {app : PpdApp} (h : ProfilesValid app) (env : Env) (m : PropertiesMask) :
    ValidStep app (PowerProfiles.sendDbusEvent env app m) := by
  exact of_eq h (by simp) (by simp) (by simp) (by simp)

end ValidStep

/-- An activation of a single profile keeps the profiles valid; on success every action
is told the target, on failure nothing changes. -/
theorem validStep_activateTargetProfile {app : PpdApp} (h : ProfilesValid app) (env : Env)
    {target : PpdProfile} (ht : target ≠ .unset) (reason : PpdProfileActivationReason) :
    ValidStep app (activateTargetProfile env app target reason).1 := by
  obtain ⟨calls, -, heq⟩ := activateTargetProfile_eq env app target reason
  rw [heq]
  split
  · refine ⟨⟨by simpa using ht, by simpa using h.2, by simpa using h.3⟩, fun _ p hp => ?_⟩
    simp only [commitProfile_actions, emit_actions, List.mem_map] at hp
    obtain ⟨a, -, ha⟩ := hp
    rw [PpdAction.eq_of_activateProfile ha]
    exact ht
  · exact .of_eq h rfl rfl rfl rfl


section Operations

variable {app : PpdApp} (h : ProfilesValid app) (env : Env)
include h

theorem validStep_releaseAllProfileHolds : ValidStep app (releaseAllProfileHolds app) := by
  rw [releaseAllProfileHolds_eq]
  exact ⟨⟨h.1, h.2, fun e he => nomatch he⟩, fun ht => ht⟩

theorem validStep_setActiveProfile (profile : String) :
    ValidStep app (setActiveProfile env app profile).1 := by
  have hc := setActiveProfileCase env app profile
  generalize setActiveProfile env app profile = r at hc
  cases hc with
  | invalid | unavailable | same => exact .refl h
  | failed hu => exact (validStep_releaseAllProfileHolds h).trans fun hr =>
      validStep_activateTargetProfile hr env hu .user
  | switched hu =>
    refine (validStep_releaseAllProfileHolds h).trans fun hr =>
      (validStep_activateTargetProfile hr env hu .user).trans fun h2 => ?_
    exact ⟨⟨by simpa using h2.1, by simpa using hu, by simpa using h2.3⟩,
      fun ht p hp => ht p (by simpa using hp)⟩

theorem validStep_holdProfileActivate (profile : PpdProfile) :
    ValidStep app (holdProfileActivate env app profile).1 := by
  unfold holdProfileActivate
  dsimp only
  split_ifs with _ ht
  · exact validStep_activateTargetProfile h env ht.1 _
  · exact .refl h
  · exact .refl h

theorem validStep_releaseProfileHoldActivate (holdProfile : PpdProfile) :
    ValidStep app (releaseProfileHoldActivate env app holdProfile).1 := by
  unfold releaseProfileHoldActivate
  dsimp only
  split_ifs with _ _ ht
  · exact validStep_activateTargetProfile h env h.2 _
  · exact validStep_activateTargetProfile h env ht.1 _
  · exact .refl h
  · exact .refl h

theorem validStep_holdProfile (sender iface profileName reason applicationId : String) (watchId : Nat) :
    ValidStep app (holdProfile env app sender iface profileName reason applicationId watchId) := by
  unfold holdProfile
  dsimp only
  split_ifs with hp
  · exact .reply h ..
  · exact .reply h ..
  refine ValidStep.trans ?_ fun hA =>
    (validStep_holdProfileActivate hA env _).trans fun h2 => .sendDbusEvent h2 env _
  refine ⟨⟨h.1, h.2, fun e he => ?_⟩, fun ht => ht⟩
  rcases HoldTable.mem_insert he with he | rfl
  · exact h.3 e he
  · exact or_iff_not_and_not.mpr hp

theorem validStep_releaseProfileHold (cookie : Nat) :
    ValidStep app (releaseProfileHold env app cookie) := by
  unfold releaseProfileHold
  split
  · exact .refl h
  refine ValidStep.trans ?_ fun hA =>
    (validStep_releaseProfileHoldActivate hA env _).trans fun h2 => .sendDbusEvent h2 env _
  exact ⟨⟨h.1, h.2, fun e he => h.3 e (List.mem_filter.mp he).1⟩, fun ht => ht⟩

theorem validStep_holderDisappeared (name : String) :
    ValidStep app (holderDisappeared env app name) :=
  holderDisappeared_induction env name (.refl h) fun _ c ha =>
    ha.trans fun h' => validStep_releaseProfileHold h' env c

theorem validStep_driverProfileChangedCb {newProfile : PpdProfile} (hn : newProfile ≠ .unset) :
    ValidStep app (driverProfileChangedCb env app newProfile) := by
  unfold driverProfileChangedCb
  split_ifs
  · exact .refl h
  · exact (validStep_activateTargetProfile h env hn _).trans fun h' => .sendDbusEvent h' env _

theorem validStep_setPerformanceDegraded (kind : DriverKind) (degraded : String) :
    ValidStep app (setPerformanceDegraded env app kind degraded) := by
  have hk : ∀ d : PpdDriver, ValidStep app (match kind with
      | .cpu => { app with cpuDriver := some d }
      | .platform => { app with platformDriver := some d }) := fun d => by
    cases kind <;> exact .of_eq h rfl rfl rfl rfl
  unfold setPerformanceDegraded
  split
  · exact .refl h
  · dsimp only
    split_ifs
    · exact hk _
    · exact (hk _).trans fun h' => .sendDbusEvent h' env _

theorem validStep_foldl_actionUevent (action : String) (hasDpmAttr : Bool) (l : List PpdAction) :
    ValidStep app (l.foldl (actionUevent action hasDpmAttr) app) := by
  induction l generalizing app with
  | nil => exact .refl h
  | cons a rest ih =>
    refine ValidStep.trans ?_ fun h' => ih h'
    cases a with
    | amdgpuDpm p =>
      simp only [actionUevent]
      split_ifs
      · exact .of_eq h rfl rfl rfl rfl
      · exact .refl h
    | other => exact .refl h

theorem validStep_stopProfileDrivers : ValidStep app (stopProfileDrivers app) :=
  ⟨⟨(validStep_releaseAllProfileHolds h).1.1, (validStep_releaseAllProfileHolds h).1.2,
    (validStep_releaseAllProfileHolds h).1.3⟩, fun _ _ hp => nomatch hp⟩

theorem validStep_applyConfiguration : ValidStep app (applyConfiguration app).1 := by
  rcases applyConfiguration_cases app with ha | ⟨-, ha⟩ | ⟨s, -, hu, ha⟩ <;> rw [ha]
  · exact .refl h
  · exact .of_eq h rfl rfl rfl rfl
  · exact ⟨⟨hu, h.2, h.3⟩, fun ht => ht⟩

theorem profilesValid_foldl_probeBackend (backends : List Backend) :
    ProfilesValid (backends.foldl probeBackend app) := by
  induction backends generalizing app with
  | nil => exact h
  | cons b bs ih =>
    have hk := keepsProfiles_probeBackend app b
    exact ih ⟨hk.activeProfile ▸ h.1, hk.selectedProfile ▸ h.2,
      (keepsHolds_probeBackend app b).profileHolds ▸ h.3⟩

end Operations

/-- When every driver succeeds, an activation of a single profile tells every action. -/
theorem actionsTold_activateTargetProfile {env : Env} (hS : env.Succeeds) (app : PpdApp)
    {target : PpdProfile} (ht : target ≠ .unset) (reason : PpdProfileActivationReason) :
    ActionsTold (activateTargetProfile env app target reason).1 := by
  obtain ⟨calls, -, heq⟩ := activateTargetProfile_eq env app target reason
  rw [heq, activateTargetProfile_snd_of_succeeds hS]
  intro p hp
  simp only [commitProfile_actions, emit_actions, List.mem_map] at hp
  obtain ⟨a, -, ha⟩ := hp
  rw [PpdAction.eq_of_activateProfile ha]
  exact ht

/-- A start keeps the profiles valid and, when every driver succeeds, tells every action
it binds the restored profile. -/
theorem validStep_startProfileDrivers {app : PpdApp} (h : ProfilesValid app) (env : Env)
    (backends : List Backend) :
    ProfilesValid (startProfileDrivers env app backends) ∧
      (env.Succeeds → ActionsTold (startProfileDrivers env app backends)) := by
  have hp := profilesValid_foldl_probeBackend h backends
  unfold startProfileDrivers
  dsimp only
  generalize backends.foldl probeBackend app = a at hp
  have hg : ProfilesValid (if hasRequiredDrivers a then a else { a with ret := 1, loopRunning := false }) := by
    split_ifs
    exacts [hp, ⟨hp.1, hp.2, hp.3⟩]
  generalize (if hasRequiredDrivers a then a else { a with ret := 1, loopRunning := false }) = g at hg
  have ha := (validStep_applyConfiguration hg).1
  have hact := (validStep_activateTargetProfile ha env ha.1 .reset).1
  have hs := (ValidStep.sendDbusEvent hact env propAll).1
  refine ⟨⟨hs.1, hs.2, hs.3⟩, fun hS p hp => ?_⟩
  exact actionsTold_activateTargetProfile hS _ ha.1 .reset p (by simpa using hp)

theorem ValidStep.weaken {app app' : PpdApp} (h : ValidStep app app') (env : Env) :
    ProfilesValid app' ∧ (env.Succeeds → ActionsTold app → ActionsTold app') :=
  ⟨h.1, fun _ => h.2⟩

/-- Every event keeps the profiles valid and, when every driver succeeds, keeps every
action told. -/
theorem validStep_step {app : PpdApp} (h : ProfilesValid app) (env : Env) (e : Event) :
    ProfilesValid (step env app e) ∧
      (env.Succeeds → ActionsTold app → ActionsTold (step env app e)) := by
  have hs := stepCase env app e
  generalize step env app e = s at hs
  cases hs with
  | same => exact (ValidStep.refl h).weaken env
  | refuse => exact (ValidStep.reply h ..).weaken env
  | set sender value =>
    exact ((validStep_setActiveProfile h env value).trans fun h' => .reply h' ..).weaken env
  | hold sender iface profileName reason applicationId watchId =>
    exact (validStep_holdProfile h env sender iface profileName reason applicationId watchId).weaken env
  | release sender iface cookie auth =>
    exact ((validStep_releaseProfileHold h env cookie).trans fun h' => .reply h' ..).weaken env
  | vanish name => exact (validStep_holderDisappeared h env name).weaken env
  | profileChanged kind profile hp => exact (validStep_driverProfileChangedCb h env hp).weaken env
  | degraded kind degraded => exact (validStep_setPerformanceDegraded h env kind degraded).weaken env
  | restart backends =>
    obtain ⟨hv, ht⟩ := validStep_startProfileDrivers (validStep_stopProfileDrivers h).1 env backends
    exact ⟨hv, fun hS _ => ht hS⟩
  | uevent action hasDpmAttr =>
    exact (validStep_foldl_actionUevent h action hasDpmAttr app.actions).weaken env
  | quit =>
    have hs := validStep_stopProfileDrivers h
    exact ⟨⟨hs.1.1, hs.1.2, hs.1.3⟩, fun _ _ _ hp => nomatch hp⟩

theorem profilesValid_initialApp (config : KeyFile) (blockedDrivers blockedActions : List String) :
    ProfilesValid (initialApp config blockedDrivers blockedActions) :=
  ⟨nofun, nofun, fun _ he => nomatch he⟩

/-- No reachable state keeps an unset active or selected profile, and every hold it keeps
pins performance or power-saver. -/
theorem reachable_profiles_valid {env : Env} {app : PpdApp} (hr : Reachable env app) :
    ProfilesValid app := by
  induction hr with
  | start config blockedDrivers blockedActions backends =>
    exact (validStep_startProfileDrivers (profilesValid_initialApp config blockedDrivers blockedActions) env backends).1
  | step e _ _ ih => exact (validStep_step ih env e).1

theorem performanceHeld_profiles_valid :
    Reachable (Env.allSucceed "") performanceHeld ∧ ProfilesValid performanceHeld :=
  have h : Reachable (Env.allSucceed "") performanceHeld :=
    .step (.methodCall ":1.5" powerProfilesIfaceName (.holdProfile "performance" "video" "vlc" 1)
      .authorized) (.start ⟨none, none, none⟩ [] [] [.driver .cpu ppdDriverIntelPstate .success])
      (by decide)
  ⟨h, reachable_profiles_valid h⟩

/-- When every driver succeeds, every reachable state has told each `amdgpu_dpm` action a
profile. -/
theorem Reachable.actionsTold {env : Env} {app : PpdApp} (hS : env.Succeeds) (hr : Reachable env app) :
    ActionsTold app := by
  suffices ProfilesValid app ∧ ActionsTold app from this.2
  induction hr with
  | start config blockedDrivers blockedActions backends =>
    have h := validStep_startProfileDrivers (profilesValid_initialApp config blockedDrivers blockedActions) env backends
    exact ⟨h.1, h.2 hS⟩
  | step e _ _ ih =>
    have h := validStep_step ih.1 env e
    exact ⟨h.1, h.2 hS ih.2⟩

/-- The uevent handlers leave a state whose actions were all told a profile unchanged. -/
theorem foldl_actionUevent_of_told (action : String) (hasDpmAttr : Bool) (app : PpdApp)
    (l : List PpdAction) (hl : ∀ p, PpdAction.amdgpuDpm p ∈ l → p ≠ .unset) :
    l.foldl (actionUevent action hasDpmAttr) app = app := by
  induction l with
  | nil => rfl
  | cons a rest ih =>
    rw [List.foldl_cons]
    have ha : actionUevent action hasDpmAttr app a = app := by
      cases a with
      | amdgpuDpm p =>
        have hp := hl p (.head _)
        simp only [actionUevent]
        rw [if_neg]
        rintro ⟨-, -, hnone⟩
        cases p <;> simp_all [ppdActionAmdgpuDpmUpdateTarget]
      | other => rfl
    rw [ha]
    exact ih fun p hp => hl p (.tail _ hp)

/-- When every driver succeeds, a DRM hot-plug from any reachable state reaches no
assertion: it leaves the daemon as it was. -/
theorem drmUevent_of_succeeds {env : Env} {app : PpdApp} (hS : env.Succeeds) (hr : Reachable env app)
    (action : String) (hasDpmAttr : Bool) : step env app (.drmUevent action hasDpmAttr) = app := by
  unfold step
  split_ifs
  · exact foldl_actionUevent_of_told action hasDpmAttr app app.actions (hr.actionsTold hS)
  · rfl

/-- amd_pstate and an `amdgpu_dpm` action, started with nothing stored. -/
def dpmStarted : PpdApp :=
  startProfileDrivers (Env.allSucceed "") (initialApp ⟨none, none, none⟩ [] [])
    [.driver .cpu ppdDriverAmdPstate .success, .action (.amdgpuDpm .unset) .success]

theorem dpmStarted_drmUevent :
    dpmStarted.actions ≠ [] ∧ step (Env.allSucceed "") dpmStarted (.drmUevent "add" true) = dpmStarted :=
  ⟨by decide, drmUevent_of_succeeds (Env.succeeds_allSucceed "") (.start _ _ _ _) "add" true⟩

/-- The initial activation fails. -/
def resetFails : Env :=
  ⟨"", fun _ _ _ reason => if reason = .reset then .error ⟨.unmapped, "EIO"⟩ else .ok ()⟩

/-- amd_pstate and an `amdgpu_dpm` action bound, as on an AMD machine, the initial
activation failed, then a DRM device with the DPM attribute is added. -/
def hotplugAfterFailedReset : PpdApp :=
  step resetFails
    (startProfileDrivers resetFails (initialApp ⟨none, none, none⟩ [] [])
      [.driver .cpu ppdDriverAmdPstate .success, .action ppdActionAmdgpuDpm .success])
    (.drmUevent "add" true)

/-- Without the success of every driver, the hot-plug reaches `g_assert_not_reached` and the
daemon aborts. -/
theorem hotplug_after_failed_reset_asserts :
    Emission.assertionFailed "ppd_action_amdgpu_dpm_update_target" ∈ hotplugAfterFailedReset.trace ∧
      hotplugAfterFailedReset.loopRunning = false := by
  decide

end PowerProfiles
