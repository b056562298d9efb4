import PowerProfiles.Validity
import PowerProfiles.PanelSource
import PowerProfiles.CpuProbe

/-!
# The daemon and the back-ends it drives

The daemon's model records each call it makes on a back-end in its trace; the models of the
CPU drivers and of the amdgpu panel power action take the daemon's activations as events of
their power-source paths. This module joins them. From every reachable state, whatever the
drivers return, no call of the daemon on a driver or an action names `PPD_PROFILE_UNSET`: an
activation targets the selected profile, a hold's profile, a profile a driver reported or the
active one, and the CPU rollback names the previous active profile, none of them unset. When
every driver succeeds, the CPU driver was last asked for the active profile whenever it
implements it, and so was every bound action.

So intel_pstate's and amd_pstate's models, fresh from a successful probe and fed the
daemon's calls on the CPU driver in order, with any UPower and logind events between them,
end activated with the daemon's active profile, their files holding that profile's
preferences for the power source the daemon recorded; and the panel action, fed the daemon's
calls on it, stores the level of the daemon's active profile. A power-source path keeps the
back-end it started with: a deferred-probe restart, which drops the back-ends, tells them
`PPD_POWER_CHANGED_REASON_UNKNOWN` and probes them again, is not followed on it.
-/

namespace PowerProfiles

/-! ### What the daemon hands on -/

/-- The profile a call on a back-end hands on: `ppd_driver_activate_profile` or
`ppd_action_activate_profile`. -/
def Emission.profile? : Emission → Option PpdProfile
  | .driverActivateProfile _ profile _ => some profile
  | .actionActivateProfile _ profile => some profile
  | _ => none

/-- The profile of a call on the CPU driver. -/
def Emission.cpuProfile? : Emission → Option PpdProfile
  | .driverActivateProfile .cpu profile _ => some profile
  | _ => none

/-- The profile of a call on the action named `name`. -/
def Emission.actionProfile? (name : String) : Emission → Option PpdProfile
  | .actionActivateProfile actionName profile => if actionName = name then some profile else none
  | _ => none

theorem Emission.profile?_of_cpuProfile? {m : Emission} {p : PpdProfile} (h : m.cpuProfile? = some p) :
    m.profile? = some p := by
  cases m with
  | driverActivateProfile kind profile reason => cases kind <;> simp_all [Emission.cpuProfile?, Emission.profile?]
  | _ => simp [Emission.cpuProfile?] at h

theorem Emission.profile?_of_actionProfile? {m : Emission} {name : String} {p : PpdProfile}
    (h : m.actionProfile? name = some p) : m.profile? = some p := by
  cases m with
  | actionActivateProfile actionName profile =>
    by_cases hn : actionName = name <;> simp_all [Emission.actionProfile?, Emission.profile?]
  | _ => simp [Emission.actionProfile?] at h

theorem Emission.profile?_of_isPropertiesChanged {m : Emission} (h : m.isPropertiesChanged) :
    m.profile? = none := by
  cases m <;> simp_all [Emission.isPropertiesChanged, Emission.profile?]

/-- The profiles the daemon asked of its CPU driver, in order. -/
def cpuActivations (trace : List Emission) : List PpdProfile :=
  trace.filterMap Emission.cpuProfile?

theorem cpuActivations_append (t es : List Emission) :
    cpuActivations (t ++ es) = cpuActivations t ++ cpuActivations es :=
  List.filterMap_append ..

/-- Emissions that hand on no profile hand none to any one back-end. -/
theorem filterMap_eq_nil_of_profile? {f : Emission → Option PpdProfile}
    (hf : ∀ m p, f m = some p → m.profile? = some p) {es : List Emission}
    (h : ∀ m ∈ es, m.profile? = none) : es.filterMap f = [] := by
  refine List.filterMap_eq_nil_iff.mpr fun m hm => ?_
  cases hc : f m with
  | none => rfl
  | some p => cases (hf m p hc).symm.trans (h m hm)

/-- Emissions that hand on no profile ask nothing of the CPU driver. -/
theorem cpuActivations_eq_nil {es : List Emission} (h : ∀ m ∈ es, m.profile? = none) :
    cpuActivations es = [] :=
  filterMap_eq_nil_of_profile? (fun _ _ => Emission.profile?_of_cpuProfile?) h

/-- A call on the CPU driver followed by no other is the last one. -/
theorem getLast?_cpuActivations_append_cons {t es : List Emission} {p : PpdProfile}
    {r : PpdProfileActivationReason} (hes : ∀ m ∈ es, m.cpuProfile? = none) :
    (cpuActivations (t ++ .driverActivateProfile .cpu p r :: es)).getLast? = some p := by
  have hnil : es.filterMap Emission.cpuProfile? = [] := List.filterMap_eq_nil_iff.mpr hes
  simp [cpuActivations_append, cpuActivations, Emission.cpuProfile?, hnil]

/-- The profiles the daemon asked of the action named `name`, in order. -/
def actionActivations (name : String) (trace : List Emission) : List PpdProfile :=
  trace.filterMap (Emission.actionProfile? name)

theorem actionActivations_append (name : String) (t es : List Emission) :
    actionActivations name (t ++ es) = actionActivations name t ++ actionActivations name es :=
  List.filterMap_append ..

theorem actionActivations_eq_nil {name : String} {es : List Emission} (h : ∀ m ∈ es, m.profile? = none) :
    actionActivations name es = [] :=
  filterMap_eq_nil_of_profile? (fun _ _ => Emission.profile?_of_actionProfile?) h

/-- `actions_activate_profile` tells every action `p`; followed by calls that hand on nothing,
it leaves each action's last call asking for `p`. -/
theorem getLast?_actionActivations_tell {t es : List Emission} {actions : List PpdAction}
    {p : PpdProfile} {name : String} (hn : name ∈ actions.map PpdAction.actionName)
    (hes : ∀ m ∈ es, m.profile? = none) :
    (actionActivations name
      (t ++ actions.map (fun a => .actionActivateProfile a.actionName p) ++ es)).getLast? = some p := by
  have hall : ∀ q ∈ actionActivations name (actions.map fun a => .actionActivateProfile a.actionName p),
      q = p := by
    intro q hq
    obtain ⟨m, hm, hq⟩ := List.mem_filterMap.mp hq
    obtain ⟨a, -, rfl⟩ := List.mem_map.mp hm
    exact Option.some.inj (Emission.profile?_of_actionProfile? hq).symm
  have hmem : p ∈ actionActivations name (actions.map fun a => .actionActivateProfile a.actionName p) := by
    obtain ⟨a, ha, rfl⟩ := List.mem_map.mp hn
    exact List.mem_filterMap.mpr ⟨_, List.mem_map_of_mem _ ha, if_pos rfl⟩
  have hne := List.ne_nil_of_mem hmem
  rw [actionActivations_append, actionActivations_append, actionActivations_eq_nil hes, List.append_nil,
    List.getLast?_append_of_ne_nil _ hne, List.getLast?_eq_getLast _ hne, hall _ (List.getLast_mem hne)]

/-- Every call in a trace hands on a single profile. -/
def CallsSingle (trace : List Emission) : Prop :=
  ∀ m ∈ trace, m.profile? ≠ some .unset

theorem CallsSingle.append {t es : List Emission} (h : CallsSingle t)
    (hes : ∀ m ∈ es, m.profile? ≠ some .unset) : CallsSingle (t ++ es) := fun m hm =>
  (List.mem_append.mp hm).elim (h m) (hes m)

/-- What the daemon has told its back-ends: every call hands on a single profile, and, when
every driver succeeds, the CPU driver's last call asked for the active profile whenever the
driver implements it, and so did each bound action's. -/
structure DriverView (env : Env) (app : PpdApp) : Prop where
  single : CallsSingle app.trace
  cpuTold : env.Succeeds → driverProfileSupport app.cpuDriver app.activeProfile.mask →
    (cpuActivations app.trace).getLast? = some app.activeProfile
  actionsTold : env.Succeeds → ∀ name ∈ app.actions.map PpdAction.actionName,
    (actionActivations name app.trace).getLast? = some app.activeProfile

namespace DriverView

variable {env : Env} {app app' : PpdApp}

/-- Emissions that hand on no profile keep the view, when the active profile stays, the
CPU slot gains no profile and no action is bound under a new name. -/
theorem frame (h : DriverView env app) (es : List Emission) (htrace : app'.trace = app.trace ++ es)
    (hes : ∀ m ∈ es, m.profile? = none) (hact : app'.activeProfile = app.activeProfile)
    (hcpu : driverProfileSupport app'.cpuDriver app.activeProfile.mask →
      driverProfileSupport app.cpuDriver app.activeProfile.mask)
    (hnames : app'.actions.map PpdAction.actionName ⊆ app.actions.map PpdAction.actionName) :
    DriverView env app' := by
  refine ⟨?_, fun hS hsup => ?_, fun hS name hn => ?_⟩
  · rw [htrace]
    exact h.single.append fun m hm => by simp [hes m hm]
  · rw [htrace, cpuActivations_append, cpuActivations_eq_nil hes, List.append_nil, hact]
    exact h.cpuTold hS (hcpu (hact ▸ hsup))
  · rw [htrace, actionActivations_append, actionActivations_eq_nil hes, List.append_nil, hact]
    exact h.actionsTold hS name (hnames hn)

theorem of_eq (h : DriverView env app) (htrace : app'.trace = app.trace)
    (hact : app'.activeProfile = app.activeProfile) (hcpu : app'.cpuDriver = app.cpuDriver)
    (hactions : app'.actions = app.actions) : DriverView env app' :=
  h.frame [] (by rw [htrace, List.append_nil]) (fun _ h => nomatch h) hact (by rw [hcpu]; exact id)
    (hactions ▸ List.Subset.refl _)

end DriverView

/-- An activation appends calls for the target or, in the CPU rollback, for the active
profile, and on success the actions' calls for the target and maybe a key-file save. -/
theorem activateTargetProfile_profiles (env : Env) (app : PpdApp) (target : PpdProfile)
    (reason : PpdProfileActivationReason) :
    ∃ es, (activateTargetProfile env app target reason).1.trace = app.trace ++ es ∧
      ∀ m ∈ es, m.profile? = none ∨ m.profile? = some target ∨ m.profile? = some app.activeProfile := by
  obtain ⟨calls, hcalls, heq⟩ := activateTargetProfile_eq env app target reason
  have hc : ∀ m ∈ calls, m.profile? = some target ∨ m.profile? = some app.activeProfile := by
    intro m hm
    cases m with
    | driverActivateProfile kind profile r =>
      rcases hcalls _ hm with ⟨rfl, -⟩ | ⟨-, rfl, -⟩
      exacts [.inl rfl, .inr rfl]
    | _ => exact False.elim (hcalls _ hm)
  rw [heq]
  split
  · rw [commitProfile_trace_eq, emit_trace, emit_actions, List.append_assoc, List.append_assoc]
    refine ⟨_, rfl, fun m hm => ?_⟩
    rcases List.mem_append.mp hm with hm | hm
    · exact .inr (hc m hm)
    rcases List.mem_append.mp hm with hm | hm
    · obtain ⟨a, -, rfl⟩ := List.mem_map.mp hm
      exact .inr (.inl rfl)
    · split_ifs at hm <;> simp_all [Emission.profile?]
  · exact ⟨calls, rfl, fun m hm => .inr (hc m hm)⟩

/-- An activation of a single profile, from a single active profile and a trace of single
calls, keeps every call single; when every driver succeeds it leaves the CPU driver last
asked for the new active profile whenever it implements it, and every bound action last asked
for it, whatever they were asked before. -/
theorem driverView_activateTargetProfile (env : Env) {app : PpdApp} (h : CallsSingle app.trace)
    (hact : app.activeProfile ≠ .unset) {target : PpdProfile} (ht : target ≠ .unset)
    (reason : PpdProfileActivationReason) : DriverView env (activateTargetProfile env app target reason).1 := by
  refine ⟨?_, fun hS => ?_, fun hS => ?_⟩
  · obtain ⟨es, hes, hm⟩ := activateTargetProfile_profiles env app target reason
    rw [hes]
    refine h.append fun m hmem => ?_
    rcases hm m hmem with h1 | h1 | h1 <;> rw [h1]
    · exact nofun
    · exact fun h2 => ht (Option.some.inj h2)
    · exact fun h2 => hact (Option.some.inj h2)
  all_goals
    obtain ⟨-, hr⟩ := (activateTargetProfile_outcome env app target reason).resolve_right
      fun ⟨_, hne, _⟩ => hne (activateTargetProfile_snd_of_succeeds hS app target reason)
    rw [hr, commitProfile_activeProfile, commitProfile_trace_eq, emit_trace, emit_actions]
  · intro hsup
    simp only [commitProfile_cpuDriver, emit_cpuDriver] at hsup
    have hcpu : driverCall app .cpu target reason = [.driverActivateProfile .cpu target reason] :=
      if_pos hsup
    rw [hcpu, List.append_assoc, List.append_assoc, List.singleton_append, List.cons_append]
    refine getLast?_cpuActivations_append_cons fun m hm => ?_
    simp only [List.mem_append, List.mem_map, driverCall] at hm
    rcases hm with hm | ⟨a, -, rfl⟩ | hm
    · split_ifs at hm <;> simp_all [Emission.cpuProfile?]
    · rfl
    · split_ifs at hm <;> simp_all [Emission.cpuProfile?]
  · intro name hn
    simp only [commitProfile_actions, emit_actions, List.map_map] at hn
    refine getLast?_actionActivations_tell (by simpa [Function.comp_def] using hn) fun m hm => ?_
    split_ifs at hm <;> simp_all [Emission.profile?]

/-! ### Each operation keeps the view -/

section Operations

variable {env : Env} {app : PpdApp}

theorem driverView_reply (h : DriverView env app) (dest : String) (r : Except GError (Option GVariant)) :
    DriverView env (app.reply dest r) :=
  h.frame [.methodReply dest r] rfl (by simp [Emission.profile?]) rfl id (List.Subset.refl _)

theorem driverView_sendDbusEvent (h : DriverView env app) (m : PropertiesMask) :
    DriverView env (sendDbusEvent env app m) := by
  obtain ⟨es, hes, hm⟩ := sendDbusEvent_trace env app m
  exact h.frame es hes (fun e he => Emission.profile?_of_isPropertiesChanged (hm e he)) (by simp)
    (by simp) (by simp)

theorem driverView_releaseAllProfileHolds (h : DriverView env app) :
    DriverView env (releaseAllProfileHolds app) := by
  rw [releaseAllProfileHolds_eq]
  refine h.frame _ rfl (fun m hm => ?_) rfl id (List.Subset.refl _)
  obtain ⟨e, -, rfl⟩ := List.mem_map.mp hm
  rfl

theorem driverView_stopProfileDrivers (h : DriverView env app) : DriverView env (stopProfileDrivers app) :=
  (driverView_releaseAllProfileHolds h).frame [] (List.append_nil _).symm (fun _ h => nomatch h) rfl
    (fun hs => nomatch hs) fun _ h => nomatch h

theorem driverView_setActiveProfile (hv : ProfilesValid app) (h : DriverView env app) (profile : String) :
    DriverView env (setActiveProfile env app profile).1 := by
  have hc := setActiveProfileCase env app profile
  generalize setActiveProfile env app profile = r at hc
  have hr := (driverView_releaseAllProfileHolds h).single
  have hra := (validStep_releaseAllProfileHolds hv).1.1
  cases hc with
  | invalid | unavailable | same => exact h
  | failed hu => exact driverView_activateTargetProfile env hr hra hu .user
  | switched hu =>
    dsimp only
    refine driverView_sendDbusEvent ?_ _
    exact (driverView_activateTargetProfile env hr hra hu .user).of_eq rfl rfl rfl rfl

theorem driverView_holdProfileActivate (hact : app.activeProfile ≠ .unset) (h : DriverView env app)
    (profile : PpdProfile) : DriverView env (holdProfileActivate env app profile).1 := by
  unfold holdProfileActivate
  dsimp only
  split_ifs with _ ht
  · exact driverView_activateTargetProfile env h.single hact ht.1 _
  · exact h
  · exact h

theorem driverView_holdProfile (hv : ProfilesValid app) (h : DriverView env app)
    (sender iface profileName reason applicationId : String) (watchId : Nat) :
    DriverView env (holdProfile env app sender iface profileName reason applicationId watchId) := by
  unfold holdProfile
  dsimp only
  split_ifs
  · exact driverView_reply h ..
  · exact driverView_reply h ..
  refine driverView_sendDbusEvent (driverView_holdProfileActivate ?_ (driverView_reply ?_ _ _) _) _
  · exact hv.1
  · exact h.of_eq rfl rfl rfl rfl

theorem driverView_releaseProfileHoldActivate (hact : app.activeProfile ≠ .unset)
    (hsel : app.selectedProfile ≠ .unset) (h : DriverView env app) (holdProfile : PpdProfile) :
    DriverView env (releaseProfileHoldActivate env app holdProfile).1 := by
  unfold releaseProfileHoldActivate
  dsimp only
  split_ifs with _ _ ht
  · exact driverView_activateTargetProfile env h.single hact hsel _
  · exact driverView_activateTargetProfile env h.single hact ht.1 _
  · exact h
  · exact h

theorem driverView_releaseProfileHold (hv : ProfilesValid app) (h : DriverView env app) (cookie : Nat) :
    DriverView env (releaseProfileHold env app cookie) := by
  unfold releaseProfileHold
  split
  · exact h
  refine driverView_sendDbusEvent (driverView_releaseProfileHoldActivate ?_ ?_ ?_ _) _
  · exact hv.1
  · exact hv.2
  · exact h.frame [releaseSignal _ _] rfl (by simp [releaseSignal, Emission.profile?]) rfl id
      (List.Subset.refl _)

theorem driverView_holderDisappeared (hv : ProfilesValid app) (h : DriverView env app) (name : String) :
    DriverView env (holderDisappeared env app name) :=
  (holderDisappeared_induction env name (P := fun a => ProfilesValid a ∧ DriverView env a) ⟨hv, h⟩
    fun _ c ha => ⟨(validStep_releaseProfileHold ha.1 env c).1, driverView_releaseProfileHold ha.1 ha.2 c⟩).2

theorem driverView_driverProfileChangedCb (hv : ProfilesValid app) (h : DriverView env app)
    {newProfile : PpdProfile} (hn : newProfile ≠ .unset) :
    DriverView env (driverProfileChangedCb env app newProfile) := by
  unfold driverProfileChangedCb
  split_ifs
  · exact h
  · exact driverView_sendDbusEvent (driverView_activateTargetProfile env h.single hv.1 hn _) _

theorem driverView_setPerformanceDegraded (h : DriverView env app) (kind : DriverKind) (degraded : String) :
    DriverView env (setPerformanceDegraded env app kind degraded) := by
  have hk : ∀ d : PpdDriver, (∃ d', app.driverOf kind = some d' ∧ d'.profiles = d.profiles) →
      DriverView env (match kind with
        | .cpu => { app with cpuDriver := some d }
        | .platform => { app with platformDriver := some d }) := fun d ⟨d', hd', hp⟩ => by
    cases kind
    · refine h.frame [] (List.append_nil _).symm (fun _ h => nomatch h) rfl (fun hs => ?_) (List.Subset.refl _)
      have hcd : app.cpuDriver = some d' := hd'
      rw [hcd]
      simpa [hp] using hs
    · exact h.of_eq rfl rfl rfl rfl
  unfold setPerformanceDegraded
  split
  · exact h
  rename_i driver hd
  dsimp only
  split_ifs
  · exact hk _ ⟨driver, hd, rfl⟩
  · refine driverView_sendDbusEvent (hk _ ⟨driver, hd, ?_⟩) _
    rfl

theorem driverView_foldl_actionUevent (action : String) (hasDpmAttr : Bool) (l : List PpdAction)
    (h : DriverView env app) : DriverView env (l.foldl (actionUevent action hasDpmAttr) app) := by
  induction l generalizing app with
  | nil => exact h
  | cons a rest ih =>
    refine ih ?_
    cases a with
    | amdgpuDpm p =>
      simp only [actionUevent]
      split_ifs
      · exact h.frame [.assertionFailed _] rfl (by simp [Emission.profile?]) rfl id (List.Subset.refl _)
      · exact h
    | other => exact h

theorem probeBackend_trace (app : PpdApp) (b : Backend) : (probeBackend app b).trace = app.trace := by
  unfold probeBackend
  split <;> (repeat' split) <;> rfl

theorem foldl_probeBackend_trace (backends : List Backend) (app : PpdApp) :
    (backends.foldl probeBackend app).trace = app.trace := by
  induction backends generalizing app with
  | nil => rfl
  | cons b bs ih => exact (ih (probeBackend app b)).trans (probeBackend_trace app b)

theorem applyConfiguration_trace (app : PpdApp) : (applyConfiguration app).1.trace = app.trace := by
  rcases applyConfiguration_cases app with h | ⟨-, h⟩ | ⟨_, -, -, h⟩ <;> rw [h]

/-- A start from a trace of single calls keeps every call single and, when every driver
succeeds, leaves the CPU driver it binds last asked for the profile it makes active. -/
theorem driverView_startProfileDrivers (hv : ProfilesValid app) (h : CallsSingle app.trace)
    (env : Env) (backends : List Backend) : DriverView env (startProfileDrivers env app backends) := by
  have hp := profilesValid_foldl_probeBackend hv backends
  have ht := foldl_probeBackend_trace backends app
  unfold startProfileDrivers
  dsimp only
  generalize backends.foldl probeBackend app = a at hp ht
  have hg : ProfilesValid (if hasRequiredDrivers a then a else { a with ret := 1, loopRunning := false }) ∧
      (if hasRequiredDrivers a then a else { a with ret := 1, loopRunning := false }).trace = a.trace := by
    split_ifs
    exacts [⟨hp, rfl⟩, ⟨⟨hp.1, hp.2, hp.3⟩, rfl⟩]
  generalize (if hasRequiredDrivers a then a else { a with ret := 1, loopRunning := false }) = g at hg
  have ha := (validStep_applyConfiguration hg.1).1
  have hs : CallsSingle (applyConfiguration g).1.trace := by
    rw [applyConfiguration_trace, hg.2, ht]
    exact h
  exact (driverView_sendDbusEvent (driverView_activateTargetProfile env hs ha.1 ha.1 .reset) propAll).of_eq
    rfl rfl rfl rfl

/-- Every event keeps the view, from a state whose profiles are valid. -/
theorem driverView_step (hv : ProfilesValid app) (h : DriverView env app) (e : Event) :
    DriverView env (step env app e) := by
  have hs := stepCase env app e
  generalize step env app e = s at hs
  cases hs with
  | same => exact h
  | refuse => exact driverView_reply h ..
  | set sender value => exact driverView_reply (driverView_setActiveProfile hv h value) ..
  | hold sender iface profileName reason applicationId watchId =>
    exact driverView_holdProfile hv h sender iface profileName reason applicationId watchId
  | release sender iface cookie auth => exact driverView_reply (driverView_releaseProfileHold hv h cookie) ..
  | vanish name => exact driverView_holderDisappeared hv h name
  | profileChanged kind profile hp => exact driverView_driverProfileChangedCb hv h hp
  | degraded kind degraded => exact driverView_setPerformanceDegraded h kind degraded
  | restart backends =>
    exact driverView_startProfileDrivers (validStep_stopProfileDrivers hv).1
      (driverView_stopProfileDrivers h).single env backends
  | uevent action hasDpmAttr => exact driverView_foldl_actionUevent action hasDpmAttr app.actions h
  | quit => exact (driverView_stopProfileDrivers h).of_eq rfl rfl rfl rfl

end Operations

/-- Every reachable state keeps its profiles valid and the view of its back-ends. -/
theorem Reachable.profilesValid_driverView {env : Env} {app : PpdApp} (hr : Reachable env app) :
    ProfilesValid app ∧ DriverView env app := by
  induction hr with
  | start config blockedDrivers blockedActions backends =>
    have hv := profilesValid_initialApp config blockedDrivers blockedActions
    exact ⟨(validStep_startProfileDrivers hv env backends).1,
      driverView_startProfileDrivers hv (fun _ hm => nomatch hm) env backends⟩
  | step e _ _ ih => exact ⟨(validStep_step ih.1 env e).1, driverView_step ih.1 ih.2 e⟩

/-- From every reachable state, whatever the drivers return, no call the daemon made on a
driver or an action names `PPD_PROFILE_UNSET`. -/
theorem reachable_calls_single {env : Env} {app : PpdApp} (hr : Reachable env app) :
    ∀ m ∈ app.trace, m.profile? ≠ some .unset :=
  hr.profilesValid_driverView.2.single

theorem rollbackRun_calls_single :
    Reachable platformRefusesBalanced rollbackRun ∧ ∀ m ∈ rollbackRun.trace, m.profile? ≠ some .unset :=
  have hr : Reachable platformRefusesBalanced rollbackRun :=
    .step (.setProperty ":1.7" "ActiveProfile" "balanced" .authorized)
      (.step (.setProperty ":1.7" "ActiveProfile" "performance" .authorized)
        (.start ⟨none, none, none⟩ [] []
          [.driver .cpu cpuWithoutPerformance .success, .driver .platform platformWithAll .success])
        trivial) trivial
  ⟨hr, reachable_calls_single hr⟩

/-- When every driver succeeds, in every reachable state whose CPU driver implements the
active profile, the last call on the CPU driver asked for that profile. -/
theorem reachable_cpu_last_activation {env : Env} {app : PpdApp} (hS : env.Succeeds)
    (hr : Reachable env app) (hsup : driverProfileSupport app.cpuDriver app.activeProfile.mask) :
    (cpuActivations app.trace).getLast? = some app.activeProfile :=
  hr.profilesValid_driverView.2.cpuTold hS hsup

theorem performanceHeld_reachable : Reachable (Env.allSucceed "") performanceHeld :=
  .step (.methodCall ":1.5" powerProfilesIfaceName (.holdProfile "performance" "video" "vlc" 1) .authorized)
    (.start ⟨none, none, none⟩ [] [] [.driver .cpu ppdDriverIntelPstate .success]) (by decide)

theorem performanceHeld_cpu_last_activation :
    (Env.allSucceed "").Succeeds ∧ Reachable (Env.allSucceed "") performanceHeld ∧
      driverProfileSupport performanceHeld.cpuDriver performanceHeld.activeProfile.mask ∧
      (cpuActivations performanceHeld.trace).getLast? = some performanceHeld.activeProfile :=
  have hsup : driverProfileSupport performanceHeld.cpuDriver performanceHeld.activeProfile.mask := by
    decide
  ⟨Env.succeeds_allSucceed "", performanceHeld_reachable, hsup,
    reachable_cpu_last_activation (Env.succeeds_allSucceed "") performanceHeld_reachable hsup⟩

/-- amd_pstate and the amdgpu panel power action bound; the user then selects power-saver. -/
def panelPowerSaver : PpdApp :=
  step (Env.allSucceed "")
    (startProfileDrivers (Env.allSucceed "") (initialApp ⟨none, none, none⟩ [] [])
      [.driver .cpu ppdDriverAmdPstate .success, .action ppdActionAmdgpuPanelPower .success])
    (.setProperty ":1.7" "ActiveProfile" "power-saver" .authorized)

/-- When every driver succeeds, in every reachable state, each bound action was last asked
for the active profile. -/
theorem reachable_action_last_activation {env : Env} {app : PpdApp} (hS : env.Succeeds)
    (hr : Reachable env app) {action : PpdAction} (ha : action ∈ app.actions) :
    (actionActivations action.actionName app.trace).getLast? = some app.activeProfile :=
  hr.profilesValid_driverView.2.actionsTold hS _ (List.mem_map_of_mem _ ha)

theorem panelPowerSaver_reachable : Reachable (Env.allSucceed "") panelPowerSaver :=
  .step (.setProperty ":1.7" "ActiveProfile" "power-saver" .authorized)
    (.start ⟨none, none, none⟩ [] []
      [.driver .cpu ppdDriverAmdPstate .success, .action ppdActionAmdgpuPanelPower .success])
    trivial

theorem panelPowerSaver_action_last_activation :
    (Env.allSucceed "").Succeeds ∧ Reachable (Env.allSucceed "") panelPowerSaver ∧
      ppdActionAmdgpuPanelPower ∈ panelPowerSaver.actions ∧
      (actionActivations ppdActionAmdgpuPanelPower.actionName panelPowerSaver.trace).getLast? =
        some panelPowerSaver.activeProfile :=
  have hpanel : ppdActionAmdgpuPanelPower ∈ panelPowerSaver.actions := by decide
  ⟨Env.succeeds_allSucceed "", panelPowerSaver_reachable, hpanel,
    reachable_action_last_activation (Env.succeeds_allSucceed "") panelPowerSaver_reachable hpanel⟩

/-! ### The CPU driver follows the daemon -/

/-- A driver that implements every profile implements each single one. -/
theorem ppdProfileAll_meets {p : PpdProfile} (hp : p ≠ .unset) : ppdProfileAll.meets p.mask = true := by
  cases p <;> first | exact absurd rfl hp | rfl

/-- A power-source path whose activations are the daemon's calls on the CPU driver never asks
for `PPD_PROFILE_UNSET`. -/
theorem activate_ne_unset_of_cpuActivations {env : Env} {app : PpdApp} (hr : Reachable env app)
    {events : List PowerEvent} (hacts : events.filterMap PowerEvent.profile? = cpuActivations app.trace) :
    ∀ e ∈ events, e ≠ .activate .unset := by
  rintro e he rfl
  have hmem : PpdProfile.unset ∈ cpuActivations app.trace := hacts ▸ List.mem_filterMap.mpr ⟨_, he, rfl⟩
  obtain ⟨m, hm, hcp⟩ := List.mem_filterMap.mp hmem
  exact hr.profilesValid_driverView.2.single m hm (Emission.profile?_of_cpuProfile? hcp)

/-- When every driver succeeds, in every reachable state of the daemon with intel_pstate
bound, intel_pstate's model, fresh from a successful probe on a machine where no sysfs write
fails and every read of a file that exists succeeds, and fed the daemon's calls on the CPU
driver in order with any UPower and logind events between them, accepts every call and ends
activated with the daemon's active profile, its EPP and EPB files holding that profile's
preferences for the power source the daemon recorded. -/
theorem PowerPath.intel_follows_daemon {env : Env} {app : PpdApp} (hS : env.Succeeds)
    (hr : Reachable env app) (hcpu : app.cpuDriver = some ppdDriverIntelPstate)
    (listDir : String → Option (List String)) (s : SysfsState)
    (hprobe : (IntelPstate.probe noWriteFailures listDir s).2.2.1 = .success) (events : List PowerEvent)
    (hacts : events.filterMap PowerEvent.profile? = cpuActivations app.trace) :
    (∀ x ∈ ((PowerPath.intelStart listDir s).run (IntelPstate.call noWriteFailures) events).2,
      x.2 = .ok ()) ∧
    ((PowerPath.intelStart listDir s).run (IntelPstate.call noWriteFailures) events).1.driver.activatedProfile =
      app.activeProfile ∧
    ((PowerPath.intelStart listDir s).run (IntelPstate.call noWriteFailures) events).1.IntelFollows := by
  obtain ⟨hv, hview⟩ := hr.profilesValid_driverView
  have hok := PowerPath.run_ready (IntelPstate.call noWriteFailures) IntelPstate.Ready
    (fun d s c hc h => ⟨IntelPstate.call_ready noWriteFailures d s c h, IntelPstate.call_ok_of_ready d s h hc⟩)
    events (PowerPath.intelStart listDir s) (activate_ne_unset_of_cpuActivations hr hacts)
    (IntelPstate.probe_ready noWriteFailures listDir s hprobe).1
  refine ⟨hok, ?_, PowerPath.intel_run_follows noWriteFailures events _
    (IntelPstate.probe_disjoint noWriteFailures listDir s) rfl (fun h => (h rfl).elim) hok⟩
  rw [PowerPath.run_activated (IntelPstate.call noWriteFailures) IntelPstate.activatedProfile
    (IntelPstate.call_ok_activated noWriteFailures) events _ hok, hacts,
    hview.cpuTold hS (by rw [hcpu]; exact ppdProfileAll_meets hv.1)]
  rfl

/-- UPower on AC, the start's activation of balanced, the cable pulled, a suspend and a
resume, then the hold's activation of performance: the calls of `performanceHeld` on
intel_pstate, with UPower and logind between them. -/
def performanceHeldPath : List PowerEvent :=
  [.onBattery (some false), .activate .balanced, .onBattery (some true), .prepareForSleep true,
    .prepareForSleep false, .activate .performance]

theorem performanceHeld_intel_follows_daemon :
    (Env.allSucceed "").Succeeds ∧ Reachable (Env.allSucceed "") performanceHeld ∧
      performanceHeld.cpuDriver = some ppdDriverIntelPstate ∧
      (IntelPstate.probe noWriteFailures intelMachineDirs intelMachineTree).2.2.1 = .success ∧
      performanceHeldPath.filterMap PowerEvent.profile? = cpuActivations performanceHeld.trace ∧
      ((∀ x ∈ ((PowerPath.intelStart intelMachineDirs intelMachineTree).run
          (IntelPstate.call noWriteFailures) performanceHeldPath).2, x.2 = .ok ()) ∧
        ((PowerPath.intelStart intelMachineDirs intelMachineTree).run (IntelPstate.call noWriteFailures)
          performanceHeldPath).1.driver.activatedProfile = performanceHeld.activeProfile ∧
        ((PowerPath.intelStart intelMachineDirs intelMachineTree).run (IntelPstate.call noWriteFailures)
          performanceHeldPath).1.IntelFollows) :=
  have hcpu : performanceHeld.cpuDriver = some ppdDriverIntelPstate := by decide
  have hprobe : (IntelPstate.probe noWriteFailures intelMachineDirs intelMachineTree).2.2.1 = .success := by
    decide
  have hacts : performanceHeldPath.filterMap PowerEvent.profile? = cpuActivations performanceHeld.trace := by
    decide
  ⟨Env.succeeds_allSucceed "", performanceHeld_reachable, hcpu, hprobe, hacts,
    PowerPath.intel_follows_daemon (Env.succeeds_allSucceed "") performanceHeld_reachable hcpu intelMachineDirs
      intelMachineTree hprobe performanceHeldPath hacts⟩

/-- When every driver succeeds, in every reachable state of the daemon with amd_pstate bound,
amd_pstate's model, fresh from a successful probe on a machine where no sysfs write fails,
every read of a file that exists succeeds and every listed policy directory with an EPP file
has the attributes amd_pstate writes, and fed the daemon's calls on the CPU driver in order
with any UPower and logind events between them, accepts every call and ends activated with
the daemon's active profile, every policy directory holding that profile's governor, EPP,
boost and minimum frequency for the power source the daemon recorded. -/
theorem PowerPath.amd_follows_daemon {env : Env} {app : PpdApp} (hS : env.Succeeds)
    (hr : Reachable env app) (hcpu : app.cpuDriver = some ppdDriverAmdPstate)
    (listDir : String → Option (List String)) (s : SysfsState)
    (hprobe : (AmdPstate.probe noWriteFailures listDir s).2.2 = .success)
    (hmachine : ∀ dirnames, listDir cpufreqPolicyDir = some dirnames → ∀ d ∈ dirnames,
      (s.tree (eppPath d)).isSome → amdPolicyReady s (buildFilename cpufreqPolicyDir d))
    (events : List PowerEvent) (hacts : events.filterMap PowerEvent.profile? = cpuActivations app.trace) :
    (∀ x ∈ ((PowerPath.amdStart listDir s).run (AmdPstate.call noWriteFailures) events).2,
      x.2 = .ok ()) ∧
    ((PowerPath.amdStart listDir s).run (AmdPstate.call noWriteFailures) events).1.driver.activatedProfile =
      app.activeProfile ∧
    ((PowerPath.amdStart listDir s).run (AmdPstate.call noWriteFailures) events).1.AmdFollows := by
  obtain ⟨hv, hview⟩ := hr.profilesValid_driverView
  have hok := PowerPath.run_ready (AmdPstate.call noWriteFailures) AmdPstate.Ready
    (fun d s c hc h => ⟨AmdPstate.call_ready noWriteFailures d s c h, AmdPstate.call_ok_of_ready d s h hc⟩)
    events (PowerPath.amdStart listDir s) (activate_ne_unset_of_cpuActivations hr hacts)
    (AmdPstate.probe_ready noWriteFailures listDir s hprobe hmachine)
  obtain ⟨-, -, -, -, devices, hp, -⟩ := AmdPstate.probe_success noWriteFailures listDir s hprobe
  have hstart : (PowerPath.amdStart listDir s).driver = ⟨.unset, some devices, false⟩ := hp
  refine ⟨hok, ?_, PowerPath.amd_run_follows noWriteFailures events _ (by rw [hstart]; rfl)
    (fun h => absurd (by rw [hstart]) h) hok⟩
  rw [PowerPath.run_activated (AmdPstate.call noWriteFailures) AmdPstate.activatedProfile
    (AmdPstate.call_ok_activated noWriteFailures) events _ hok, hacts,
    hview.cpuTold hS (by rw [hcpu]; exact ppdProfileAll_meets hv.1)]
  rfl

/-- UPower on battery, the start's activation of balanced, then UPower gone: the call of
`dpmStarted` on amd_pstate, with UPower around it. -/
def dpmStartedPath : List PowerEvent :=
  [.onBattery (some true), .activate .balanced, .upowerVanished]

theorem dpmStarted_amd_follows_daemon :
    (Env.allSucceed "").Succeeds ∧ Reachable (Env.allSucceed "") dpmStarted ∧
      dpmStarted.cpuDriver = some ppdDriverAmdPstate ∧
      (AmdPstate.probe noWriteFailures amdMachineDirs amdMachineTree).2.2 = .success ∧
      (∀ dirnames, amdMachineDirs cpufreqPolicyDir = some dirnames → ∀ d ∈ dirnames,
        (amdMachineTree.tree (eppPath d)).isSome →
          amdPolicyReady amdMachineTree (buildFilename cpufreqPolicyDir d)) ∧
      dpmStartedPath.filterMap PowerEvent.profile? = cpuActivations dpmStarted.trace ∧
      ((∀ x ∈ ((PowerPath.amdStart amdMachineDirs amdMachineTree).run
          (AmdPstate.call noWriteFailures) dpmStartedPath).2, x.2 = .ok ()) ∧
        ((PowerPath.amdStart amdMachineDirs amdMachineTree).run (AmdPstate.call noWriteFailures)
          dpmStartedPath).1.driver.activatedProfile = dpmStarted.activeProfile ∧
        ((PowerPath.amdStart amdMachineDirs amdMachineTree).run (AmdPstate.call noWriteFailures)
          dpmStartedPath).1.AmdFollows) :=
  have hr : Reachable (Env.allSucceed "") dpmStarted :=
    .start ⟨none, none, none⟩ [] []
      [.driver .cpu ppdDriverAmdPstate .success, .action (.amdgpuDpm .unset) .success]
  have hcpu : dpmStarted.cpuDriver = some ppdDriverAmdPstate := by decide
  have hprobe : (AmdPstate.probe noWriteFailures amdMachineDirs amdMachineTree).2.2 = .success := by
    decide
  have hacts : dpmStartedPath.filterMap PowerEvent.profile? = cpuActivations dpmStarted.trace := by
    decide
  ⟨Env.succeeds_allSucceed "", hr, hcpu, hprobe, amdMachine_policiesReady, hacts,
    PowerPath.amd_follows_daemon (Env.succeeds_allSucceed "") hr hcpu amdMachineDirs amdMachineTree hprobe
      amdMachine_policiesReady dpmStartedPath hacts⟩

/-! ### The panel action follows the daemon -/

/-- When every driver succeeds, in every reachable state of the daemon with the amdgpu panel
power action bound, the action's model, started as the daemon starts it and fed the daemon's
calls on the action in order with any UPower and logind events and hot-plugs between them,
stores, along a run in which each call on it succeeds and once UPower has reported a power
source it has not withdrawn, the panel level `amdgpuPanelTarget` gives for that source, the
daemon's active profile and the last battery percentage. -/
theorem PanelPath.level_follows_daemon {env : Env} {app : PpdApp} (hS : env.Succeeds)
    (hr : Reachable env app) (hpanel : ppdActionAmdgpuPanelPower ∈ app.actions)
    (fails : Nat → Option String) (s : SysfsState) (events : List PanelEvent)
    (hacts : (events.filterMap PanelEvent.power?).filterMap PowerEvent.profile? =
      actionActivations ppdActionAmdgpuPanelPower.actionName app.trace)
    (hok : ∀ x ∈ ((⟨.unknown, .init, s⟩ : PanelPath).run fails events).2, x.2 = .ok ())
    (hup : lastCarried PowerEvent.reason? events .unknown ≠ .unknown) :
    ((⟨.unknown, .init, s⟩ : PanelPath).run fails events).1.action.panelPowerSaving =
      amdgpuPanelTarget (onBatteryOfReason (lastCarried PowerEvent.reason? events .unknown))
        app.activeProfile (lastCarried PowerEvent.level? events 0) := by
  obtain ⟨hreason, hl, hp⟩ := PanelPath.run_history fails events ⟨.unknown, .init, s⟩
  have hlast : lastCarried PowerEvent.profile? events .unset = app.activeProfile := by
    rw [lastCarried, hacts, hr.profilesValid_driverView.2.actionsTold hS _ (List.mem_map_of_mem _ hpanel)]
    rfl
  rw [← hreason] at hup ⊢
  rw [PanelPath.run_level_recorded fails events _ (PanelPath.mirrors_start s) AmdgpuPanelPower.panelInv_init
    hok hup, hl, hp, ← hlast]
  rfl

/-- The start's activation of balanced, then the evening of `panelEvening`, whose power-saver
is the user's choice. -/
def panelDay : List PanelEvent :=
  .power (.activate .balanced) [⟨panelConnector, some "drm_connector"⟩] :: panelEvening

theorem panelPowerSaver_level_follows_daemon :
    (Env.allSucceed "").Succeeds ∧ Reachable (Env.allSucceed "") panelPowerSaver ∧
      ppdActionAmdgpuPanelPower ∈ panelPowerSaver.actions ∧
      (panelDay.filterMap PanelEvent.power?).filterMap PowerEvent.profile? =
        actionActivations ppdActionAmdgpuPanelPower.actionName panelPowerSaver.trace ∧
      (∀ x ∈ ((⟨.unknown, .init, panelTree⟩ : PanelPath).run (fun _ => none) panelDay).2, x.2 = .ok ()) ∧
      lastCarried PowerEvent.reason? panelDay .unknown ≠ .unknown ∧
      ((⟨.unknown, .init, panelTree⟩ : PanelPath).run (fun _ => none) panelDay).1.action.panelPowerSaving =
        amdgpuPanelTarget (onBatteryOfReason (lastCarried PowerEvent.reason? panelDay .unknown))
          panelPowerSaver.activeProfile (lastCarried PowerEvent.level? panelDay 0) :=
  have hpanel : ppdActionAmdgpuPanelPower ∈ panelPowerSaver.actions := by decide
  have hacts : (panelDay.filterMap PanelEvent.power?).filterMap PowerEvent.profile? =
      actionActivations ppdActionAmdgpuPanelPower.actionName panelPowerSaver.trace := by
    decide
  have hok : ∀ x ∈ ((⟨.unknown, .init, panelTree⟩ : PanelPath).run (fun _ => none) panelDay).2,
      x.2 = .ok () := by
    decide
  have hup : lastCarried PowerEvent.reason? panelDay .unknown ≠ .unknown := by decide
  ⟨Env.succeeds_allSucceed "", panelPowerSaver_reachable, hpanel, hacts, hok, hup,
    PanelPath.level_follows_daemon (Env.succeeds_allSucceed "") panelPowerSaver_reachable hpanel _ panelTree
      panelDay hacts hok hup⟩

end PowerProfiles
