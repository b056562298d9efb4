import PowerProfiles.CpuDriverRuns
import PowerProfiles.PanelPower
import Mathlib.Data.List.Destutter

/-!
# The power source, from UPower to the CPU driver's files

The daemon keeps the last power source UPower reported in `power_changed_reason`, which
`g_new0` starts at `PPD_POWER_CHANGED_REASON_UNKNOWN`. `upower_source_update_from_value`
turns UPower's `OnBattery` into a reason, `upower_name_owner_changed` gives `UNKNOWN` when
UPower vanishes, and `upower_battery_set_power_changed_reason` ignores a reason equal to the
recorded one, and otherwise records it and tells the actions, the CPU driver and the platform
driver, only logging their failures. `upower_battery_changed` hands UPower's percentage to
the same back-ends, and neither CPU driver has a `battery_changed`. logind's
`PrepareForSleep` goes to the drivers as it comes. This module follows the CPU driver's side
of that path, with its activations.

The reasons the driver is told are the reasons UPower gave with every repeat of the recorded
one dropped (`List.destutter'`): no change of source is lost and none is told twice in a
row. The driver's `on_battery` always matches the daemon's record, whatever the driver
returns; so along every run of successful calls the CPU driver's files hold the preferences
of the activated profile for the power source the daemon recorded.
-/

namespace PowerProfiles

/-- The reason `upower_source_update_from_value` gives for UPower's `OnBattery`, `none` when
the proxy has no value. -/
def upowerReasonOfValue : Option Bool → PpdPowerChangedReason
  | none => .unknown
  | some true => .battery
  | some false => .ac

/-- What reaches the power source path of the daemon. -/
inductive PowerEvent
  /-- `OnBattery`, from a `PropertiesChanged` signal of UPower that carries it, or read from
  the proxy's cache by `upower_source_update` when the proxy is made or UPower reappears. -/
  | onBattery (value : Option Bool)
  /-- `upower_name_owner_changed` with no owner: UPower vanished. -/
  | upowerVanished
  /-- UPower's `Percentage`, from a `PropertiesChanged` signal that carries it, or read from
  the display device's cache by `upower_battery_update`; `upower_battery_changed` hands it to
  the actions and the drivers. -/
  | percentage (level : ℚ)
  /-- logind's `PrepareForSleep`, through `on_logind_prepare_for_sleep_cb`. -/
  | prepareForSleep (start : Bool)
  /-- An activation by the daemon that reaches the back-end the path follows:
  `activate_target_profile` calls the CPU driver, then the platform driver, then, when both
  succeed, `actions_activate_profile`. -/
  | activate (profile : PpdProfile)
  deriving DecidableEq, Repr

/-- The reason an event hands to `upower_battery_set_power_changed_reason`, if any. -/
def PowerEvent.reason? : PowerEvent → Option PpdPowerChangedReason
  | .onBattery value => some (upowerReasonOfValue value)
  | .upowerVanished => some .unknown
  | .percentage _ => none
  | .prepareForSleep _ => none
  | .activate _ => none

/-- The profile an event activates, if any. -/
def PowerEvent.profile? : PowerEvent → Option PpdProfile
  | .activate profile => some profile
  | _ => none

/-- The reason of a call on a driver, if it is `power_changed`. -/
def CpuDriverCall.reason? : CpuDriverCall → Option PpdPowerChangedReason
  | .powerChanged reason => some reason
  | .activateProfile _ => none
  | .prepareForSleep _ => none

/-- The profile of a call on a driver, if it is `activate_profile`. -/
def CpuDriverCall.profile? : CpuDriverCall → Option PpdProfile
  | .activateProfile profile => some profile
  | .powerChanged _ => none
  | .prepareForSleep _ => none

/-- The daemon's `power_changed_reason`, the CPU driver it holds, and the sysfs files. -/
structure PowerPath (σ : Type) where
  /-- `power_changed_reason`. -/
  reason : PpdPowerChangedReason
  /-- `cpu_driver`. -/
  driver : σ
  /-- The sysfs files. -/
  files : SysfsState

section Step

variable {σ : Type} (call : σ → SysfsState → CpuDriverCall → σ × SysfsState × Except GError Unit)

/-- One call on the CPU driver: the new path, and the call with what it returned. -/
def PowerPath.callDriver (sys : PowerPath σ) (c : CpuDriverCall) :
    PowerPath σ × List (CpuDriverCall × Except GError Unit) :=
  let out := call sys.driver sys.files c
  ({ sys with driver := out.1, files := out.2.1 }, [(c, out.2.2)])

/-- `upower_battery_set_power_changed_reason`, on the CPU driver's side. -/
def upowerBatterySetPowerChangedReason (sys : PowerPath σ) (reason : PpdPowerChangedReason) :
    PowerPath σ × List (CpuDriverCall × Except GError Unit) :=
  if sys.reason = reason then (sys, [])
  else PowerPath.callDriver call { sys with reason := reason } (.powerChanged reason)

/-- One event of the power source path. -/
def PowerPath.step (sys : PowerPath σ) : PowerEvent → PowerPath σ × List (CpuDriverCall × Except GError Unit)
  | .onBattery value => upowerBatterySetPowerChangedReason call sys (upowerReasonOfValue value)
  | .upowerVanished => upowerBatterySetPowerChangedReason call sys .unknown
  | .percentage _ => (sys, [])
  | .prepareForSleep start => sys.callDriver call (.prepareForSleep start)
  | .activate profile => sys.callDriver call (.activateProfile profile)

/-- A run of events: the final path, and every call made on the driver with what it
returned. -/
def PowerPath.run : PowerPath σ → List PowerEvent → PowerPath σ × List (CpuDriverCall × Except GError Unit)
  | sys, [] => (sys, [])
  | sys, e :: es =>
    let out := sys.step call e
    let rest := PowerPath.run out.1 es
    (rest.1, out.2 ++ rest.2)

/-- What one event does: nothing for the recorded reason or a percentage; for another
reason, record it and tell the driver; for any other event, one call that is not
`power_changed`. -/
theorem PowerPath.step_cases (sys : PowerPath σ) (e : PowerEvent) :
    ((e.reason? = none ∨ e.reason? = some sys.reason) ∧ sys.step call e = (sys, [])) ∨
    (∃ r, e.reason? = some r ∧ r ≠ sys.reason ∧
      sys.step call e = PowerPath.callDriver call { sys with reason := r } (.powerChanged r)) ∨
    (e.reason? = none ∧ ∃ c : CpuDriverCall, c.reason? = none ∧ sys.step call e = sys.callDriver call c) := by
  have hset : ∀ r, upowerBatterySetPowerChangedReason call sys r = (sys, []) ∧ r = sys.reason ∨
      r ≠ sys.reason ∧ upowerBatterySetPowerChangedReason call sys r =
        PowerPath.callDriver call { sys with reason := r } (.powerChanged r) := fun r => by
    unfold upowerBatterySetPowerChangedReason
    by_cases h : sys.reason = r
    · exact .inl ⟨if_pos h, h.symm⟩
    · exact .inr ⟨Ne.symm h, if_neg h⟩
  cases e with
  | onBattery value =>
    rcases hset (upowerReasonOfValue value) with ⟨h, hr⟩ | ⟨hr, h⟩
    · exact .inl ⟨.inr (congrArg some hr), h⟩
    · exact .inr (.inl ⟨_, rfl, hr, h⟩)
  | upowerVanished =>
    rcases hset .unknown with ⟨h, hr⟩ | ⟨hr, h⟩
    · exact .inl ⟨.inr (congrArg some hr), h⟩
    · exact .inr (.inl ⟨_, rfl, hr, h⟩)
  | percentage level => exact .inl ⟨.inl rfl, rfl⟩
  | prepareForSleep start => exact .inr (.inr ⟨rfl, .prepareForSleep start, rfl, rfl⟩)
  | activate profile => exact .inr (.inr ⟨rfl, .activateProfile profile, rfl, rfl⟩)

/-- The daemon's record, followed by the reasons the driver is told along a run, is the
list of reasons UPower gave with every repeat of the running one dropped: each change of
source reaches the driver once, and no reason reaches it twice in a row. -/
theorem PowerPath.run_reasons :
    ∀ (events : List PowerEvent) (sys : PowerPath σ),
      sys.reason :: (sys.run call events).2.filterMap (fun c => c.1.reason?) =
        (events.filterMap PowerEvent.reason?).destutter' Ne sys.reason
  | [], _ => rfl
  | e :: es, sys => by
    simp only [PowerPath.run, List.filterMap_append, List.filterMap_cons]
    rcases PowerPath.step_cases call sys e with ⟨he | he, h⟩ | ⟨r, he, hr, h⟩ | ⟨he, c, hc, h⟩
    · rw [he, h]
      exact PowerPath.run_reasons es sys
    · rw [he, h, List.destutter'_cons_neg _ (not_not.2 rfl)]
      exact PowerPath.run_reasons es sys
    · have ih := PowerPath.run_reasons es
        (PowerPath.callDriver call { sys with reason := r } (.powerChanged r)).1
      rw [he, h, List.destutter'_cons_pos _ (Ne.symm hr)]
      simp only [PowerPath.callDriver, List.filterMap_cons, CpuDriverCall.reason?,
        List.filterMap_nil, List.singleton_append] at ih ⊢
      rw [ih]
    · rw [he, h]
      simp only [PowerPath.callDriver, List.filterMap_cons, hc, List.filterMap_nil, List.nil_append]
      exact PowerPath.run_reasons es (sys.callDriver call c).1

/-- An evening: UPower comes up on AC, performance is chosen, the cable is pulled and the
change announced twice, the machine sleeps and wakes, UPower restarts, balanced is chosen. -/
def powerEvening : List PowerEvent :=
  [.onBattery (some false), .activate .performance, .onBattery (some true), .onBattery (some true),
    .prepareForSleep true, .prepareForSleep false, .upowerVanished, .onBattery (some true),
    .activate .balanced]

example :
    (⟨.unknown, intelOnePolicy, intelOnePolicyTree⟩ : PowerPath IntelPstate).run
      (IntelPstate.call fun _ => none) powerEvening |>.2.filterMap (fun c => c.1.reason?) =
      [.ac, .battery, .unknown, .battery] := by
  decide

/-- What every step keeps holds after every run. -/
theorem PowerPath.run_invariant (P : PowerPath σ → Prop) (hstep : ∀ sys e, P sys → P (sys.step call e).1) :
    ∀ (events : List PowerEvent) (sys : PowerPath σ), P sys → P (sys.run call events).1
  | [], _, h => h
  | e :: es, sys, h => PowerPath.run_invariant P hstep es _ (hstep sys e h)

/-- What every step whose calls succeed keeps holds after every run of successful calls. -/
theorem PowerPath.run_invariant_ok (P : PowerPath σ → Prop)
    (hstep : ∀ sys e, P sys → (∀ x ∈ (sys.step call e).2, x.2 = .ok ()) → P (sys.step call e).1) :
    ∀ (events : List PowerEvent) (sys : PowerPath σ), P sys →
      (∀ x ∈ (sys.run call events).2, x.2 = .ok ()) → P (sys.run call events).1
  | [], _, h, _ => h
  | e :: es, sys, h, hok => by
    simp only [PowerPath.run, List.mem_append] at hok ⊢
    exact PowerPath.run_invariant_ok P hstep es _ (hstep sys e h fun x hx => hok x (.inl hx))
      fun x hx => hok x (.inr hx)

/-- When every allowed event, from a state with `P`, keeps `P` and makes only calls that
succeed, every call of a run of allowed events succeeds. -/
theorem PowerPath.run_ok (P : PowerPath σ → Prop) (allowed : PowerEvent → Prop)
    (hstep : ∀ sys e, allowed e → P sys →
      P (sys.step call e).1 ∧ ∀ x ∈ (sys.step call e).2, x.2 = .ok ()) :
    ∀ (events : List PowerEvent) (sys : PowerPath σ), (∀ e ∈ events, allowed e) → P sys →
      ∀ x ∈ (sys.run call events).2, x.2 = .ok ()
  | [], _, _, _, _, h => absurd h (List.not_mem_nil _)
  | e :: es, sys, he, h, x, hx => by
    simp only [PowerPath.run, List.mem_append] at hx
    obtain ⟨h1, h2⟩ := hstep sys e (he e (.head _)) h
    rcases hx with hx | hx
    · exact h2 x hx
    · exact PowerPath.run_ok P allowed hstep es _ (fun e' he' => he e' (.tail _ he')) h1 x hx

/-- When every call but a request for `PPD_PROFILE_UNSET` keeps `R` of the driver and its
files and succeeds, every call of a run of events without such a request succeeds. -/
theorem PowerPath.run_ready (R : σ → SysfsState → Prop)
    (hcall : ∀ d s c, c ≠ .activateProfile .unset → R d s →
      R (call d s c).1 (call d s c).2.1 ∧ (call d s c).2.2 = .ok ())
    (events : List PowerEvent) (sys : PowerPath σ) (hevents : ∀ e ∈ events, e ≠ .activate .unset)
    (h : R sys.driver sys.files) : ∀ x ∈ (sys.run call events).2, x.2 = .ok () := by
  refine PowerPath.run_ok call (fun sys => R sys.driver sys.files) (· ≠ .activate .unset)
    (fun sys e he h => ?_) events sys hevents h
  have hdriver : ∀ (sys' : PowerPath σ) (c : CpuDriverCall), c ≠ .activateProfile .unset →
      R sys'.driver sys'.files → R (sys'.callDriver call c).1.driver (sys'.callDriver call c).1.files ∧
        ∀ x ∈ (sys'.callDriver call c).2, x.2 = .ok () := fun sys' c hc h' => by
    simp only [PowerPath.callDriver, List.mem_singleton, forall_eq]
    exact hcall _ _ c hc h'
  have hset : ∀ r, R (upowerBatterySetPowerChangedReason call sys r).1.driver
      (upowerBatterySetPowerChangedReason call sys r).1.files ∧
      ∀ x ∈ (upowerBatterySetPowerChangedReason call sys r).2, x.2 = .ok () := fun r => by
    unfold upowerBatterySetPowerChangedReason
    split_ifs
    · exact ⟨h, fun _ hx => absurd hx (List.not_mem_nil _)⟩
    · exact hdriver _ _ nofun h
  cases e with
  | onBattery value => exact hset _
  | upowerVanished => exact hset _
  | percentage level => exact ⟨h, fun _ hx => absurd hx (List.not_mem_nil _)⟩
  | prepareForSleep start => exact hdriver sys _ nofun h
  | activate profile => exact hdriver sys _ (fun hc => he (by cases hc; rfl)) h

end Step

/-! ### The driver's power source is the daemon's -/

section Agree

variable {σ : Type} (call : σ → SysfsState → CpuDriverCall → σ × SysfsState × Except GError Unit)
  (onBattery : σ → Bool)
  (hcall : ∀ d s c, onBattery (call d s c).1 = (c.reason?.map onBatteryOfReason).getD (onBattery d))

include hcall in
/-- One step keeps the driver's power source the daemon's, whatever the driver returns. -/
theorem PowerPath.step_onBattery (sys : PowerPath σ) (e : PowerEvent)
    (h : onBattery sys.driver = onBatteryOfReason sys.reason) :
    onBattery (sys.step call e).1.driver = onBatteryOfReason (sys.step call e).1.reason := by
  rcases PowerPath.step_cases call sys e with ⟨-, hs⟩ | ⟨r, -, -, hs⟩ | ⟨-, c, hc, hs⟩
  · rwa [hs]
  · simp only [hs, PowerPath.callDriver, hcall, CpuDriverCall.reason?, Option.map_some',
      Option.getD_some]
  · simp only [hs, PowerPath.callDriver, hcall, hc, Option.map_none', Option.getD_none, h]

include hcall in
/-- Along every run, successful or not, and from a driver that agrees with the daemon, the
driver's power source stays the daemon's. -/
theorem PowerPath.run_onBattery (events : List PowerEvent) (sys : PowerPath σ)
    (h : onBattery sys.driver = onBatteryOfReason sys.reason) :
    onBattery (sys.run call events).1.driver = onBatteryOfReason (sys.run call events).1.reason :=
  PowerPath.run_invariant call (fun sys => onBattery sys.driver = onBatteryOfReason sys.reason)
    (fun sys e => PowerPath.step_onBattery call onBattery hcall sys e) events sys h

include hcall in
/-- A property of the driver and its files that every successful call keeps holds along
every run of successful calls, with the driver's power source the daemon's. -/
theorem PowerPath.run_follows (P : σ → SysfsState → Prop)
    (hP : ∀ d s c, P d s → (call d s c).2.2 = .ok () → P (call d s c).1 (call d s c).2.1)
    (events : List PowerEvent) (sys : PowerPath σ)
    (hagree : onBattery sys.driver = onBatteryOfReason sys.reason) (h : P sys.driver sys.files)
    (hok : ∀ x ∈ (sys.run call events).2, x.2 = .ok ()) :
    onBattery (sys.run call events).1.driver = onBatteryOfReason (sys.run call events).1.reason ∧
      P (sys.run call events).1.driver (sys.run call events).1.files := by
  refine PowerPath.run_invariant_ok call
    (fun sys => onBattery sys.driver = onBatteryOfReason sys.reason ∧ P sys.driver sys.files)
    (fun sys e hs hok => ⟨PowerPath.step_onBattery call onBattery hcall sys e hs.1, ?_⟩) events sys
    ⟨hagree, h⟩ hok
  rcases PowerPath.step_cases call sys e with ⟨-, hs'⟩ | ⟨r, -, -, hs'⟩ | ⟨-, c, -, hs'⟩ <;>
    simp only [hs', PowerPath.callDriver, List.mem_singleton, forall_eq] at hok ⊢
  · exact hs.2
  · exact hP _ _ _ hs.2 hok
  · exact hP _ _ _ hs.2 hok

end Agree

/-- The last of the profiles `f` finds in `a :: l`, or `d`, is the last of those in `l`, or
the one in `a`, or `d`. -/
theorem getLast?_filterMap_cons_getD {α β : Type} (f : α → Option β) (a : α) (l : List α) (d : β) :
    ((a :: l).filterMap f).getLast?.getD d = (l.filterMap f).getLast?.getD ((f a).getD d) := by
  cases h : f a <;> simp [h, List.filterMap_cons, List.getLast?_cons]

section Activated

variable {σ : Type} (call : σ → SysfsState → CpuDriverCall → σ × SysfsState × Except GError Unit)
  (activated : σ → PpdProfile)
  (hrec : ∀ d s c, (call d s c).2.2 = .ok () → activated (call d s c).1 = c.profile?.getD (activated d))

include hrec in
/-- A step whose calls succeed leaves the driver activated with the profile the event
activates, or as it was. -/
theorem PowerPath.step_activated (sys : PowerPath σ) (e : PowerEvent)
    (hok : ∀ x ∈ (sys.step call e).2, x.2 = .ok ()) :
    activated (sys.step call e).1.driver = e.profile?.getD (activated sys.driver) := by
  have hdriver : ∀ (sys' : PowerPath σ) (c : CpuDriverCall),
      (∀ x ∈ (sys'.callDriver call c).2, x.2 = .ok ()) →
      activated (sys'.callDriver call c).1.driver = c.profile?.getD (activated sys'.driver) :=
    fun sys' c h => hrec _ _ c (h _ (List.mem_singleton_self _))
  have hset : ∀ r, (∀ x ∈ (upowerBatterySetPowerChangedReason call sys r).2, x.2 = .ok ()) →
      activated (upowerBatterySetPowerChangedReason call sys r).1.driver = activated sys.driver :=
    fun r h => by
      unfold upowerBatterySetPowerChangedReason at h ⊢
      split_ifs at h ⊢
      · rfl
      · exact hdriver _ _ h
  cases e with
  | onBattery value => exact hset _ hok
  | upowerVanished => exact hset _ hok
  | percentage level => rfl
  | prepareForSleep start => exact hdriver sys _ hok
  | activate profile => exact hdriver sys _ hok

include hrec in
/-- Along a run whose calls all succeed, the driver ends activated with the profile of the
last activation among the events, or as it started. -/
theorem PowerPath.run_activated : ∀ (events : List PowerEvent) (sys : PowerPath σ),
    (∀ x ∈ (sys.run call events).2, x.2 = .ok ()) →
      activated (sys.run call events).1.driver =
        ((events.filterMap PowerEvent.profile?).getLast?).getD (activated sys.driver)
  | [], _, _ => rfl
  | e :: es, sys, hok => by
    simp only [PowerPath.run, List.mem_append] at hok ⊢
    rw [PowerPath.run_activated es _ fun x hx => hok x (.inr hx),
      PowerPath.step_activated call activated hrec sys e fun x hx => hok x (.inl hx),
      getLast?_filterMap_cons_getD]

end Activated


/-! ### intel_pstate and amd_pstate on the path -/

section Drivers

variable (fails : Nat → Option String)

/-- Only `power_changed` changes intel_pstate's power source, to the one it is told. -/
theorem IntelPstate.call_onBattery (pstate : IntelPstate) (s : SysfsState) (c : CpuDriverCall) :
    (pstate.call fails s c).1.onBattery = (c.reason?.map onBatteryOfReason).getD pstate.onBattery := by
  have happly : ∀ (d : IntelPstate) profile,
      (d.applyPrefToDevices fails s profile).1.onBattery = d.onBattery := fun d profile => by
    rcases IntelPstate.applyPrefToDevices_fst fails d s profile with h | h <;> rw [h]
  cases c with
  | activateProfile profile =>
    simp only [IntelPstate.call]
    split_ifs
    · exact happly pstate profile
    · rfl
  | powerChanged reason => exact happly _ _
  | prepareForSleep start =>
    cases start
    · show (pstate.prepareForSleep fails s false).1.onBattery = pstate.onBattery
      rw [(IntelPstate.prepareForSleep_resume fails pstate s).1]
      exact happly pstate _
    · rfl

/-- Only `power_changed` changes amd_pstate's power source, to the one it is told. -/
theorem AmdPstate.call_onBattery (pstate : AmdPstate) (s : SysfsState) (c : CpuDriverCall) :
    (pstate.call fails s c).1.onBattery = (c.reason?.map onBatteryOfReason).getD pstate.onBattery := by
  cases c with
  | activateProfile profile =>
    simp only [AmdPstate.call]
    split_ifs
    · rcases AmdPstate.activateProfile_fst fails pstate s profile with h | h <;> rw [h] <;> rfl
    · rfl
  | powerChanged reason => rfl
  | prepareForSleep start => rfl

/-- A call on intel_pstate that succeeds leaves it activated with the profile it asked for,
or, for any other call, as it was. -/
theorem IntelPstate.call_ok_activated (pstate : IntelPstate) (s : SysfsState) (c : CpuDriverCall)
    (h : (pstate.call fails s c).2.2 = .ok ()) :
    (pstate.call fails s c).1.activatedProfile = c.profile?.getD pstate.activatedProfile := by
  have hreapply : ∀ d : IntelPstate,
      (d.applyPrefToDevices fails s d.activatedProfile).1.activatedProfile = d.activatedProfile := fun d => by
    rcases IntelPstate.applyPrefToDevices_fst fails d s d.activatedProfile with h | h <;> rw [h]
  cases c with
  | activateProfile profile =>
    simp only [IntelPstate.call] at h ⊢
    split_ifs at h ⊢ with hsf
    have hp : profile ≠ .unset := by simpa [PpdProfile.hasSingleFlag] using hsf
    rw [(IntelPstate.applyPrefToDevices_ok fails pstate s hp h).1]
    rfl
  | powerChanged reason => exact hreapply { pstate with onBattery := onBatteryOfReason reason }
  | prepareForSleep start =>
    cases start
    · show (pstate.prepareForSleep fails s false).1.activatedProfile = pstate.activatedProfile
      rw [(IntelPstate.prepareForSleep_resume fails pstate s).1]
      exact hreapply pstate
    · rfl

/-- An amd_pstate activation that returns TRUE records the profile. -/
theorem AmdPstate.activateProfile_ok_fst (pstate : AmdPstate) (s : SysfsState) (profile : PpdProfile)
    (h : (pstate.activateProfile fails s profile).2.2 = .ok ()) :
    (pstate.activateProfile fails s profile).1 = { pstate with activatedProfile := profile } := by
  unfold AmdPstate.activateProfile at h ⊢
  split at h
  · exact absurd h nofun
  rename_i devices hdevices
  simp only [hdevices]
  by_cases hne : devices = []
  · simp only [hne, if_true] at h
    exact absurd h nofun
  simp only [hne, if_false] at h ⊢
  generalize amdApplyPrefToDevices fails s devices profile pstate.onBattery = w at h ⊢
  obtain ⟨s1, _ | ⟨⟩⟩ := w
  · dsimp only at h
    split_ifs at h
  · rfl

/-- A call on amd_pstate that succeeds leaves it activated with the profile it asked for, or,
for any other call, as it was. -/
theorem AmdPstate.call_ok_activated (pstate : AmdPstate) (s : SysfsState) (c : CpuDriverCall)
    (h : (pstate.call fails s c).2.2 = .ok ()) :
    (pstate.call fails s c).1.activatedProfile = c.profile?.getD pstate.activatedProfile := by
  cases c with
  | activateProfile profile =>
    simp only [AmdPstate.call] at h ⊢
    split_ifs at h ⊢
    rw [AmdPstate.activateProfile_ok_fst fails pstate s profile h]
    rfl
  | powerChanged reason => rfl
  | prepareForSleep start => rfl

/-- Along every run, whatever intel_pstate returns, its `on_battery` is the daemon's
`power_changed_reason` read as a power source: a repeated reason the daemon drops never
hides a change from the driver. -/
theorem PowerPath.intel_onBattery_agrees (events : List PowerEvent) (sys : PowerPath IntelPstate)
    (h : sys.driver.onBattery = onBatteryOfReason sys.reason) :
    (sys.run (IntelPstate.call fails) events).1.driver.onBattery =
      onBatteryOfReason (sys.run (IntelPstate.call fails) events).1.reason :=
  PowerPath.run_onBattery (IntelPstate.call fails) IntelPstate.onBattery
    (IntelPstate.call_onBattery fails) events sys h

/-- intel_pstate's files hold the preferences of its activated profile for the power source
the daemon recorded. -/
def PowerPath.IntelFollows (sys : PowerPath IntelPstate) : Prop :=
  IntelPstate.Applied { sys.driver with onBattery := onBatteryOfReason sys.reason } sys.files

/-- From the daemon's start (`UNKNOWN`, and a driver that has activated nothing) or any
state where they agree, along every run in which each call on intel_pstate succeeds, its EPP
and EPB files hold the preferences of the activated profile for the power source the daemon
recorded. -/
theorem PowerPath.intel_run_follows (events : List PowerEvent) (sys : PowerPath IntelPstate)
    (hdisj : sys.driver.Disjoint) (hagree : sys.driver.onBattery = onBatteryOfReason sys.reason)
    (happ : sys.driver.Applied sys.files)
    (hok : ∀ x ∈ (sys.run (IntelPstate.call fails) events).2, x.2 = .ok ()) :
    (sys.run (IntelPstate.call fails) events).1.IntelFollows := by
  obtain ⟨hag, -, hap⟩ := PowerPath.run_follows (IntelPstate.call fails) IntelPstate.onBattery
    (IntelPstate.call_onBattery fails) (fun d s => d.Disjoint ∧ d.Applied s)
    (fun d s c hd h => IntelPstate.call_keeps_applied fails d s c hd.1 hd.2 h) events sys hagree
    ⟨hdisj, happ⟩ hok
  unfold PowerPath.IntelFollows
  rw [← hag]
  exact hap

/-- amd_pstate's policy directories are applied for its activated profile and the power
source the daemon recorded. -/
def PowerPath.AmdFollows (sys : PowerPath AmdPstate) : Prop :=
  AmdPstate.Applied { sys.driver with onBattery := onBatteryOfReason sys.reason } sys.files

/-- Along every run in which each call on amd_pstate succeeds, from a state where the
driver agrees with the daemon, every policy directory holds the governor, EPP, boost and
minimum frequency of the activated profile for the power source the daemon recorded. -/
theorem PowerPath.amd_run_follows (events : List PowerEvent) (sys : PowerPath AmdPstate)
    (hagree : sys.driver.onBattery = onBatteryOfReason sys.reason) (happ : sys.driver.Applied sys.files)
    (hok : ∀ x ∈ (sys.run (AmdPstate.call fails) events).2, x.2 = .ok ()) :
    (sys.run (AmdPstate.call fails) events).1.AmdFollows := by
  obtain ⟨hag, hap⟩ := PowerPath.run_follows (AmdPstate.call fails) AmdPstate.onBattery
    (AmdPstate.call_onBattery fails) AmdPstate.Applied
    (fun d s c hd h => AmdPstate.call_keeps_applied fails d s c hd h) events sys hagree happ hok
  unfold PowerPath.AmdFollows
  rw [← hag]
  exact hap

theorem powerEvening_intel_onBattery_agrees :
    (⟨.unknown, intelOnePolicy, intelOnePolicyTree⟩ : PowerPath IntelPstate).run
      (IntelPstate.call fun _ => none) powerEvening |>.1.driver.onBattery =
    onBatteryOfReason ((⟨.unknown, intelOnePolicy, intelOnePolicyTree⟩ : PowerPath IntelPstate).run
      (IntelPstate.call fun _ => none) powerEvening).1.reason :=
  PowerPath.intel_onBattery_agrees _ powerEvening _ rfl

end Drivers

end PowerProfiles
