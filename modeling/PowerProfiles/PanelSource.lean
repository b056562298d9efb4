import PowerProfiles.PowerSource

/-!
# The power source, from UPower to the panel

`upower_battery_set_power_changed_reason` tells every action of a new power source before
it tells the drivers, `upower_battery_changed` hands every action UPower's battery
percentage, and `actions_activate_profile` tells every action the profile the drivers took.
This module follows the amdgpu panel power action's side of that path, with the hot-plugs
its `udev_uevent_cb` answers.

Whatever its callbacks return, the action's record mirrors the daemon: its battery data is
valid exactly while the daemon knows the power source, and it is on battery exactly when
that source is `BATTERY`; its battery level and last profile are the last ones the events
carried. So from the daemon's start, along every run in which each call on the action
succeeds and while UPower is up, the panel level the action stored is `amdgpuPanelTarget`
of the last power source, the last activated profile and the last battery percentage.
Whatever the calls return, the action and its hot-plug callback write no file but the panels'
`panel_power_savings`.
-/

namespace PowerProfiles

/-! ### What a callback records -/

section Record

variable (fails : Nat → Option String) (devices : List DrmDevice)

/-- What a callback of the panel action records before it calls `update_target`: all of
its record but the panel level. -/
def AmdgpuPanelPower.record (self : AmdgpuPanelPower) : PanelCall → AmdgpuPanelPower
  | .activateProfile profile => { self with lastProfile := profile }
  | .powerChanged .unknown => { self with validBattery := false }
  | .powerChanged .ac => { self with onBattery := false, validBattery := true }
  | .powerChanged .battery => { self with onBattery := true, validBattery := true }
  | .batteryChanged level => { self with batteryLevel := level }

/-- `update_target` changes at most the panel level. -/
theorem AmdgpuPanelPower.updateTarget_fst (self : AmdgpuPanelPower) (s : SysfsState) :
    ∃ level, (self.updateTarget fails devices s).1 = { self with panelPowerSaving := level } := by
  unfold AmdgpuPanelPower.updateTarget
  dsimp only
  generalize setPanelPower fails devices s _ = w
  obtain ⟨s', _ | _⟩ := w
  · exact ⟨self.panelPowerSaving, rfl⟩
  · exact ⟨_, rfl⟩

/-- Whatever a callback returns, the action keeps what it recorded, with some panel level. -/
theorem AmdgpuPanelPower.call_fst (self : AmdgpuPanelPower) (s : SysfsState) (c : PanelCall) :
    ∃ level, (self.call fails devices s c).1 = { self.record c with panelPowerSaving := level } := by
  cases c with
  | activateProfile profile =>
    simp only [call, activateProfile]
    split_ifs
    · exact ⟨self.panelPowerSaving, rfl⟩
    · exact updateTarget_fst fails devices _ s
  | powerChanged reason =>
    cases reason
    · exact ⟨self.panelPowerSaving, rfl⟩
    all_goals exact updateTarget_fst fails devices _ s
  | batteryChanged level => exact updateTarget_fst fails devices _ s

/-- `set_panel_power` writes no file but a device's `panel_power_savings`. -/
theorem setPanelPowerLoop_frame (power : Int) {q : String}
    (hq : ∀ base, q ≠ buildFilename base panelPowerSysfsName) :
    ∀ (devices : List DrmDevice) (s : SysfsState), (setPanelPowerLoop fails power s devices).1.tree q = s.tree q
  | [], _ => rfl
  | dev :: rest, s => by
    simp only [setPanelPowerLoop]
    split_ifs
    · exact setPanelPowerLoop_frame power hq rest s
    · exact setPanelPowerLoop_frame power hq rest s
    split
    · exact setPanelPowerLoop_frame power hq rest s
    split_ifs
    · rfl
    · exact setPanelPowerLoop_frame power hq rest s
    · exact SysfsState.write_tree_of_ne fails s _ (hq dev.sysfsPath)

/-- `update_target` leaves the files `set_panel_power` leaves, whatever it returns. -/
theorem AmdgpuPanelPower.updateTarget_files (self : AmdgpuPanelPower) (s : SysfsState) :
    (self.updateTarget fails devices s).2.1 =
      (setPanelPower fails devices s (amdgpuPanelTarget self.onBattery self.lastProfile self.batteryLevel)).1 := by
  unfold AmdgpuPanelPower.updateTarget
  dsimp only
  generalize setPanelPower fails devices s _ = w
  obtain ⟨s', _ | _⟩ := w <;> rfl

/-- A callback leaves the files as they were, or as `set_panel_power` leaves them for some
level, whatever it returns. -/
theorem AmdgpuPanelPower.call_files (self : AmdgpuPanelPower) (s : SysfsState) (c : PanelCall) :
    (self.call fails devices s c).2.1 = s ∨
      ∃ power, (self.call fails devices s c).2.1 = (setPanelPower fails devices s power).1 := by
  cases c with
  | activateProfile profile =>
    simp only [call, activateProfile]
    split_ifs
    · exact .inl rfl
    · exact .inr ⟨_, updateTarget_files fails devices _ s⟩
  | powerChanged reason =>
    cases reason
    · exact .inl rfl
    all_goals exact .inr ⟨_, updateTarget_files fails devices _ s⟩
  | batteryChanged level => exact .inr ⟨_, updateTarget_files fails devices _ s⟩

/-- Whatever a callback returns, it writes no file but a device's `panel_power_savings`. -/
theorem AmdgpuPanelPower.call_frame (self : AmdgpuPanelPower) (s : SysfsState) (c : PanelCall)
    {q : String} (hq : ∀ base, q ≠ buildFilename base panelPowerSysfsName) :
    (self.call fails devices s c).2.1.tree q = s.tree q := by
  rcases self.call_files fails devices s c with h | ⟨power, h⟩ <;> rw [h]
  unfold setPanelPower
  split_ifs
  · rfl
  · exact setPanelPowerLoop_frame fails _ hq devices s

/-- `set_panel_power` stops after the first panel it writes: any two files it changes are
the same file. -/
theorem setPanelPowerLoop_changes_one (power : Int) :
    ∀ (devices : List DrmDevice) (s : SysfsState) {q q' : String},
      (setPanelPowerLoop fails power s devices).1.tree q ≠ s.tree q →
      (setPanelPowerLoop fails power s devices).1.tree q' ≠ s.tree q' → q = q'
  | [], _, _, _, h, _ => absurd rfl h
  | dev :: rest, s, q, q', hq, hq' => by
    simp only [setPanelPowerLoop] at hq hq'
    split_ifs at hq hq'
    · exact setPanelPowerLoop_changes_one power rest s hq hq'
    · exact setPanelPowerLoop_changes_one power rest s hq hq'
    cases hv : dev.sysfsAttr s panelPowerSysfsName with
    | none =>
      simp only [hv] at hq hq'
      exact setPanelPowerLoop_changes_one power rest s hq hq'
    | some value =>
    simp only [hv] at hq hq'
    split_ifs at hq hq'
    · exact absurd rfl hq
    · exact setPanelPowerLoop_changes_one power rest s hq hq'
    · have hfile : ∀ p, (s.write fails (buildFilename dev.sysfsPath panelPowerSysfsName)
          (toString power)).1.tree p ≠ s.tree p → p = buildFilename dev.sysfsPath panelPowerSysfsName :=
        fun p hp => by_contra fun hne => hp (SysfsState.write_tree_of_ne fails s _ hne)
      exact (hfile q hq).trans (hfile q' hq').symm

/-- Each callback of the panel action changes at most one file: with several connected panels
at other levels, one call updates only the first. -/
theorem AmdgpuPanelPower.call_changes_one (self : AmdgpuPanelPower) (s : SysfsState) (c : PanelCall)
    {q q' : String} (hq : (self.call fails devices s c).2.1.tree q ≠ s.tree q)
    (hq' : (self.call fails devices s c).2.1.tree q' ≠ s.tree q') : q = q' := by
  rcases self.call_files fails devices s c with h | ⟨power, h⟩ <;> rw [h] at hq hq'
  · exact absurd rfl hq
  unfold setPanelPower at hq hq'
  split_ifs at hq hq'
  · exact absurd rfl hq
  · exact setPanelPowerLoop_changes_one fails _ devices s hq hq'

/-- Two connected panels, both at level 0. -/
def twoPanels : List DrmDevice :=
  [⟨"/sys/class/drm/card0-eDP-1", some "drm_connector"⟩, ⟨"/sys/class/drm/card0-eDP-2", some "drm_connector"⟩]

/-- The files of `twoPanels`. -/
def twoPanelsTree : SysfsState where
  tree p :=
    if p = buildFilename "/sys/class/drm/card0-eDP-1" "status" ∨
        p = buildFilename "/sys/class/drm/card0-eDP-2" "status" then some "connected\n"
    else if p = buildFilename "/sys/class/drm/card0-eDP-1" panelPowerSysfsName ∨
        p = buildFilename "/sys/class/drm/card0-eDP-2" panelPowerSysfsName then some "0\n"
    else none
  calls := 0

/-- On battery at 25 %, power-saver is activated: the first panel is written, the second keeps
level 0. -/
theorem twoPanels_call_changes_one :
    (AmdgpuPanelPower.call (fun _ => none) twoPanels ⟨.unset, 0, true, true, 25⟩ twoPanelsTree
      (.activateProfile .powerSaver)).2.1.tree (buildFilename "/sys/class/drm/card0-eDP-1" panelPowerSysfsName) ≠
      twoPanelsTree.tree (buildFilename "/sys/class/drm/card0-eDP-1" panelPowerSysfsName) ∧
    (AmdgpuPanelPower.call (fun _ => none) twoPanels ⟨.unset, 0, true, true, 25⟩ twoPanelsTree
      (.activateProfile .powerSaver)).2.1.tree (buildFilename "/sys/class/drm/card0-eDP-2" panelPowerSysfsName) =
      some "0\n" ∧
    buildFilename "/sys/class/drm/card0-eDP-1" panelPowerSysfsName =
      buildFilename "/sys/class/drm/card0-eDP-1" panelPowerSysfsName :=
  have h : (AmdgpuPanelPower.call (fun _ => none) twoPanels ⟨.unset, 0, true, true, 25⟩ twoPanelsTree
      (.activateProfile .powerSaver)).2.1.tree (buildFilename "/sys/class/drm/card0-eDP-1" panelPowerSysfsName) ≠
      twoPanelsTree.tree (buildFilename "/sys/class/drm/card0-eDP-1" panelPowerSysfsName) := by
    decide
  ⟨h, by decide, AmdgpuPanelPower.call_changes_one _ _ _ _ _ h h⟩

/-- A hot-plug writes no file but the added device's `panel_power_savings`. -/
theorem AmdgpuPanelPower.udevUevent_frame (self : AmdgpuPanelPower) (s : SysfsState) (action : String)
    (device : DrmDevice) {q : String} (hq : ∀ base, q ≠ buildFilename base panelPowerSysfsName) :
    (self.udevUevent fails s action device).tree q = s.tree q := by
  unfold AmdgpuPanelPower.udevUevent
  split_ifs
  · rfl
  · rfl
  · rfl
  · exact SysfsState.write_tree_of_ne fails s _ (hq _)

end Record

/-! ### The panel on the power source path -/

/-- The daemon's `power_changed_reason`, the amdgpu panel power action among its `actions`,
and the sysfs files. -/
structure PanelPath where
  /-- `power_changed_reason`. -/
  reason : PpdPowerChangedReason
  /-- The panel power action. -/
  action : AmdgpuPanelPower
  /-- The sysfs files. -/
  files : SysfsState

/-- What reaches the panel action: an event of the power source path, with the DRM devices
udev lists at that moment, or a udev event on a DRM device. -/
inductive PanelEvent
  | power (e : PowerEvent) (devices : List DrmDevice)
  | uevent (action : String) (device : DrmDevice)

/-- The power source event, if any. -/
def PanelEvent.power? : PanelEvent → Option PowerEvent
  | .power e _ => some e
  | .uevent .. => none

/-- The battery percentage an event carries, if any. -/
def PowerEvent.level? : PowerEvent → Option ℚ
  | .percentage level => some level
  | _ => none

section Step

variable (fails : Nat → Option String)

/-- One call on the action, with the DRM devices udev lists: the new path, and the call with
what it returned, which the daemon only logs. -/
def PanelPath.callAction (sys : PanelPath) (devices : List DrmDevice) (c : PanelCall) :
    PanelPath × List (PanelCall × Except GError Unit) :=
  let out := sys.action.call fails devices sys.files c
  ({ sys with action := out.1, files := out.2.1 }, [(c, out.2.2)])

/-- `upower_battery_set_power_changed_reason`, on the actions' side. -/
def PanelPath.upowerBatterySetPowerChangedReason (sys : PanelPath) (devices : List DrmDevice)
    (reason : PpdPowerChangedReason) : PanelPath × List (PanelCall × Except GError Unit) :=
  if sys.reason = reason then (sys, [])
  else { sys with reason := reason }.callAction fails devices (.powerChanged reason)

/-- One event of the power source path, on the action's side: `upower_battery_changed` for a
percentage and `actions_activate_profile` for an activation; an action has no
`prepare_for_sleep`. -/
def PanelPath.step (sys : PanelPath) (devices : List DrmDevice) :
    PowerEvent → PanelPath × List (PanelCall × Except GError Unit)
  | .onBattery value => sys.upowerBatterySetPowerChangedReason fails devices (upowerReasonOfValue value)
  | .upowerVanished => sys.upowerBatterySetPowerChangedReason fails devices .unknown
  | .percentage level => sys.callAction fails devices (.batteryChanged level)
  | .prepareForSleep _ => (sys, [])
  | .activate profile => sys.callAction fails devices (.activateProfile profile)

/-- A hot-plug, through the action's `udev_uevent_cb`. -/
def PanelPath.uevent (sys : PanelPath) (action : String) (device : DrmDevice) : PanelPath :=
  { sys with files := sys.action.udevUevent fails sys.files action device }

/-- A run of events: the final path, and every call the daemon made on the action with what
it returned. -/
def PanelPath.run : PanelPath → List PanelEvent → PanelPath × List (PanelCall × Except GError Unit)
  | sys, [] => (sys, [])
  | sys, .power e devices :: es =>
    let out := sys.step fails devices e
    let rest := PanelPath.run out.1 es
    (rest.1, out.2 ++ rest.2)
  | sys, .uevent action device :: es => PanelPath.run (sys.uevent fails action device) es

/-- What one event does: nothing, when it carries no new reason, percentage or profile; or
one call on the action, after the daemon records a new reason. -/
theorem PanelPath.step_cases (sys : PanelPath) (devices : List DrmDevice) (e : PowerEvent) :
    (e.reason?.getD sys.reason = sys.reason ∧ e.level? = none ∧ e.profile? = none ∧
      sys.step fails devices e = (sys, [])) ∨
    (∃ r, e.reason? = some r ∧ r ≠ sys.reason ∧ e.level? = none ∧ e.profile? = none ∧
      sys.step fails devices e = { sys with reason := r }.callAction fails devices (.powerChanged r)) ∨
    (∃ level, e = .percentage level ∧
      sys.step fails devices e = sys.callAction fails devices (.batteryChanged level)) ∨
    (∃ profile, e = .activate profile ∧
      sys.step fails devices e = sys.callAction fails devices (.activateProfile profile)) := by
  have hset : ∀ r, (sys.upowerBatterySetPowerChangedReason fails devices r = (sys, []) ∧ r = sys.reason) ∨
      (r ≠ sys.reason ∧ sys.upowerBatterySetPowerChangedReason fails devices r =
        { sys with reason := r }.callAction fails devices (.powerChanged r)) := fun r => by
    unfold PanelPath.upowerBatterySetPowerChangedReason
    by_cases h : sys.reason = r
    · exact .inl ⟨if_pos h, h.symm⟩
    · exact .inr ⟨Ne.symm h, if_neg h⟩
  cases e with
  | onBattery value =>
    rcases hset (upowerReasonOfValue value) with ⟨h, hr⟩ | ⟨hr, h⟩
    · exact .inl ⟨hr, rfl, rfl, h⟩
    · exact .inr (.inl ⟨_, rfl, hr, rfl, rfl, h⟩)
  | upowerVanished =>
    rcases hset .unknown with ⟨h, hr⟩ | ⟨hr, h⟩
    · exact .inl ⟨hr, rfl, rfl, h⟩
    · exact .inr (.inl ⟨_, rfl, hr, rfl, rfl, h⟩)
  | percentage level => exact .inr (.inr (.inl ⟨level, rfl, rfl⟩))
  | prepareForSleep start => exact .inl ⟨rfl, rfl, rfl, rfl⟩
  | activate profile => exact .inr (.inr (.inr ⟨profile, rfl, rfl⟩))

/-- What every step and every hot-plug keeps holds after every run. -/
theorem PanelPath.run_invariant (P : PanelPath → Prop)
    (hstep : ∀ sys devices e, P sys → P (sys.step fails devices e).1)
    (huevent : ∀ sys action device, P sys → P (sys.uevent fails action device)) :
    ∀ (events : List PanelEvent) (sys : PanelPath), P sys → P (sys.run fails events).1
  | [], _, h => h
  | .power e devices :: es, sys, h => PanelPath.run_invariant P hstep huevent es _ (hstep sys devices e h)
  | .uevent action device :: es, sys, h =>
    PanelPath.run_invariant P hstep huevent es _ (huevent sys action device h)

/-- What every step whose call succeeds, and every hot-plug, keeps holds after every run of
successful calls. -/
theorem PanelPath.run_invariant_ok (P : PanelPath → Prop)
    (hstep : ∀ sys devices e, P sys → (∀ x ∈ (sys.step fails devices e).2, x.2 = .ok ()) →
      P (sys.step fails devices e).1)
    (huevent : ∀ sys action device, P sys → P (sys.uevent fails action device)) :
    ∀ (events : List PanelEvent) (sys : PanelPath), P sys →
      (∀ x ∈ (sys.run fails events).2, x.2 = .ok ()) → P (sys.run fails events).1
  | [], _, h, _ => h
  | .power e devices :: es, sys, h, hok => by
    simp only [PanelPath.run, List.mem_append] at hok ⊢
    exact PanelPath.run_invariant_ok P hstep huevent es _
      (hstep sys devices e h fun x hx => hok x (.inl hx)) fun x hx => hok x (.inr hx)
  | .uevent action device :: es, sys, h, hok =>
    PanelPath.run_invariant_ok P hstep huevent es _ (huevent sys action device h) hok

end Step

/-! ### The action mirrors the daemon -/

section Mirror

variable (fails : Nat → Option String)

/-- The action's battery data against the daemon's record: valid exactly while the power
source is known, and on battery exactly when it is `BATTERY`. -/
structure PanelPath.Mirrors (sys : PanelPath) : Prop where
  validBattery : sys.action.validBattery = true ↔ sys.reason ≠ .unknown
  onBattery : sys.reason ≠ .unknown → sys.action.onBattery = onBatteryOfReason sys.reason

/-- The daemon's start mirrors the action as `g_object_new` leaves it. -/
theorem PanelPath.mirrors_start (s : SysfsState) : (⟨.unknown, .init, s⟩ : PanelPath).Mirrors :=
  ⟨by simp [AmdgpuPanelPower.init], fun h => absurd rfl h⟩

/-- Every step keeps the mirror, whatever the action returns. -/
theorem PanelPath.step_mirrors (sys : PanelPath) (devices : List DrmDevice) (e : PowerEvent)
    (h : sys.Mirrors) : (sys.step fails devices e).1.Mirrors := by
  rcases sys.step_cases fails devices e with ⟨-, -, -, hs⟩ | ⟨r, -, -, -, -, hs⟩ | ⟨l, -, hs⟩ | ⟨p, -, hs⟩
  · rwa [hs]
  · obtain ⟨level, hc⟩ := AmdgpuPanelPower.call_fst fails devices sys.action sys.files (.powerChanged r)
    simp only [hs, PanelPath.callAction, hc]
    cases r <;> exact ⟨by simp [AmdgpuPanelPower.record], by simp [AmdgpuPanelPower.record, onBatteryOfReason]⟩
  · obtain ⟨level, hc⟩ := AmdgpuPanelPower.call_fst fails devices sys.action sys.files (.batteryChanged l)
    simp only [hs, PanelPath.callAction, hc]
    exact ⟨h.1, h.2⟩
  · obtain ⟨level, hc⟩ := AmdgpuPanelPower.call_fst fails devices sys.action sys.files (.activateProfile p)
    simp only [hs, PanelPath.callAction, hc]
    exact ⟨h.1, h.2⟩

/-- The daemon's reason and the action's battery level and last profile after a step are
what the event carried, or what they were. -/
theorem PanelPath.step_history (sys : PanelPath) (devices : List DrmDevice) (e : PowerEvent) :
    (sys.step fails devices e).1.reason = e.reason?.getD sys.reason ∧
    (sys.step fails devices e).1.action.batteryLevel = e.level?.getD sys.action.batteryLevel ∧
    (sys.step fails devices e).1.action.lastProfile = e.profile?.getD sys.action.lastProfile := by
  rcases sys.step_cases fails devices e with ⟨hr, hl, hp, hs⟩ | ⟨r, hr, -, hl, hp, hs⟩ | ⟨l, rfl, hs⟩ | ⟨p, rfl, hs⟩
  · simp only [hs, hr, hl, hp, Option.getD_none, and_self]
  · obtain ⟨level, hc⟩ := AmdgpuPanelPower.call_fst fails devices sys.action sys.files (.powerChanged r)
    simp only [hs, PanelPath.callAction, hc, hr, hl, hp, Option.getD_some, Option.getD_none]
    cases r <;> simp [AmdgpuPanelPower.record]
  · obtain ⟨level, hc⟩ := AmdgpuPanelPower.call_fst fails devices sys.action sys.files (.batteryChanged l)
    simp [hs, PanelPath.callAction, hc, AmdgpuPanelPower.record, PowerEvent.reason?, PowerEvent.level?,
      PowerEvent.profile?]
  · obtain ⟨level, hc⟩ := AmdgpuPanelPower.call_fst fails devices sys.action sys.files (.activateProfile p)
    simp [hs, PanelPath.callAction, hc, AmdgpuPanelPower.record, PowerEvent.reason?, PowerEvent.level?,
      PowerEvent.profile?]

/-- The last value the power source events of a run carried, `d` if none did. -/
def lastCarried {α : Type} (f : PowerEvent → Option α) (events : List PanelEvent) (d : α) : α :=
  ((events.filterMap PanelEvent.power?).filterMap f).getLast?.getD d

theorem lastCarried_power {α : Type} (f : PowerEvent → Option α) (e : PowerEvent)
    (devices : List DrmDevice) (es : List PanelEvent) (d : α) :
    lastCarried f (.power e devices :: es) d = lastCarried f es ((f e).getD d) := by
  cases h : f e <;> simp [lastCarried, h, List.filterMap_cons, PanelEvent.power?, List.getLast?_cons]

theorem lastCarried_uevent {α : Type} (f : PowerEvent → Option α) (action : String)
    (device : DrmDevice) (es : List PanelEvent) (d : α) :
    lastCarried f (.uevent action device :: es) d = lastCarried f es d := rfl

/-- After every run, whatever the action returns, the daemon's reason is the last one UPower
gave, and the action's battery level and last profile are the last ones the events
carried. -/
theorem PanelPath.run_history :
    ∀ (events : List PanelEvent) (sys : PanelPath),
      (sys.run fails events).1.reason = lastCarried PowerEvent.reason? events sys.reason ∧
      (sys.run fails events).1.action.batteryLevel =
        lastCarried PowerEvent.level? events sys.action.batteryLevel ∧
      (sys.run fails events).1.action.lastProfile =
        lastCarried PowerEvent.profile? events sys.action.lastProfile
  | [], _ => ⟨rfl, rfl, rfl⟩
  | .power e devices :: es, sys => by
    obtain ⟨hr, hl, hp⟩ := sys.step_history fails devices e
    simp only [lastCarried_power, ← hr, ← hl, ← hp]
    exact PanelPath.run_history es _
  | .uevent action device :: es, sys => PanelPath.run_history es (sys.uevent fails action device)

/-- Along every run, whatever the action returns, it mirrors the daemon's record. -/
theorem PanelPath.run_mirrors (events : List PanelEvent) (sys : PanelPath)
    (h : sys.Mirrors) : (sys.run fails events).1.Mirrors :=
  PanelPath.run_invariant fails PanelPath.Mirrors (fun sys devices e => sys.step_mirrors fails devices e)
    (fun _ _ _ h => ⟨h.1, h.2⟩) events sys h

/-- A step whose call succeeds leaves the stored level at the target, or the battery data
invalid. -/
theorem PanelPath.step_panelInv (sys : PanelPath) (devices : List DrmDevice) (e : PowerEvent)
    (h : sys.action.PanelInv) (hok : ∀ x ∈ (sys.step fails devices e).2, x.2 = .ok ()) :
    (sys.step fails devices e).1.action.PanelInv := by
  rcases sys.step_cases fails devices e with ⟨-, -, -, hs⟩ | ⟨r, -, -, -, -, hs⟩ | ⟨l, -, hs⟩ | ⟨p, -, hs⟩ <;>
    simp only [hs, PanelPath.callAction, List.mem_singleton, forall_eq] at hok ⊢
  · exact h
  all_goals exact AmdgpuPanelPower.panelInv_call fails devices _ _ _ hok

/-- From a mirrored path whose stored level is at its target, along every run in which each
call on the panel action succeeds, while the daemon knows the power source, the panel level
the action stored is `amdgpuPanelTarget` of that source and of the profile and battery level
the action recorded. -/
theorem PanelPath.run_level_recorded (events : List PanelEvent) (sys : PanelPath) (hm : sys.Mirrors)
    (hinv : sys.action.PanelInv) (hok : ∀ x ∈ (sys.run fails events).2, x.2 = .ok ())
    (hup : (sys.run fails events).1.reason ≠ .unknown) :
    (sys.run fails events).1.action.panelPowerSaving =
      amdgpuPanelTarget (onBatteryOfReason (sys.run fails events).1.reason)
        (sys.run fails events).1.action.lastProfile (sys.run fails events).1.action.batteryLevel := by
  have hm := PanelPath.run_mirrors fails events sys hm
  have hinv := PanelPath.run_invariant_ok fails (fun sys => sys.action.PanelInv)
    (fun sys devices e h hok => sys.step_panelInv fails devices e h hok) (fun _ _ _ h => h) events sys
    hinv hok
  rw [hinv (hm.validBattery.2 hup), hm.onBattery hup]

/-- From the daemon's start (`UNKNOWN`, and the action as `g_object_new` leaves it), along
every run in which each call on the panel action succeeds, once UPower has reported a power
source it has not withdrawn, the panel level the action stored is `amdgpuPanelTarget` of that
source, of the last profile activated and of the last battery percentage reported. -/
theorem PanelPath.start_level_follows (s : SysfsState) (events : List PanelEvent)
    (hok : ∀ x ∈ ((⟨.unknown, .init, s⟩ : PanelPath).run fails events).2, x.2 = .ok ())
    (hup : lastCarried PowerEvent.reason? events .unknown ≠ .unknown) :
    ((⟨.unknown, .init, s⟩ : PanelPath).run fails events).1.action.panelPowerSaving =
      amdgpuPanelTarget (onBatteryOfReason (lastCarried PowerEvent.reason? events .unknown))
        (lastCarried PowerEvent.profile? events .unset) (lastCarried PowerEvent.level? events 0) := by
  obtain ⟨hr, hl, hp⟩ := PanelPath.run_history fails events ⟨.unknown, .init, s⟩
  rw [← hr] at hup ⊢
  rw [PanelPath.run_level_recorded fails events _ (PanelPath.mirrors_start s) AmdgpuPanelPower.panelInv_init
    hok hup, hl, hp]
  rfl

/-- A laptop panel, connected, at level 0. -/
def panelConnector : String := "/sys/class/drm/card0-eDP-1"

/-- The files of `panelConnector`. -/
def panelTree : SysfsState where
  tree p :=
    if p = buildFilename panelConnector "status" then some "connected\n"
    else if p = buildFilename panelConnector panelPowerSysfsName then some "0\n"
    else none
  calls := 0

/-- Unplugged at 25 %, power-saver chosen, the unplugging announced again, a suspend, 45 %,
then the panel plugged again. -/
def panelEvening : List PanelEvent :=
  [.power (.onBattery (some true)) [⟨panelConnector, some "drm_connector"⟩],
    .power (.percentage 25) [⟨panelConnector, some "drm_connector"⟩],
    .power (.activate .powerSaver) [⟨panelConnector, some "drm_connector"⟩],
    .power (.onBattery (some true)) [⟨panelConnector, some "drm_connector"⟩],
    .power (.prepareForSleep true) [⟨panelConnector, some "drm_connector"⟩],
    .power (.percentage 45) [⟨panelConnector, some "drm_connector"⟩],
    .uevent "add" ⟨panelConnector, some "drm_connector"⟩]

theorem panelEvening_start_level_follows :
    (∀ x ∈ ((⟨.unknown, .init, panelTree⟩ : PanelPath).run (fun _ => none) panelEvening).2,
      x.2 = .ok ()) ∧
    lastCarried PowerEvent.reason? panelEvening .unknown ≠ .unknown ∧
    ((⟨.unknown, .init, panelTree⟩ : PanelPath).run (fun _ => none) panelEvening).1.action.panelPowerSaving =
      amdgpuPanelTarget (onBatteryOfReason (lastCarried PowerEvent.reason? panelEvening .unknown))
        (lastCarried PowerEvent.profile? panelEvening .unset) (lastCarried PowerEvent.level? panelEvening 0) :=
  have hok : ∀ x ∈ ((⟨.unknown, .init, panelTree⟩ : PanelPath).run (fun _ => none) panelEvening).2,
      x.2 = .ok () := by decide
  have hup : lastCarried PowerEvent.reason? panelEvening .unknown ≠ .unknown := by decide
  ⟨hok, hup, PanelPath.start_level_follows _ panelTree panelEvening hok hup⟩

set_option maxRecDepth 2000 in
example :
    ((⟨.unknown, .init, panelTree⟩ : PanelPath).run (fun _ => none) panelEvening).1.action.panelPowerSaving = 1 := by
  decide

end Mirror

/-! ### What the action writes -/

/-- Whatever the action returns, a run writes no file but the panels'
`panel_power_savings`. -/
theorem PanelPath.run_only_panel_attributes (fails : Nat → Option String)
    (events : List PanelEvent) (sys : PanelPath) {q : String}
    (hq : ∀ base, q ≠ buildFilename base panelPowerSysfsName) :
    (sys.run fails events).1.files.tree q = sys.files.tree q := by
  refine PanelPath.run_invariant fails (fun sys' => sys'.files.tree q = sys.files.tree q)
    (fun sys' devices e h => ?_)
    (fun sys' action device h => (AmdgpuPanelPower.udevUevent_frame fails _ _ action device hq).trans h)
    events sys rfl
  rcases sys'.step_cases fails devices e with ⟨-, -, -, hs⟩ | ⟨r, -, -, -, -, hs⟩ | ⟨l, -, hs⟩ | ⟨p, -, hs⟩ <;>
    simp only [hs, PanelPath.callAction]
  · exact h
  all_goals rw [AmdgpuPanelPower.call_frame fails devices _ _ _ hq]; exact h

theorem panelEvening_run_only_panel_attributes :
    (∀ base, buildFilename panelConnector "status" ≠ buildFilename base panelPowerSysfsName) ∧
    ((⟨.unknown, .init, panelTree⟩ : PanelPath).run (fun _ => none) panelEvening).1.files.tree
      (buildFilename panelConnector "status") = some "connected\n" :=
  have hq : ∀ base, buildFilename panelConnector "status" ≠ buildFilename base panelPowerSysfsName :=
    buildFilename_ne_of_not_suffix (by decide)
  ⟨hq, PanelPath.run_only_panel_attributes _ panelEvening _ hq⟩

end PowerProfiles
