import PowerProfiles.CpuDrivers
import Mathlib.Algebra.Order.Field.Rat
import Mathlib.Tactic.Linarith

/-!
# The amdgpu panel power action

`ppd-action-amdgpu-panel-power.c` keeps the last profile, the battery state UPower
reported and the panel power saving level it last wrote. Each of its three callbacks
updates its record and, except `activate_profile` without valid battery data and
`power_changed` to an unknown source, calls `update_target`, which computes a level from
the record and writes it to the first connected eDP panel whose level differs.

`amdgpuPanelTarget` is that computation. Whenever a callback succeeds, the stored level is
the target of the current record, or the battery data is marked invalid; so along every
sequence of successful calls, valid battery data means the panel level is the target. The
target is 0 on AC, falls as the battery charges and is ordered by profile. A `gdouble`
battery level is a rational here: every finite double is one, and the code only compares
it with integers.
-/

namespace PowerProfiles

/-- The fields of `PpdActionAmdgpuPanelPower` its callbacks use. -/
structure AmdgpuPanelPower where
  /-- `last_profile`. -/
  lastProfile : PpdProfile
  /-- `panel_power_saving`. -/
  panelPowerSaving : Int
  /-- `valid_battery`. -/
  validBattery : Bool
  /-- `on_battery`. -/
  onBattery : Bool
  /-- `battery_level`. -/
  batteryLevel : ℚ

/-- The action as `g_object_new` leaves it: every field zero, so `last_profile` is
`PPD_PROFILE_UNSET`. -/
def AmdgpuPanelPower.init : AmdgpuPanelPower := ⟨.unset, 0, false, false, 0⟩

/-! ### Writing the panel -/

/-- `PANEL_POWER_SYSFS_NAME`. -/
def panelPowerSysfsName : String := "amdgpu/panel_power_savings"

/-- A device of the `drm` subsystem: its sysfs path and `DEVTYPE`; its attributes are the
files under the path. -/
structure DrmDevice where
  /-- `g_udev_device_get_sysfs_path`. -/
  sysfsPath : String
  /-- `g_udev_device_get_devtype`. -/
  devtype : Option String

/-- What libudev's `udev_device_get_sysattr_value` makes of a sysfs file's contents: the
contents without their trailing newlines. -/
def dropTrailingNewlines (value : String) : String :=
  ⟨(value.data.reverse.dropWhile fun c => c == '\n').reverse⟩

/-- `g_udev_device_get_sysfs_attr_uncached`: the attribute file read again, as libudev returns
it, so `manual` followed by the kernel's newline reads `manual`. -/
def DrmDevice.sysfsAttr (s : SysfsState) (dev : DrmDevice) (name : String) : Option String :=
  (s.tree (buildFilename dev.sysfsPath name)).map dropTrailingNewlines

/-- `panel_connected`. -/
def panelConnected (s : SysfsState) (dev : DrmDevice) : Bool :=
  match dev.sysfsAttr s "status" with
  | none => false
  | some value => gStrchomp value = "connected"

/-- `G_MAXUINT64`. -/
def gMaxuint64 : Nat := 2 ^ 64 - 1

/-- The number the decimal digits at the start of `cs` spell, after `acc`. -/
def decimalDigitsValue : List Char → Nat → Nat
  | c :: cs, acc => if c.isDigit then decimalDigitsValue cs (acc * 10 + (c.toNat - '0'.toNat)) else acc
  | [], acc => acc

/-- `g_ascii_strtoull (value, NULL, 10)`: leading white space, an optional sign and decimal
digits; a value past `G_MAXUINT64` gives `G_MAXUINT64`, and `-` negates modulo 2^64. -/
def gAsciiStrtoull (value : String) : Nat :=
  let cs := value.data.dropWhile fun c => [' ', '\t', '\n', '\x0b', '\x0c', '\r'].contains c
  let (negative, digits) : Bool × List Char :=
    match cs with
    | '-' :: rest => (true, rest)
    | '+' :: rest => (false, rest)
    | _ => (false, cs)
  let n := decimalDigitsValue digits 0
  if n > gMaxuint64 then gMaxuint64
  else if negative then (2 ^ 64 - n) % 2 ^ 64 else n

/-- The loop of `set_panel_power`: skip what is not a connected connector with the attribute
or already holds `power` (compared as `guint64`), write the first other panel and stop. -/
def setPanelPowerLoop (fails : Nat → Option String) (power : Int) (s : SysfsState) :
    List DrmDevice → SysfsState × Except GError Unit
  | [] => (s, .ok ())
  | dev :: rest =>
    if dev.devtype ≠ some "drm_connector" then setPanelPowerLoop fails power s rest
    else if !panelConnected s dev then setPanelPowerLoop fails power s rest
    else match dev.sysfsAttr s panelPowerSysfsName with
      | none => setPanelPowerLoop fails power s rest
      | some value =>
        let parsed := gAsciiStrtoull value
        if parsed = gMaxuint64 then
          (s, .error ⟨.unmapped, "cannot parse " ++ value ++ " as caused overflow"⟩)
        else if parsed = (power % 2 ^ 64).toNat then setPanelPowerLoop fails power s rest
        else s.write fails (buildFilename dev.sysfsPath panelPowerSysfsName) (toString power)

/-- `set_panel_power`; `devices` is what `g_udev_client_query_by_subsystem (client, "drm")`
returns. -/
def setPanelPower (fails : Nat → Option String) (devices : List DrmDevice) (s : SysfsState)
    (power : Int) : SysfsState × Except GError Unit :=
  if devices.isEmpty then (s, .error ⟨.unmapped, "no drm devices found"⟩)
  else setPanelPowerLoop fails power s devices

/-! ### The callbacks -/

/-- The `switch` of `ppd_action_amdgpu_panel_update_target`: the level for the battery
state and the last profile. -/
def amdgpuPanelTarget (onBattery : Bool) (lastProfile : PpdProfile) (batteryLevel : ℚ) : Int :=
  if onBattery then
    match lastProfile with
    | .powerSaver =>
      if batteryLevel = 0 ∨ batteryLevel ≥ 50 then 0
      else if batteryLevel > 30 then 1
      else if batteryLevel > 20 ∧ batteryLevel ≤ 30 then 2
      else 3
    | .balanced => if batteryLevel = 0 ∨ batteryLevel ≥ 30 then 0 else 1
    | .performance => 0
    | .unset => 0
  else 0

section Callbacks

variable (fails : Nat → Option String) (devices : List DrmDevice)

/-- `ppd_action_amdgpu_panel_update_target`. -/
def AmdgpuPanelPower.updateTarget (self : AmdgpuPanelPower) (s : SysfsState) :
    AmdgpuPanelPower × SysfsState × Except GError Unit :=
  let target := amdgpuPanelTarget self.onBattery self.lastProfile self.batteryLevel
  match setPanelPower fails devices s target with
  | (s, .error e) => (self, s, .error e)
  | (s, .ok ()) => ({ self with panelPowerSaving := target }, s, .ok ())

/-- `ppd_action_amdgpu_panel_power_activate_profile`. -/
def AmdgpuPanelPower.activateProfile (self : AmdgpuPanelPower) (s : SysfsState)
    (profile : PpdProfile) : AmdgpuPanelPower × SysfsState × Except GError Unit :=
  let self := { self with lastProfile := profile }
  if !self.validBattery then (self, s, .ok ()) else self.updateTarget fails devices s

/-- `ppd_action_amdgpu_panel_power_power_changed`. -/
def AmdgpuPanelPower.powerChanged (self : AmdgpuPanelPower) (s : SysfsState) :
    PpdPowerChangedReason → AmdgpuPanelPower × SysfsState × Except GError Unit
  | .unknown => ({ self with validBattery := false }, s, .ok ())
  | .ac => { self with onBattery := false, validBattery := true }.updateTarget fails devices s
  | .battery => { self with onBattery := true, validBattery := true }.updateTarget fails devices s

/-- `ppd_action_amdgpu_panel_power_battery_changed`. -/
def AmdgpuPanelPower.batteryChanged (self : AmdgpuPanelPower) (s : SysfsState) (val : ℚ) :
    AmdgpuPanelPower × SysfsState × Except GError Unit :=
  { self with batteryLevel := val }.updateTarget fails devices s

/-- A call of the daemon on the action. -/
inductive PanelCall
  | activateProfile (profile : PpdProfile)
  | powerChanged (reason : PpdPowerChangedReason)
  | batteryChanged (level : ℚ)

/-- Dispatch a call to its callback. -/
def AmdgpuPanelPower.call (self : AmdgpuPanelPower) (s : SysfsState) :
    PanelCall → AmdgpuPanelPower × SysfsState × Except GError Unit
  | .activateProfile profile => self.activateProfile fails devices s profile
  | .powerChanged reason => self.powerChanged fails devices s reason
  | .batteryChanged level => self.batteryChanged fails devices s level

/-- `udev_uevent_cb`: an added device with the attribute that is a connected panel gets the
stored level; the result of the write is dropped. -/
def AmdgpuPanelPower.udevUevent (self : AmdgpuPanelPower) (s : SysfsState) (action : String)
    (device : DrmDevice) : SysfsState :=
  if action ≠ "add" then s
  else if (device.sysfsAttr s panelPowerSysfsName).isNone then s
  else if !panelConnected s device then s
  else (s.write fails (buildFilename device.sysfsPath panelPowerSysfsName) (toString self.panelPowerSaving)).1

end Callbacks

/-- A sequence of calls, each with the DRM devices `udev` lists at that moment; `none` if
one of them fails. -/
def AmdgpuPanelPower.runCalls (fails : Nat → Option String) :
    AmdgpuPanelPower → SysfsState → List (PanelCall × List DrmDevice) →
      Option (AmdgpuPanelPower × SysfsState)
  | self, s, [] => some (self, s)
  | self, s, (c, devices) :: rest =>
    match self.call fails devices s c with
    | (self, s, .ok ()) => runCalls fails self s rest
    | (_, _, .error _) => none

/-! ### The stored level follows the target -/

/-- While the battery data is valid, the stored level is the target of the record. -/
def AmdgpuPanelPower.PanelInv (self : AmdgpuPanelPower) : Prop :=
  self.validBattery = true →
    self.panelPowerSaving = amdgpuPanelTarget self.onBattery self.lastProfile self.batteryLevel

theorem AmdgpuPanelPower.panelInv_init : AmdgpuPanelPower.init.PanelInv := nofun

/-- A successful `update_target` stores the target. -/
theorem AmdgpuPanelPower.updateTarget_ok (fails : Nat → Option String) (devices : List DrmDevice)
    (self : AmdgpuPanelPower) (s : SysfsState)
    (h : (self.updateTarget fails devices s).2.2 = .ok ()) :
    (self.updateTarget fails devices s).1 =
      { self with panelPowerSaving := amdgpuPanelTarget self.onBattery self.lastProfile self.batteryLevel } := by
  unfold AmdgpuPanelPower.updateTarget at h ⊢
  dsimp only at h ⊢
  generalize setPanelPower fails devices s _ = w at h ⊢
  obtain ⟨s', r⟩ := w
  cases r with
  | error e => nomatch h
  | ok u => rfl

theorem AmdgpuPanelPower.panelInv_updateTarget (fails : Nat → Option String) (devices : List DrmDevice)
    (self : AmdgpuPanelPower) (s : SysfsState)
    (h : (self.updateTarget fails devices s).2.2 = .ok ()) :
    (self.updateTarget fails devices s).1.PanelInv := by
  rw [updateTarget_ok fails devices self s h]
  exact fun _ => rfl

/-- Every call that succeeds leaves the stored level at the target, or the battery data
invalid. -/
theorem AmdgpuPanelPower.panelInv_call (fails : Nat → Option String) (devices : List DrmDevice)
    (self : AmdgpuPanelPower) (s : SysfsState) (c : PanelCall)
    (h : (self.call fails devices s c).2.2 = .ok ()) : (self.call fails devices s c).1.PanelInv := by
  cases c with
  | activateProfile profile =>
    simp only [call, activateProfile] at h ⊢
    split_ifs at h ⊢ with hvalid
    · simp_all [PanelInv]
    · exact panelInv_updateTarget fails devices _ s h
  | powerChanged reason =>
    cases reason
    · exact nofun
    all_goals exact panelInv_updateTarget fails devices _ s h
  | batteryChanged level => exact panelInv_updateTarget fails devices _ s h

/-- Along every sequence of successful calls, valid battery data means the stored level is
the target. -/
theorem AmdgpuPanelPower.panelInv_runCalls (fails : Nat → Option String) :
    ∀ (calls : List (PanelCall × List DrmDevice)) (self : AmdgpuPanelPower) (s : SysfsState)
      (self' : AmdgpuPanelPower) (s' : SysfsState),
      self.PanelInv → self.runCalls fails s calls = some (self', s') → self'.PanelInv := by
  intro calls
  induction calls with
  | nil =>
    intro self s self' s' hinv h
    cases h
    exact hinv
  | cons c rest ih =>
    obtain ⟨c, devices⟩ := c
    intro self s self' s' _ h
    have hinv := panelInv_call fails devices self s c
    simp only [runCalls] at h
    generalize self.call fails devices s c = w at h hinv
    obtain ⟨self1, s1, _ | ⟨⟩⟩ := w
    · cases h
    · exact ih self1 s1 self' s' (hinv rfl) h

/-! ### The shape of the target -/

/-- On AC the panel saves nothing. -/
theorem amdgpuPanelTarget_ac (profile : PpdProfile) (level : ℚ) :
    amdgpuPanelTarget false profile level = 0 := rfl

/-- For a positive battery level, the power-saver target by its thresholds. -/
theorem amdgpuPanelTarget_powerSaver {level : ℚ} (h : 0 < level) :
    amdgpuPanelTarget true .powerSaver level =
      if 50 ≤ level then 0 else if 30 < level then 1 else if 20 < level then 2 else 3 := by
  simp only [amdgpuPanelTarget, if_true, h.ne', false_or, ge_iff_le, gt_iff_lt]
  by_cases h30 : 30 < level
  · simp [h30]
  · simp [h30, le_of_not_lt h30]

/-- For a positive battery level, the balanced target by its threshold. -/
theorem amdgpuPanelTarget_balanced {level : ℚ} (h : 0 < level) :
    amdgpuPanelTarget true .balanced level = if 30 ≤ level then 0 else 1 := by
  simp [amdgpuPanelTarget, h.ne']

/-- On battery, for each profile, the level falls as the battery charges. -/
theorem amdgpuPanelTarget_antitone (profile : PpdProfile) {l1 l2 : ℚ} (h1 : 0 < l1) (h12 : l1 ≤ l2) :
    amdgpuPanelTarget true profile l2 ≤ amdgpuPanelTarget true profile l1 := by
  have h2 : 0 < l2 := lt_of_lt_of_le h1 h12
  cases profile with
  | unset | performance => exact le_rfl
  | powerSaver =>
    rw [amdgpuPanelTarget_powerSaver h1, amdgpuPanelTarget_powerSaver h2]
    split_ifs <;> norm_num <;> linarith
  | balanced =>
    rw [amdgpuPanelTarget_balanced h1, amdgpuPanelTarget_balanced h2]
    split_ifs <;> norm_num
    linarith

/-- On battery, power-saver saves at least as much as balanced, and balanced at least as
much as performance. -/
theorem amdgpuPanelTarget_ordered {level : ℚ} (h : 0 < level) :
    amdgpuPanelTarget true .performance level ≤ amdgpuPanelTarget true .balanced level ∧
    amdgpuPanelTarget true .balanced level ≤ amdgpuPanelTarget true .powerSaver level := by
  rw [amdgpuPanelTarget_powerSaver h, amdgpuPanelTarget_balanced h,
    show amdgpuPanelTarget true .performance level = 0 from rfl]
  constructor <;> split_ifs <;> norm_num
  linarith

/-- For every sequence of successful calls from a new action, in every state where the
battery data is valid, the panel level is `amdgpuPanelTarget` of the record; that target
is 0 on AC and, for battery levels in (0, 100], falls as the level rises and is ordered
power-saver ≥ balanced ≥ performance. -/
theorem amdgpuPanel_level_follows_target :
    (∀ (fails : Nat → Option String) (s : SysfsState) (calls : List (PanelCall × List DrmDevice))
        (self : AmdgpuPanelPower) (s' : SysfsState),
      AmdgpuPanelPower.init.runCalls fails s calls = some (self, s') → self.validBattery = true →
        self.panelPowerSaving = amdgpuPanelTarget self.onBattery self.lastProfile self.batteryLevel) ∧
    (∀ (profile : PpdProfile) (level : ℚ), amdgpuPanelTarget false profile level = 0) ∧
    (∀ (profile : PpdProfile) (l1 l2 : ℚ), 0 < l1 → l1 ≤ l2 → l2 ≤ 100 →
      amdgpuPanelTarget true profile l2 ≤ amdgpuPanelTarget true profile l1) ∧
    (∀ level : ℚ, 0 < level → level ≤ 100 →
      amdgpuPanelTarget true .performance level ≤ amdgpuPanelTarget true .balanced level ∧
      amdgpuPanelTarget true .balanced level ≤ amdgpuPanelTarget true .powerSaver level) :=
  ⟨fun fails s calls _ _ h =>
      AmdgpuPanelPower.panelInv_runCalls fails calls _ s _ _ AmdgpuPanelPower.panelInv_init h,
    amdgpuPanelTarget_ac,
    fun profile _ _ h1 h12 _ => amdgpuPanelTarget_antitone profile h1 h12,
    fun _ h _ => amdgpuPanelTarget_ordered h⟩

end PowerProfiles
