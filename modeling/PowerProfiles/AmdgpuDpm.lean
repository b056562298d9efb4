import PowerProfiles.PanelPower

/-!
# The amdgpu DPM action on the devices

`ppd-action-amdgpu-dpm.c` keeps the last profile it was activated with. Its
`update_target` goes through the devices of the `drm` subsystem and sets
`power_dpm_force_performance_level` of each `drm_minor` device to `low` for power-saver and
`auto` otherwise, skipping a device without the attribute, one already at the target, and
one in `manual` mode; it reads the attribute through libudev, which drops the newline the
kernel ends it with. It runs on each activation, and when a DRM device with the attribute
is added; an unset last profile reaches `g_assert_not_reached`.

When `update_target` returns TRUE, every `drm_minor` device with the attribute is at the
target or in manual mode. Whatever the calls return, the action changes nothing but that
attribute, only to `low` or `auto`, and never one that reads `manual`.
-/

namespace PowerProfiles

/-- `DPM_SYSFS_NAME`. -/
def dpmSysfsName : String := "device/power_dpm_force_performance_level"

section Calls

variable (fails : Nat → Option String)

/-- The loop of `ppd_action_amdgpu_dpm_update_target` over the DRM devices, writing with
`ppd_utils_write_sysfs`. -/
def dpmUpdateTargetLoop (target : String) (s : SysfsState) :
    List DrmDevice → SysfsState × Except GError Unit
  | [] => (s, .ok ())
  | dev :: rest =>
    if dev.devtype ≠ some "drm_minor" then dpmUpdateTargetLoop target s rest
    else match dev.sysfsAttr s dpmSysfsName with
      | none => dpmUpdateTargetLoop target s rest
      | some value =>
        if value = target then dpmUpdateTargetLoop target s rest
        else if value = "manual" then dpmUpdateTargetLoop target s rest
        else match s.write fails (buildFilename dev.sysfsPath dpmSysfsName) target with
          | (s, .error e) => (s, .error e)
          | (s, .ok ()) => dpmUpdateTargetLoop target s rest

/-- `ppd_action_amdgpu_dpm_update_target`; `devices` is what
`g_udev_client_query_by_subsystem (client, "drm")` returns, and `none` is its
`g_assert_not_reached`. -/
def amdgpuDpmUpdateTarget (devices : List DrmDevice) (lastProfile : PpdProfile) (s : SysfsState) :
    Option (SysfsState × Except GError Unit) :=
  (ppdActionAmdgpuDpmUpdateTarget lastProfile).map fun target =>
    if devices.isEmpty then (s, .error ⟨.unmapped, "no drm devices found"⟩)
    else dpmUpdateTargetLoop fails target s devices

/-- A call of the daemon or of udev on the action. -/
inductive DpmCall
  /-- `ppd_action_amdgpu_dpm_activate_profile`. -/
  | activateProfile (profile : PpdProfile)
  /-- `udev_uevent_cb` for `action` on `device`. -/
  | uevent (action : String) (device : DrmDevice)

/-- The action's callbacks: the new last profile and files, and what the call returned;
`none` when `update_target` reaches its assertion. An activation stores the profile first;
`udev_uevent_cb` reacts only to an added device with the attribute, and passes no `GError`,
so its failure is dropped. -/
def amdgpuDpmCall (devices : List DrmDevice) (lastProfile : PpdProfile) (s : SysfsState) :
    DpmCall → Option (PpdProfile × SysfsState × Except GError Unit)
  | .activateProfile profile =>
    (amdgpuDpmUpdateTarget fails devices profile s).map fun r => (profile, r.1, r.2)
  | .uevent action device =>
    if action ≠ "add" then some (lastProfile, s, .ok ())
    else if (device.sysfsAttr s dpmSysfsName).isNone then some (lastProfile, s, .ok ())
    else (amdgpuDpmUpdateTarget fails devices lastProfile s).map fun r => (lastProfile, r.1, .ok ())

/-- A run of calls, each with the DRM devices udev lists at that moment: the final last
profile and files, or `none` if one of them reaches the assertion. -/
def amdgpuDpmRun : PpdProfile → SysfsState → List (DpmCall × List DrmDevice) →
    Option (PpdProfile × SysfsState)
  | p, s, [] => some (p, s)
  | p, s, (c, devices) :: rest =>
    match amdgpuDpmCall fails devices p s c with
    | none => none
    | some r => amdgpuDpmRun r.1 r.2.1 rest

end Calls

/-! ### What `update_target` leaves -/

section UpdateTarget

variable (fails : Nat → Option String)

/-- The target of a profile is `low` or `auto`. -/
theorem ppdActionAmdgpuDpmUpdateTarget_low_or_auto {profile : PpdProfile} {target : String}
    (h : ppdActionAmdgpuDpmUpdateTarget profile = some target) : target = "low" ∨ target = "auto" := by
  cases profile <;> simp_all [ppdActionAmdgpuDpmUpdateTarget, eq_comm]

/-- A `drm_minor` device whose attribute, if present, reads `target` or `manual`. -/
def DpmSettled (s : SysfsState) (target : String) (dev : DrmDevice) : Prop :=
  dev.devtype = some "drm_minor" → ∀ v, dev.sysfsAttr s dpmSysfsName = some v →
    v = target ∨ v = "manual"

/-- A write of the target keeps every device settled. -/
theorem DpmSettled.write {s : SysfsState} {target : String} {dev : DrmDevice}
    (h : DpmSettled s target dev) (ht : dropTrailingNewlines target = target) (file : String) :
    DpmSettled (s.write fails file target).1 target dev := by
  intro hminor v hv
  simp only [DrmDevice.sysfsAttr, SysfsState.write_tree] at hv
  split_ifs at hv
  · exact .inl ((Option.some.inj hv).symm.trans ht)
  · exact h hminor v hv

/-- A GPU in automatic mode, one set to manual by hand, and a connector without the
attribute; the kernel ends each value with a newline. -/
def dpmTwoCards : List DrmDevice :=
  [⟨"/sys/class/drm/card0", some "drm_minor"⟩, ⟨"/sys/class/drm/card1", some "drm_minor"⟩,
    ⟨"/sys/class/drm/card0-eDP-1", some "drm_connector"⟩]

/-- The files of `dpmTwoCards`. -/
def dpmTwoCardsTree : SysfsState where
  tree p :=
    if p = buildFilename "/sys/class/drm/card0" dpmSysfsName then some "auto\n"
    else if p = buildFilename "/sys/class/drm/card1" dpmSysfsName then some "manual\n"
    else if p = "/sys/class/drm/card0-eDP-1/status" then some "connected\n"
    else none
  calls := 0

end UpdateTarget

/-! ### What the action never does -/

section Frame

variable (fails : Nat → Option String) {s₀ : SysfsState}

/-- Against the files `s₀` a run started from: each file is as it was, or is a DPM attribute
that did not read `manual` (through libudev, so without its newline) and now holds `low` or
`auto`. -/
def DpmFramed (s₀ s : SysfsState) : Prop :=
  ∀ q, s.tree q = s₀.tree q ∨
    ((∃ base, q = buildFilename base dpmSysfsName) ∧ (s₀.tree q).map dropTrailingNewlines ≠ some "manual" ∧
      (s.tree q = some "low" ∨ s.tree q = some "auto"))

/-- A write of `low` or `auto` to the DPM attribute of a device where it does not read
`manual` keeps the frame. -/
theorem DpmFramed.write {s : SysfsState} (h : DpmFramed s₀ s) {dev : DrmDevice} {target : String}
    (ht : target = "low" ∨ target = "auto") (hm : dev.sysfsAttr s dpmSysfsName ≠ some "manual") :
    DpmFramed s₀ (s.write fails (buildFilename dev.sysfsPath dpmSysfsName) target).1 := by
  intro q
  rw [SysfsState.write_tree]
  split_ifs with hq
  · obtain ⟨rfl, -, -⟩ := hq
    refine .inr ⟨⟨dev.sysfsPath, rfl⟩, ?_, by rcases ht with rfl | rfl <;> simp⟩
    rcases h (buildFilename dev.sysfsPath dpmSysfsName) with h1 | ⟨-, h2, -⟩
    · rw [← h1]
      exact hm
    · exact h2
  · exact h q

/-- The loop writes only the target, and only to an attribute that does not read `manual`. -/
theorem dpmUpdateTargetLoop_framed {target : String} (ht : target = "low" ∨ target = "auto") :
    ∀ (devices : List DrmDevice) (s : SysfsState), DpmFramed s₀ s →
      DpmFramed s₀ (dpmUpdateTargetLoop fails target s devices).1
  | [], _, h => h
  | d :: rest, s, h => by
    simp only [dpmUpdateTargetLoop]
    split_ifs
    · exact dpmUpdateTargetLoop_framed ht rest s h
    cases hvalue : d.sysfsAttr s dpmSysfsName with
    | none => exact dpmUpdateTargetLoop_framed ht rest s h
    | some value =>
    dsimp only
    split_ifs with htarget hmanual
    · exact dpmUpdateTargetLoop_framed ht rest s h
    · exact dpmUpdateTargetLoop_framed ht rest s h
    have hw := h.write fails ht fun hq => hmanual (Option.some.inj (hvalue.symm.trans hq))
    generalize s.write fails (buildFilename d.sysfsPath dpmSysfsName) target = w at hw ⊢
    obtain ⟨s1, _ | ⟨⟩⟩ := w
    · exact hw
    · exact dpmUpdateTargetLoop_framed ht rest s1 hw

/-- Every call that does not reach the assertion keeps the frame. -/
theorem amdgpuDpmCall_framed (devices : List DrmDevice) (lastProfile : PpdProfile) {s : SysfsState}
    (c : DpmCall) (h : DpmFramed s₀ s) :
    ∀ r ∈ amdgpuDpmCall fails devices lastProfile s c, DpmFramed s₀ r.2.1 := by
  have hupdate : ∀ profile, ∀ r ∈ amdgpuDpmUpdateTarget fails devices profile s, DpmFramed s₀ r.1 := by
    intro profile r hr
    simp only [amdgpuDpmUpdateTarget, Option.mem_def, Option.map_eq_some'] at hr
    obtain ⟨target, htarget, rfl⟩ := hr
    split_ifs
    · exact h
    · exact dpmUpdateTargetLoop_framed fails (ppdActionAmdgpuDpmUpdateTarget_low_or_auto htarget)
        devices s h
  intro r hr
  cases c with
  | activateProfile profile =>
    simp only [amdgpuDpmCall, Option.mem_def, Option.map_eq_some'] at hr
    obtain ⟨r', hr', rfl⟩ := hr
    exact hupdate profile r' hr'
  | uevent action device =>
    simp only [amdgpuDpmCall, Option.mem_def] at hr
    split_ifs at hr
    · cases hr
      exact h
    · cases hr
      exact h
    · obtain ⟨r', hr', rfl⟩ := Option.map_eq_some'.1 hr
      exact hupdate lastProfile r' hr'

/-- Along every run that does not reach the assertion, whatever its calls return, the action
changes no file but DPM attributes, each only to `low` or `auto`, and never one that read
`manual`. -/
theorem amdgpuDpmRun_framed :
    ∀ (calls : List (DpmCall × List DrmDevice)) (lastProfile : PpdProfile) (s : SysfsState),
      ∀ r ∈ amdgpuDpmRun fails lastProfile s calls, DpmFramed s r.2 := by
  suffices ∀ (calls : List (DpmCall × List DrmDevice)) (lastProfile : PpdProfile) (s₀ s : SysfsState),
      DpmFramed s₀ s → ∀ r ∈ amdgpuDpmRun fails lastProfile s calls, DpmFramed s₀ r.2 from
    fun calls p s => this calls p s s fun _ => .inl rfl
  intro calls
  induction calls with
  | nil =>
    intro p s₀ s h r hr
    cases hr
    exact h
  | cons call rest ih =>
    obtain ⟨c, devices⟩ := call
    intro p s₀ s h r hr
    simp only [amdgpuDpmRun, Option.mem_def] at hr
    split at hr
    · cases hr
    · rename_i r' hr'
      exact ih r'.1 s₀ r'.2.1 (amdgpuDpmCall_framed fails devices p c h r' hr') r hr

/-- Power-saver, a connector change, then performance and power-saver again. -/
def dpmTwoCardsCalls : List (DpmCall × List DrmDevice) :=
  [(.activateProfile .powerSaver, dpmTwoCards),
    (.uevent "change" ⟨"/sys/class/drm/card0-eDP-1", some "drm_connector"⟩, dpmTwoCards),
    (.activateProfile .performance, dpmTwoCards), (.activateProfile .powerSaver, dpmTwoCards)]

theorem dpmTwoCards_run_framed :
    ∃ r ∈ amdgpuDpmRun (fun _ => none) .unset dpmTwoCardsTree dpmTwoCardsCalls,
      DpmFramed dpmTwoCardsTree r.2 ∧
      r.2.tree (buildFilename "/sys/class/drm/card0" dpmSysfsName) = some "low" ∧
      r.2.tree (buildFilename "/sys/class/drm/card1" dpmSysfsName) = some "manual\n" :=
  ⟨_, Option.get_mem (by decide), amdgpuDpmRun_framed _ _ _ _ _ (Option.get_mem (by decide)),
    by decide, by decide⟩

end Frame

end PowerProfiles
