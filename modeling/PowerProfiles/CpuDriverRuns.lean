import PowerProfiles.CpuDrivers

/-!
# The CPU drivers over a run

Besides `activate_profile`, the daemon calls a CPU driver when UPower reports a new power
source (`power_changed`) and when logind announces a suspend or a resume
(`prepare_to_sleep`). Both drivers record the source in `on_battery` and write the
preferences of `activated_profile` again; intel_pstate also writes them again on resume.
`ppd-driver.c` dispatches each call: it answers TRUE for a callback a driver does not have,
and refuses a profile that is not a single flag before the driver sees it.

A call that succeeds, a suspend notice apart, leaves every file of the driver holding the
value for the activated profile and the recorded power source, whatever the files held
before; so along every run of successful calls the files follow the driver's record. And
whatever the calls return, a driver writes no file but its own: intel_pstate its EPP and
EPB files, amd_pstate four attributes of each policy directory, never the frequency files
it reads.
-/

namespace PowerProfiles

/-- The `switch` on the reason in both drivers' `power_changed`: only a battery counts. The
`default` branch is unreachable. -/
def onBatteryOfReason : PpdPowerChangedReason → Bool
  | .unknown => false
  | .ac => false
  | .battery => true

/-- A call of the daemon on a CPU driver. -/
inductive CpuDriverCall
  /-- `ppd_driver_activate_profile`; neither driver reads the activation reason. -/
  | activateProfile (profile : PpdProfile)
  /-- `ppd_driver_power_changed`. -/
  | powerChanged (reason : PpdPowerChangedReason)
  /-- `ppd_driver_prepare_to_sleep`: `start` is TRUE before a suspend, FALSE on resume. -/
  | prepareForSleep (start : Bool)
  deriving DecidableEq, Repr

/-! ### Sequences of writes -/

/-- Write each value to its file in order, stopping at the first failure: the shape of
every loop of `ppd_utils_write` calls in the drivers. -/
def SysfsState.writeAll (fails : Nat → Option String) (s : SysfsState) :
    List (String × String) → SysfsState × Except GError Unit
  | [] => (s, .ok ())
  | (file, value) :: rest =>
    match s.write fails file value with
    | (s, .error e) => (s, .error e)
    | (s, .ok ()) => SysfsState.writeAll fails s rest

section WriteAll

variable (fails : Nat → Option String)

/-- Files that no write names keep their contents. -/
theorem SysfsState.writeAll_frame {p : String} :
    ∀ (writes : List (String × String)) (s : SysfsState), p ∉ writes.map Prod.fst →
      (s.writeAll fails writes).1.tree p = s.tree p
  | [], _, _ => rfl
  | (file, value) :: rest, s, hp => by
    simp only [List.map_cons, List.mem_cons, not_or] at hp
    have h1 := SysfsState.write_tree_of_ne fails s value hp.1
    simp only [SysfsState.writeAll]
    generalize s.write fails file value = w at h1 ⊢
    obtain ⟨s1, _ | _⟩ := w
    · exact h1
    · exact (SysfsState.writeAll_frame rest s1 hp.2).trans h1

/-- No sequence of writes creates or removes a file. -/
theorem SysfsState.writeAll_isSome (p : String) :
    ∀ (writes : List (String × String)) (s : SysfsState),
      ((s.writeAll fails writes).1.tree p).isSome = (s.tree p).isSome
  | [], _ => rfl
  | (file, value) :: rest, s => by
    have h1 := SysfsState.write_isSome fails s file value p
    simp only [SysfsState.writeAll]
    generalize s.write fails file value = w at h1 ⊢
    obtain ⟨s1, _ | _⟩ := w
    · exact h1
    · exact (SysfsState.writeAll_isSome p rest s1).trans h1

/-- After a sequence of writes to distinct files that succeeds, every file holds its value,
unless the value is empty. -/
theorem SysfsState.writeAll_ok_tree :
    ∀ (writes : List (String × String)) (s : SysfsState), (writes.map Prod.fst).Nodup →
      (s.writeAll fails writes).2 = .ok () →
      ∀ f v, (f, v) ∈ writes → v.length ≠ 0 → (s.writeAll fails writes).1.tree f = some v
  | [], _, _, _, _, _, h, _ => absurd h (List.not_mem_nil _)
  | (file, value) :: rest, s, hnodup, hok, f, v, hmem, hv => by
    simp only [List.map_cons, List.nodup_cons] at hnodup
    have h1 := SysfsState.write_tree fails s file value file
    simp only [SysfsState.writeAll] at hok ⊢
    generalize s.write fails file value = w at h1 hok ⊢
    obtain ⟨s1, _ | ⟨⟩⟩ := w
    · exact absurd hok nofun
    rcases List.mem_cons.1 hmem with heq | hin
    · obtain ⟨rfl, rfl⟩ := Prod.mk.inj heq
      rw [SysfsState.writeAll_frame fails rest s1 hnodup.1, h1]
      simp [hv]
    · exact SysfsState.writeAll_ok_tree rest s1 hnodup.2 hok f v hin hv

end WriteAll

/-! ### The callbacks -/

section Callbacks

variable (fails : Nat → Option String)

/-- `ppd_driver_intel_pstate_power_changed`. -/
def IntelPstate.powerChanged (pstate : IntelPstate) (s : SysfsState)
    (reason : PpdPowerChangedReason) : IntelPstate × SysfsState × Except GError Unit :=
  let pstate := { pstate with onBattery := onBatteryOfReason reason }
  pstate.applyPrefToDevices fails s pstate.activatedProfile

/-- `ppd_driver_intel_pstate_prepare_for_sleep`: nothing before a suspend; on resume the
activated profile is written again. -/
def IntelPstate.prepareForSleep (pstate : IntelPstate) (s : SysfsState) (start : Bool) :
    IntelPstate × SysfsState × Except GError Unit :=
  if start then (pstate, s, .ok ())
  else match pstate.applyPrefToDevices fails s pstate.activatedProfile with
    | (pstate, s, .error e) =>
      (pstate, s, .error (gPrefixError e "Could not reapply energy_perf_bias preference on resume: "))
    | (pstate, s, .ok ()) => (pstate, s, .ok ())

/-- intel_pstate behind the dispatch of `ppd-driver.c`. -/
def IntelPstate.call (pstate : IntelPstate) (s : SysfsState) :
    CpuDriverCall → IntelPstate × SysfsState × Except GError Unit
  | .activateProfile profile =>
    if profile.hasSingleFlag then pstate.applyPrefToDevices fails s profile
    else (pstate, s, .error ⟨.failed, ""⟩)
  | .powerChanged reason => pstate.powerChanged fails s reason
  | .prepareForSleep start => pstate.prepareForSleep fails s start

/-- `ppd_driver_amd_pstate_power_changed`. `epp_devices` is set whenever the daemon holds
the driver, since its probe succeeded; a `NULL` array is read as an empty one. -/
def AmdPstate.powerChanged (pstate : AmdPstate) (s : SysfsState)
    (reason : PpdPowerChangedReason) : AmdPstate × SysfsState × Except GError Unit :=
  let pstate := { pstate with onBattery := onBatteryOfReason reason }
  match amdApplyPrefToDevices fails s (pstate.eppDevices.getD []) pstate.activatedProfile
      pstate.onBattery with
  | (s, r) => (pstate, s, r)

/-- amd_pstate behind the dispatch of `ppd-driver.c`; it has no `prepare_to_sleep`. -/
def AmdPstate.call (pstate : AmdPstate) (s : SysfsState) :
    CpuDriverCall → AmdPstate × SysfsState × Except GError Unit
  | .activateProfile profile =>
    if profile.hasSingleFlag then pstate.activateProfile fails s profile
    else (pstate, s, .error ⟨.failed, ""⟩)
  | .powerChanged reason => pstate.powerChanged fails s reason
  | .prepareForSleep _ => (pstate, s, .ok ())

end Callbacks

/-! ### Runs -/

/-- A run of calls on a driver: the final driver and files, and what each call returned.
The daemon only logs a failed call, so the run goes on after it. -/
def cpuDriverRun {σ : Type} (call : σ → SysfsState → CpuDriverCall → σ × SysfsState × Except GError Unit) :
    σ → SysfsState → List CpuDriverCall → σ × SysfsState × List (Except GError Unit)
  | d, s, [] => (d, s, [])
  | d, s, c :: cs =>
    let out := call d s c
    let rest := cpuDriverRun call out.1 out.2.1 cs
    (rest.1, rest.2.1, out.2.2 :: rest.2.2)

section Run

variable {σ : Type} (call : σ → SysfsState → CpuDriverCall → σ × SysfsState × Except GError Unit)
  (P : σ → SysfsState → Prop)

/-- What every call keeps holds after every run. -/
theorem cpuDriverRun_invariant (hstep : ∀ d s c, P d s → P (call d s c).1 (call d s c).2.1) :
    ∀ cs d s, P d s → P (cpuDriverRun call d s cs).1 (cpuDriverRun call d s cs).2.1
  | [], _, _, h => h
  | c :: cs, d, s, h => cpuDriverRun_invariant hstep cs _ _ (hstep d s c h)

/-- What every successful call keeps holds after every run of successful calls. -/
theorem cpuDriverRun_invariant_ok
    (hstep : ∀ d s c, P d s → (call d s c).2.2 = .ok () → P (call d s c).1 (call d s c).2.1) :
    ∀ cs d s, P d s → (∀ r ∈ (cpuDriverRun call d s cs).2.2, r = .ok ()) →
      P (cpuDriverRun call d s cs).1 (cpuDriverRun call d s cs).2.1
  | [], _, _, h, _ => h
  | c :: cs, d, s, h, hok => by
    simp only [cpuDriverRun, List.mem_cons, forall_eq_or_imp] at hok ⊢
    exact cpuDriverRun_invariant_ok hstep cs _ _ (hstep d s c h hok.1) hok.2

end Run

/-! ### intel_pstate -/

section Intel

variable (fails : Nat → Option String)

theorem profileToEppPref_length {profile : PpdProfile} (hp : profile ≠ .unset) (battery : Bool) :
    (profileToEppPref profile battery).length ≠ 0 := by
  cases profile <;> cases battery <;> first | exact absurd rfl hp | decide

theorem intelProfileToEpbPref_length {profile : PpdProfile} (hp : profile ≠ .unset) (battery : Bool) :
    (intelProfileToEpbPref profile battery).length ≠ 0 := by
  cases profile <;> cases battery <;> first | exact absurd rfl hp | decide

/-- `if (devices) ppd_utils_write_files (...)` that returns TRUE leaves every listed file
holding the value. -/
theorem writeFilesIfPresent_ok_tree (s : SysfsState) (devices : Option (List String))
    (value : String) (h : (writeFilesIfPresent fails s devices value).2 = .ok ()) (p : String) :
    (writeFilesIfPresent fails s devices value).1.tree p =
      if p ∈ devices.getD [] ∧ value.length ≠ 0 then some value else s.tree p := by
  cases devices with
  | none => simp [writeFilesIfPresent]
  | some devices => exact ppdUtilsWriteFiles_ok_tree fails s devices value h p

theorem writeFilesIfPresent_frame (s : SysfsState) (devices : Option (List String))
    (value : String) {p : String} (hp : p ∉ devices.getD []) :
    (writeFilesIfPresent fails s devices value).1.tree p = s.tree p := by
  cases devices with
  | none => rfl
  | some devices => exact ppdUtilsWriteFiles_frame fails s devices value hp

theorem writeFilesIfPresent_isSome (s : SysfsState) (devices : Option (List String))
    (value p : String) :
    ((writeFilesIfPresent fails s devices value).1.tree p).isSome = (s.tree p).isSome := by
  cases devices with
  | none => rfl
  | some devices => exact ppdUtilsWriteFiles_isSome fails value p devices s

/-- What writing the EPP or the EPB files keeps of the files, `apply_pref_to_devices` keeps,
whatever it returns. -/
theorem IntelPstate.applyPrefToDevices_keeps (P : SysfsState → Prop) (pstate : IntelPstate)
    (hP : ∀ s value, P s → P (writeFilesIfPresent fails s pstate.eppDevices value).1 ∧
      P (writeFilesIfPresent fails s pstate.epbDevices value).1)
    (s : SysfsState) (profile : PpdProfile) (h : P s) : P (pstate.applyPrefToDevices fails s profile).2.1 := by
  unfold IntelPstate.applyPrefToDevices
  split_ifs
  · exact h
  · exact h
  · exact h
  have h1 := (hP s (profileToEppPref profile pstate.onBattery) h).1
  generalize writeFilesIfPresent fails s pstate.eppDevices _ = w1 at h1
  obtain ⟨s1, _ | _⟩ := w1
  · exact h1
  have h2 := (hP s1 (intelProfileToEpbPref profile pstate.onBattery) h1).2
  dsimp only
  generalize writeFilesIfPresent fails s1 pstate.epbDevices _ = w2 at h2
  obtain ⟨s2, _ | _⟩ := w2 <;> exact h2

/-- `apply_pref_to_devices` creates and removes no file. -/
theorem IntelPstate.applyPrefToDevices_isSome (pstate : IntelPstate) (s : SysfsState)
    (profile : PpdProfile) (p : String) :
    ((pstate.applyPrefToDevices fails s profile).2.1.tree p).isSome = (s.tree p).isSome :=
  IntelPstate.applyPrefToDevices_keeps fails (fun s' => (s'.tree p).isSome = (s.tree p).isSome) pstate
    (fun s' value h => ⟨(writeFilesIfPresent_isSome fails s' _ value p).trans h,
      (writeFilesIfPresent_isSome fails s' _ value p).trans h⟩) s profile rfl

/-- `apply_pref_to_devices` either keeps the record or records the profile. -/
theorem IntelPstate.applyPrefToDevices_fst (pstate : IntelPstate) (s : SysfsState)
    (profile : PpdProfile) :
    (pstate.applyPrefToDevices fails s profile).1 = pstate ∨
      (pstate.applyPrefToDevices fails s profile).1 = { pstate with activatedProfile := profile } := by
  unfold IntelPstate.applyPrefToDevices
  split_ifs
  · exact .inl rfl
  · exact .inl rfl
  · exact .inl rfl
  generalize writeFilesIfPresent fails s pstate.eppDevices _ = w1
  obtain ⟨s1, _ | _⟩ := w1
  · exact .inl rfl
  dsimp only
  generalize writeFilesIfPresent fails s1 pstate.epbDevices _ = w2
  obtain ⟨s2, _ | _⟩ := w2
  · exact .inl rfl
  · exact .inr rfl

/-- `apply_pref_to_devices` writes only the EPP and EPB files. -/
theorem IntelPstate.applyPrefToDevices_frame (pstate : IntelPstate) (s : SysfsState)
    (profile : PpdProfile) {p : String} (hepp : p ∉ pstate.eppDevices.getD [])
    (hepb : p ∉ pstate.epbDevices.getD []) :
    (pstate.applyPrefToDevices fails s profile).2.1.tree p = s.tree p :=
  IntelPstate.applyPrefToDevices_keeps fails (fun s' => s'.tree p = s.tree p) pstate
    (fun s' value h => ⟨(writeFilesIfPresent_frame fails s' _ value hepp).trans h,
      (writeFilesIfPresent_frame fails s' _ value hepb).trans h⟩) s profile rfl

/-- An `apply_pref_to_devices` that returns TRUE for a profile records it and leaves the EPB
files holding its bias and the other EPP files its preference. -/
theorem IntelPstate.applyPrefToDevices_ok (pstate : IntelPstate) (s : SysfsState)
    {profile : PpdProfile} (hp : profile ≠ .unset)
    (h : (pstate.applyPrefToDevices fails s profile).2.2 = .ok ()) :
    (pstate.applyPrefToDevices fails s profile).1 = { pstate with activatedProfile := profile } ∧
    ∀ p, (pstate.applyPrefToDevices fails s profile).2.1.tree p =
      if p ∈ pstate.epbDevices.getD [] then some (intelProfileToEpbPref profile pstate.onBattery)
      else if p ∈ pstate.eppDevices.getD [] then some (profileToEppPref profile pstate.onBattery)
      else s.tree p := by
  unfold IntelPstate.applyPrefToDevices at h ⊢
  rw [if_neg hp] at h ⊢
  split_ifs at h ⊢
  have hepp := writeFilesIfPresent_ok_tree fails s pstate.eppDevices
    (profileToEppPref profile pstate.onBattery)
  generalize writeFilesIfPresent fails s pstate.eppDevices _ = w1 at hepp h ⊢
  obtain ⟨s1, _ | _⟩ := w1
  · exact absurd h nofun
  have hepb := writeFilesIfPresent_ok_tree fails s1 pstate.epbDevices
    (intelProfileToEpbPref profile pstate.onBattery)
  dsimp only at h ⊢
  generalize writeFilesIfPresent fails s1 pstate.epbDevices _ = w2 at hepb h ⊢
  obtain ⟨s2, _ | _⟩ := w2
  · exact absurd h nofun
  refine ⟨rfl, fun p => ?_⟩
  rw [hepb rfl p, hepp rfl p]
  simp only [ne_eq, profileToEppPref_length hp, intelProfileToEpbPref_length hp,
    not_false_eq_true, and_true]

/-- The files intel_pstate may write. -/
def IntelPstate.Owns (pstate : IntelPstate) (p : String) : Prop :=
  p ∈ pstate.eppDevices.getD [] ∨ p ∈ pstate.epbDevices.getD []

instance (pstate : IntelPstate) (p : String) : Decidable (pstate.Owns p) :=
  inferInstanceAs (Decidable (_ ∨ _))

/-- The EPP and EPB files hold the preferences of the activated profile for the recorded
power source; nothing is asked before a first activation. -/
def IntelPstate.Applied (pstate : IntelPstate) (s : SysfsState) : Prop :=
  pstate.activatedProfile ≠ .unset →
    (∀ f ∈ pstate.eppDevices.getD [],
      s.tree f = some (profileToEppPref pstate.activatedProfile pstate.onBattery)) ∧
    ∀ f ∈ pstate.epbDevices.getD [],
      s.tree f = some (intelProfileToEpbPref pstate.activatedProfile pstate.onBattery)

/-- No file is both an EPP and an EPB file: the probe finds the first ones as
`energy_performance_preference` and the others as `energy_perf_bias`. -/
def IntelPstate.Disjoint (pstate : IntelPstate) : Prop :=
  ∀ f ∈ pstate.eppDevices.getD [], f ∉ pstate.epbDevices.getD []

instance (pstate : IntelPstate) : Decidable pstate.Disjoint :=
  inferInstanceAs (Decidable (∀ f ∈ pstate.eppDevices.getD [], f ∉ pstate.epbDevices.getD []))

/-- An `apply_pref_to_devices` that returns TRUE, for a new profile or for the activated
one, leaves the files applied. -/
theorem IntelPstate.applyPrefToDevices_applied (pstate : IntelPstate) (s : SysfsState)
    {profile : PpdProfile} (hdisj : pstate.Disjoint)
    (hprofile : profile ≠ .unset ∨ profile = pstate.activatedProfile)
    (h : (pstate.applyPrefToDevices fails s profile).2.2 = .ok ()) :
    (pstate.applyPrefToDevices fails s profile).1.Applied
      (pstate.applyPrefToDevices fails s profile).2.1 := by
  by_cases hp : profile = .unset
  · subst hp
    simp only [IntelPstate.applyPrefToDevices, if_true]
    exact fun h => absurd (hprofile.resolve_left (not_not.2 rfl)).symm h
  obtain ⟨h1, h2⟩ := IntelPstate.applyPrefToDevices_ok fails pstate s hp h
  rw [h1]
  refine fun _ => ⟨fun f hf => ?_, fun f hf => ?_⟩ <;> rw [h2]
  · simp [hf, hdisj f hf]
  · simp [hf]

/-- On resume intel_pstate writes the activated profile again, and only prefixes the
message of a failure. -/
theorem IntelPstate.prepareForSleep_resume (pstate : IntelPstate) (s : SysfsState) :
    (pstate.prepareForSleep fails s false).1 =
      (pstate.applyPrefToDevices fails s pstate.activatedProfile).1 ∧
    (pstate.prepareForSleep fails s false).2.1 =
      (pstate.applyPrefToDevices fails s pstate.activatedProfile).2.1 ∧
    ((pstate.prepareForSleep fails s false).2.2 = .ok () ↔
      (pstate.applyPrefToDevices fails s pstate.activatedProfile).2.2 = .ok ()) := by
  simp only [IntelPstate.prepareForSleep, Bool.false_eq_true, if_false]
  generalize pstate.applyPrefToDevices fails s pstate.activatedProfile = r
  obtain ⟨_, _, _ | ⟨⟩⟩ := r <;> simp

/-- A call changes at most the activated profile and the power source of the record. -/
theorem IntelPstate.call_fst (pstate : IntelPstate) (s : SysfsState) (c : CpuDriverCall) :
    ∃ a b, (pstate.call fails s c).1 = { pstate with activatedProfile := a, onBattery := b } := by
  have happly : ∀ (d : IntelPstate) profile, ∃ a, (d.applyPrefToDevices fails s profile).1 =
      { d with activatedProfile := a } := fun d profile =>
    (IntelPstate.applyPrefToDevices_fst fails d s profile).elim (fun h => ⟨d.activatedProfile, h⟩)
      fun h => ⟨profile, h⟩
  cases c with
  | activateProfile profile =>
    simp only [IntelPstate.call]
    split_ifs
    · obtain ⟨a, h⟩ := happly pstate profile
      exact ⟨a, pstate.onBattery, h⟩
    · exact ⟨pstate.activatedProfile, pstate.onBattery, rfl⟩
  | powerChanged reason =>
    obtain ⟨a, h⟩ := happly { pstate with onBattery := onBatteryOfReason reason } pstate.activatedProfile
    exact ⟨a, onBatteryOfReason reason, h⟩
  | prepareForSleep start =>
    cases start
    · obtain ⟨a, h⟩ := happly pstate pstate.activatedProfile
      exact ⟨a, pstate.onBattery, (IntelPstate.prepareForSleep_resume fails pstate s).1.trans h⟩
    · exact ⟨pstate.activatedProfile, pstate.onBattery, rfl⟩

/-- A call writes only the driver's own files, whatever it returns. -/
theorem IntelPstate.call_frame (pstate : IntelPstate) (s : SysfsState) (c : CpuDriverCall)
    {p : String} (hp : ¬pstate.Owns p) : (pstate.call fails s c).2.1.tree p = s.tree p := by
  simp only [IntelPstate.Owns, not_or] at hp
  cases c with
  | activateProfile profile =>
    simp only [IntelPstate.call]
    split_ifs
    · exact IntelPstate.applyPrefToDevices_frame fails pstate s profile hp.1 hp.2
    · rfl
  | powerChanged reason => exact IntelPstate.applyPrefToDevices_frame fails _ s _ hp.1 hp.2
  | prepareForSleep start =>
    cases start
    · simp only [IntelPstate.call, (IntelPstate.prepareForSleep_resume fails pstate s).2.1]
      exact IntelPstate.applyPrefToDevices_frame fails pstate s _ hp.1 hp.2
    · rfl

/-- A call that succeeds, a suspend notice apart, leaves the files applied, whatever they
held before. -/
theorem IntelPstate.call_ok_applied (pstate : IntelPstate) (s : SysfsState) {c : CpuDriverCall}
    (hdisj : pstate.Disjoint) (hc : c ≠ .prepareForSleep true)
    (h : (pstate.call fails s c).2.2 = .ok ()) :
    (pstate.call fails s c).1.Applied (pstate.call fails s c).2.1 := by
  cases c with
  | activateProfile profile =>
    simp only [IntelPstate.call] at h ⊢
    split_ifs at h ⊢ with hsf
    · refine IntelPstate.applyPrefToDevices_applied fails pstate s hdisj (.inl ?_) h
      simpa [PpdProfile.hasSingleFlag] using hsf
  | powerChanged reason => exact IntelPstate.applyPrefToDevices_applied fails _ s hdisj (.inr rfl) h
  | prepareForSleep start =>
    cases start
    · obtain ⟨h1, h2, h3⟩ := IntelPstate.prepareForSleep_resume fails pstate s
      simp only [IntelPstate.call, h1, h2] at h ⊢
      exact IntelPstate.applyPrefToDevices_applied fails pstate s hdisj (.inr rfl) (h3.1 h)
    · exact absurd rfl hc

/-- A call that succeeds keeps the files applied, and no call changes the files of the
record. -/
theorem IntelPstate.call_keeps_applied (pstate : IntelPstate) (s : SysfsState) (c : CpuDriverCall)
    (hdisj : pstate.Disjoint) (happ : pstate.Applied s) (h : (pstate.call fails s c).2.2 = .ok ()) :
    (pstate.call fails s c).1.Disjoint ∧ (pstate.call fails s c).1.Applied (pstate.call fails s c).2.1 := by
  refine ⟨?_, ?_⟩
  · obtain ⟨a, b, heq⟩ := IntelPstate.call_fst fails pstate s c
    rw [heq]
    exact hdisj
  · by_cases hc : c = .prepareForSleep true
    · subst hc
      exact happ
    · exact IntelPstate.call_ok_applied fails pstate s hdisj hc h

/-- Along every run of successful calls, from files that follow the record (as they do
before a first activation), the EPP and EPB files hold the preferences of the activated
profile for the power source last reported. -/
theorem IntelPstate.run_epp_epb_applied (pstate : IntelPstate) (s : SysfsState)
    (calls : List CpuDriverCall) (hdisj : pstate.Disjoint) (happ : pstate.Applied s)
    (hok : ∀ r ∈ (cpuDriverRun (IntelPstate.call fails) pstate s calls).2.2, r = .ok ()) :
    (cpuDriverRun (IntelPstate.call fails) pstate s calls).1.Applied
      (cpuDriverRun (IntelPstate.call fails) pstate s calls).2.1 :=
  (cpuDriverRun_invariant_ok (IntelPstate.call fails) (fun d s => d.Disjoint ∧ d.Applied s)
    (fun d s c hd h => IntelPstate.call_keeps_applied fails d s c hd.1 hd.2 h) calls pstate s
    ⟨hdisj, happ⟩ hok).2

/-- Whatever the calls of a run return, intel_pstate changes no file but its EPP and EPB
files. -/
theorem IntelPstate.run_only_epp_epb (pstate : IntelPstate) (s : SysfsState) (calls : List CpuDriverCall)
    {p : String} (hp : ¬pstate.Owns p) :
    (cpuDriverRun (IntelPstate.call fails) pstate s calls).2.1.tree p = s.tree p := by
  refine (cpuDriverRun_invariant (IntelPstate.call fails)
    (fun d s' => ¬d.Owns p ∧ s'.tree p = s.tree p) (fun d s' c hd => ⟨?_, ?_⟩) calls pstate s
    ⟨hp, rfl⟩).2
  · obtain ⟨a, b, heq⟩ := IntelPstate.call_fst fails d s' c
    rw [heq]
    exact hd.1
  · exact (IntelPstate.call_frame fails d s' c hd.1).trans hd.2

/-- intel_pstate as its probe leaves it on one policy with an EPP and an EPB file. -/
def intelOnePolicy : IntelPstate :=
  ⟨.unset, some [buildFilename policy0 "energy_performance_preference"],
    some ["/sys/devices/system/cpu/cpu0/power/energy_perf_bias"], false⟩

/-- The files of `intelOnePolicy` as the kernel leaves them. -/
def intelOnePolicyTree : SysfsState where
  tree p :=
    if p = buildFilename policy0 "energy_performance_preference" then some "balance_performance"
    else if p = "/sys/devices/system/cpu/cpu0/power/energy_perf_bias" then some "6"
    else if p = buildFilename policy0 "scaling_governor" then some "powersave"
    else none
  calls := 0

/-- Performance, then unplugged, a suspend and a resume, then balanced. -/
def cpuDayCalls : List CpuDriverCall :=
  [.activateProfile .performance, .powerChanged .battery, .prepareForSleep true,
    .prepareForSleep false, .activateProfile .balanced]

theorem intelOnePolicy_run_epp_epb_applied :
    (∀ r ∈ (cpuDriverRun (IntelPstate.call fun _ => none) intelOnePolicy intelOnePolicyTree
      cpuDayCalls).2.2, r = .ok ()) ∧
    (cpuDriverRun (IntelPstate.call fun _ => none) intelOnePolicy intelOnePolicyTree cpuDayCalls).1.Applied
      (cpuDriverRun (IntelPstate.call fun _ => none) intelOnePolicy intelOnePolicyTree cpuDayCalls).2.1 :=
  have hok : ∀ r ∈ (cpuDriverRun (IntelPstate.call fun _ => none) intelOnePolicy intelOnePolicyTree
      cpuDayCalls).2.2, r = .ok () := by decide
  ⟨hok, IntelPstate.run_epp_epb_applied _ _ _ _ (by decide) (fun h => (h rfl).elim) hok⟩

theorem intelOnePolicy_run_only_epp_epb :
    ¬intelOnePolicy.Owns (buildFilename policy0 "scaling_governor") ∧
    (cpuDriverRun (IntelPstate.call fun _ => none) intelOnePolicy intelOnePolicyTree
      cpuDayCalls).2.1.tree (buildFilename policy0 "scaling_governor") = some "powersave" :=
  have h : ¬intelOnePolicy.Owns (buildFilename policy0 "scaling_governor") := by decide
  ⟨h, IntelPstate.run_only_epp_epb _ _ _ _ h⟩

end Intel

/-! ### amd_pstate -/

section Amd

variable (fails : Nat → Option String)

/-- The attributes amd_pstate writes in a policy directory. -/
def amdPolicyAttributes : List String :=
  ["scaling_governor", "energy_performance_preference", "boost", "scaling_min_freq"]

theorem amdPolicyAttributes_noSlash : ∀ name ∈ amdPolicyAttributes, '/' ∉ name.data := by
  decide

theorem amdProfileToMinFreq_noSlash (profile : PpdProfile) : '/' ∉ (amdProfileToMinFreq profile).data := by
  cases profile <;> decide

/-- The frequency file amd_pstate reads is none of the attributes it writes. -/
theorem amdProfileToMinFreq_not_mem (profile : PpdProfile) :
    amdProfileToMinFreq profile ∉ amdPolicyAttributes := by
  cases profile <;> decide

/-- The writes of one iteration of amd_pstate's `apply_pref_to_devices` on the policy
directory `base`, read off the files as the iteration finds them: `boost` if it exists, and
`scaling_min_freq` if the profile's frequency file exists, with that file's contents. -/
def amdPolicyWrites (s : SysfsState) (base : String) (profile : PpdProfile) (battery : Bool) :
    List (String × String) :=
  [(buildFilename base "scaling_governor", amdProfileToGovPref profile),
    (buildFilename base "energy_performance_preference", profileToEppPref profile battery)] ++
  (if (s.tree (buildFilename base "boost")).isSome then
    [(buildFilename base "boost", amdProfileToCpbPref profile)] else []) ++
  match s.tree (buildFilename base (amdProfileToMinFreq profile)) with
  | none => []
  | some minFreqVal => [(buildFilename base "scaling_min_freq", gStrchomp minFreqVal)]

/-- An iteration writes attributes of its directory, in the order of
`amdPolicyAttributes`. -/
theorem amdPolicyWrites_sublist (s : SysfsState) (base : String) (profile : PpdProfile)
    (battery : Bool) :
    ((amdPolicyWrites s base profile battery).map Prod.fst).Sublist
      (amdPolicyAttributes.map (buildFilename base)) := by
  simp only [amdPolicyWrites, amdPolicyAttributes, List.map_append, List.map_cons, List.map_nil,
    List.cons_append, List.nil_append]
  split <;> split <;> simp

theorem amdPolicyWrites_fst (s : SysfsState) (base : String) (profile : PpdProfile) (battery : Bool) :
    ∀ w ∈ amdPolicyWrites s base profile battery,
      ∃ name ∈ amdPolicyAttributes, w.1 = buildFilename base name := fun w hw => by
  obtain ⟨name, hname, heq⟩ :=
    List.mem_map.1 ((amdPolicyWrites_sublist s base profile battery).subset (List.mem_map_of_mem _ hw))
  exact ⟨name, hname, heq.symm⟩

/-- The writes of an iteration go to distinct files. -/
theorem amdPolicyWrites_nodup (s : SysfsState) (base : String) (profile : PpdProfile) (battery : Bool) :
    ((amdPolicyWrites s base profile battery).map Prod.fst).Nodup :=
  ((show amdPolicyAttributes.Nodup by decide).map_on fun a ha b hb h =>
    ((buildFilename_inj (amdPolicyAttributes_noSlash a ha) (amdPolicyAttributes_noSlash b hb)).1 h).2).sublist
    (amdPolicyWrites_sublist s base profile battery)

/-- The file the iteration reads its minimum from is never one it writes. -/
theorem amdMinFreq_not_mem_writes (s : SysfsState) (base base' : String) (profile profile' : PpdProfile)
    (battery : Bool) :
    buildFilename base (amdProfileToMinFreq profile) ∉
      (amdPolicyWrites s base' profile' battery).map Prod.fst := by
  intro h
  obtain ⟨w, hw, heq⟩ := List.mem_map.1 h
  obtain ⟨name, hname, hw1⟩ := amdPolicyWrites_fst s base' profile' battery w hw
  rw [hw1, buildFilename_inj (amdPolicyAttributes_noSlash name hname)
    (amdProfileToMinFreq_noSlash profile)] at heq
  exact amdProfileToMinFreq_not_mem profile (heq.2 ▸ hname)

/-- A sequence of writes that is one write. -/
theorem SysfsState.writeAll_singleton (s : SysfsState) (file value : String) :
    s.writeAll fails [(file, value)] = s.write fails file value := by
  simp only [SysfsState.writeAll]
  obtain ⟨_, _ | ⟨⟩⟩ := s.write fails file value <;> rfl

/-- One iteration of amd_pstate's loop is the sequence of its writes: reading `boost` and
the frequency file between writes sees them as they were when it started, since no write
creates a file and none is made to the frequency file. -/
theorem amdApplyPrefToDevice_eq (s : SysfsState) (base : String) (profile : PpdProfile)
    (battery : Bool) :
    amdApplyPrefToDevice fails s base profile battery =
      s.writeAll fails (amdPolicyWrites s base profile battery) := by
  have hmf : ∀ name ∈ amdPolicyAttributes,
      buildFilename base (amdProfileToMinFreq profile) ≠ buildFilename base name := fun name hn h =>
    amdProfileToMinFreq_not_mem profile (((buildFilename_inj (amdProfileToMinFreq_noSlash profile)
      (amdPolicyAttributes_noSlash name hn)).1 h).2 ▸ hn)
  simp only [amdPolicyAttributes, List.mem_cons, List.not_mem_nil, or_false, forall_eq_or_imp,
    forall_eq] at hmf
  obtain ⟨hgov, hepp, hboost, -⟩ := hmf
  unfold amdApplyPrefToDevice amdPolicyWrites
  simp only [List.cons_append, List.nil_append, SysfsState.writeAll]
  have b1 := SysfsState.write_isSome fails s (buildFilename base "scaling_governor")
    (amdProfileToGovPref profile) (buildFilename base "boost")
  have m1 := SysfsState.write_tree_of_ne fails s (amdProfileToGovPref profile) hgov
  generalize s.write fails (buildFilename base "scaling_governor") _ = w1 at b1 m1 ⊢
  obtain ⟨s1, _ | ⟨⟩⟩ := w1
  · rfl
  dsimp only at b1 m1 ⊢
  have b2 := SysfsState.write_isSome fails s1 (buildFilename base "energy_performance_preference")
    (profileToEppPref profile battery) (buildFilename base "boost")
  have m2 := SysfsState.write_tree_of_ne fails s1 (profileToEppPref profile battery) hepp
  generalize s1.write fails (buildFilename base "energy_performance_preference") _ = w2 at b2 m2 ⊢
  obtain ⟨s2, _ | ⟨⟩⟩ := w2
  · rfl
  dsimp only at b2 m2 ⊢
  rw [b2.trans b1]
  have hread : ∀ s3 : SysfsState, s3.tree (buildFilename base (amdProfileToMinFreq profile)) =
      s.tree (buildFilename base (amdProfileToMinFreq profile)) →
      (match s3.tree (buildFilename base (amdProfileToMinFreq profile)) with
        | none => (s3, .ok ())
        | some minFreqVal => s3.write fails (buildFilename base "scaling_min_freq") (gStrchomp minFreqVal)) =
      s3.writeAll fails (match s.tree (buildFilename base (amdProfileToMinFreq profile)) with
        | none => []
        | some minFreqVal => [(buildFilename base "scaling_min_freq", gStrchomp minFreqVal)]) := by
    intro s3 h3
    rw [h3]
    split
    · rfl
    · exact (SysfsState.writeAll_singleton fails s3 _ _).symm
  split_ifs <;> simp only [List.nil_append, List.cons_append, List.append_nil, SysfsState.writeAll]
  · have m3 := SysfsState.write_tree_of_ne fails s2 (amdProfileToCpbPref profile) hboost
    generalize s2.write fails (buildFilename base "boost") _ = w3 at m3 ⊢
    obtain ⟨s3, _ | ⟨⟩⟩ := w3
    · rfl
    exact hread s3 (m3.trans (m2.trans m1))
  · exact hread s2 (m2.trans m1)

/-- The files of the policy directory `base` as a successful pass for `profile` leaves them:
the governor and the EPP, `boost` if it exists, and `scaling_min_freq` copied from the
profile's frequency file if that exists. -/
structure AmdPolicyApplied (s : SysfsState) (base : String) (profile : PpdProfile)
    (battery : Bool) : Prop where
  /-- `scaling_governor` holds `profile_to_gov_pref`. -/
  governor : s.tree (buildFilename base "scaling_governor") = some (amdProfileToGovPref profile)
  /-- `energy_performance_preference` holds `profile_to_epp_pref`. -/
  epp : s.tree (buildFilename base "energy_performance_preference") =
    some (profileToEppPref profile battery)
  /-- `boost`, if it exists, holds `profile_to_cpb_pref`. -/
  boost : (s.tree (buildFilename base "boost")).isSome →
    s.tree (buildFilename base "boost") = some (amdProfileToCpbPref profile)
  /-- `scaling_min_freq` holds the frequency file's value, when that is not empty. -/
  minFreq : ∀ v, s.tree (buildFilename base (amdProfileToMinFreq profile)) = some v →
    (gStrchomp v).length ≠ 0 → s.tree (buildFilename base "scaling_min_freq") = some (gStrchomp v)

theorem amdProfileToGovPref_length {profile : PpdProfile} (hp : profile ≠ .unset) :
    (amdProfileToGovPref profile).length ≠ 0 := by
  cases profile <;> first | exact absurd rfl hp | decide

theorem amdProfileToCpbPref_length {profile : PpdProfile} (hp : profile ≠ .unset) :
    (amdProfileToCpbPref profile).length ≠ 0 := by
  cases profile <;> first | exact absurd rfl hp | decide

/-- A successful iteration on `base` leaves its directory applied. -/
theorem amdPolicyWrites_applied (s : SysfsState) (base : String) {profile : PpdProfile}
    (battery : Bool) (hp : profile ≠ .unset)
    (h : (s.writeAll fails (amdPolicyWrites s base profile battery)).2 = .ok ()) :
    AmdPolicyApplied (s.writeAll fails (amdPolicyWrites s base profile battery)).1 base profile battery := by
  have hset := SysfsState.writeAll_ok_tree fails _ s (amdPolicyWrites_nodup s base profile battery) h
  have hmf := SysfsState.writeAll_frame fails (amdPolicyWrites s base profile battery) s
    (amdMinFreq_not_mem_writes s base base profile profile battery)
  refine ⟨hset _ _ (by simp [amdPolicyWrites]) (amdProfileToGovPref_length hp),
    hset _ _ (by simp [amdPolicyWrites]) (profileToEppPref_length hp battery), fun hb => ?_,
    fun v hv hlen => hset _ _ ?_ hlen⟩
  · rw [SysfsState.writeAll_isSome] at hb
    exact hset _ _ (by simp [amdPolicyWrites, hb]) (amdProfileToCpbPref_length hp)
  · rw [hmf] at hv
    simp [amdPolicyWrites, hv]

/-- `AmdPolicyApplied` reads only files of the directory named without a separator. -/
theorem AmdPolicyApplied.congr {s s' : SysfsState} {base : String} {profile : PpdProfile}
    {battery : Bool} (h : AmdPolicyApplied s base profile battery)
    (hsame : ∀ name, '/' ∉ name.data → s'.tree (buildFilename base name) = s.tree (buildFilename base name)) :
    AmdPolicyApplied s' base profile battery := by
  have hattr := fun name hname => hsame name (amdPolicyAttributes_noSlash name hname)
  simp only [amdPolicyAttributes, List.mem_cons, List.not_mem_nil, or_false, forall_eq_or_imp,
    forall_eq] at hattr
  obtain ⟨hgov, hepp, hboost, hmin⟩ := hattr
  refine ⟨hgov ▸ h.governor, hepp ▸ h.epp, hboost ▸ h.boost, fun v hv hlen => ?_⟩
  rw [hmin]
  exact h.minFreq v (hsame _ (amdProfileToMinFreq_noSlash profile) ▸ hv) hlen

/-- An iteration on another directory leaves a directory's files as they were. -/
theorem amdPolicyWrites_other (s : SysfsState) {base base' : String} (hne : base' ≠ base)
    (profile' : PpdProfile) (battery' : Bool) {name : String} (hname : '/' ∉ name.data) :
    (s.writeAll fails (amdPolicyWrites s base' profile' battery')).1.tree (buildFilename base name) =
      s.tree (buildFilename base name) := by
  refine SysfsState.writeAll_frame fails _ s fun h => ?_
  obtain ⟨w, hw, heq⟩ := List.mem_map.1 h
  obtain ⟨attr, hattr, hw1⟩ := amdPolicyWrites_fst s base' profile' battery' w hw
  rw [hw1, buildFilename_inj (amdPolicyAttributes_noSlash attr hattr) hname] at heq
  exact hne heq.1

/-- After amd_pstate's loop returns TRUE, every directory it went through is applied, and
so is every directory that was applied before. -/
theorem amdApplyPrefLoop_applied {profile : PpdProfile} (battery : Bool) (hp : profile ≠ .unset) :
    ∀ (devices : List String) (s : SysfsState),
      (amdApplyPrefLoop fails profile battery s devices).2 = .ok () →
      ∀ base, base ∈ devices ∨ AmdPolicyApplied s base profile battery →
        AmdPolicyApplied (amdApplyPrefLoop fails profile battery s devices).1 base profile battery
  | [], _, _, _, hbase => hbase.resolve_left (List.not_mem_nil _)
  | b :: rest, s, h, base, hbase => by
    simp only [amdApplyPrefLoop, amdApplyPrefToDevice_eq] at h ⊢
    have happ := amdPolicyWrites_applied fails s b battery hp
    have hother := fun (hne : b ≠ base) (ha : AmdPolicyApplied s base profile battery) =>
      ha.congr fun name hname => amdPolicyWrites_other fails s hne profile battery hname
    generalize s.writeAll fails (amdPolicyWrites s b profile battery) = w at happ hother h ⊢
    obtain ⟨s1, _ | ⟨⟩⟩ := w
    · exact absurd h nofun
    refine amdApplyPrefLoop_applied battery hp rest s1 h base ?_
    by_cases hb : b = base
    · exact .inr (hb ▸ happ rfl)
    · rcases hbase with hmem | ha
      · exact .inl ((List.mem_cons.1 hmem).resolve_left (Ne.symm hb))
      · exact .inr (hother hb ha)

/-- amd_pstate's loop writes only attributes of the directories it goes through. -/
theorem amdApplyPrefLoop_frame (profile : PpdProfile) (battery : Bool) {p : String} :
    ∀ (devices : List String) (s : SysfsState),
      (∀ base ∈ devices, ∀ name ∈ amdPolicyAttributes, p ≠ buildFilename base name) →
      (amdApplyPrefLoop fails profile battery s devices).1.tree p = s.tree p
  | [], _, _ => rfl
  | b :: rest, s, hp => by
    simp only [List.mem_cons, forall_eq_or_imp] at hp
    have h1 := SysfsState.writeAll_frame fails (amdPolicyWrites s b profile battery) s
      (p := p) fun h => by
        obtain ⟨w, hw, heq⟩ := List.mem_map.1 h
        obtain ⟨name, hname, hw1⟩ := amdPolicyWrites_fst s b profile battery w hw
        exact hp.1 name hname (heq ▸ hw1)
    simp only [amdApplyPrefLoop, amdApplyPrefToDevice_eq]
    generalize s.writeAll fails (amdPolicyWrites s b profile battery) = w at h1 ⊢
    obtain ⟨s1, _ | ⟨⟩⟩ := w
    · exact h1
    · exact (amdApplyPrefLoop_frame profile battery rest s1 hp.2).trans h1

/-- `apply_pref_to_devices` of amd_pstate writes only attributes of the directories it is
given. -/
theorem amdApplyPrefToDevices_frame (s : SysfsState) (devices : List String) (profile : PpdProfile)
    (battery : Bool) {p : String}
    (hp : ∀ base ∈ devices, ∀ name ∈ amdPolicyAttributes, p ≠ buildFilename base name) :
    (amdApplyPrefToDevices fails s devices profile battery).1.tree p = s.tree p := by
  unfold amdApplyPrefToDevices
  split_ifs
  · rfl
  · exact amdApplyPrefLoop_frame fails profile battery devices s hp

/-- An `apply_pref_to_devices` of amd_pstate that returns TRUE for a profile leaves every
directory it is given applied. -/
theorem amdApplyPrefToDevices_applied (s : SysfsState) (devices : List String) {profile : PpdProfile}
    (battery : Bool) (hp : profile ≠ .unset)
    (h : (amdApplyPrefToDevices fails s devices profile battery).2 = .ok ()) :
    ∀ base ∈ devices, AmdPolicyApplied (amdApplyPrefToDevices fails s devices profile battery).1
      base profile battery := by
  unfold amdApplyPrefToDevices at h ⊢
  rw [if_neg hp] at h ⊢
  exact fun base hb => amdApplyPrefLoop_applied fails battery hp devices s h base (.inl hb)

/-- The files amd_pstate may write: the attributes of its policy directories. -/
def AmdPstate.Owns (pstate : AmdPstate) (p : String) : Prop :=
  ∃ base ∈ pstate.eppDevices.getD [], ∃ name ∈ amdPolicyAttributes, p = buildFilename base name

instance (pstate : AmdPstate) (p : String) : Decidable (pstate.Owns p) :=
  inferInstanceAs (Decidable (∃ base ∈ pstate.eppDevices.getD [], ∃ name ∈ amdPolicyAttributes, _))

/-- Every policy directory of amd_pstate is applied for the activated profile and the
recorded power source; nothing is asked before a first activation. -/
def AmdPstate.Applied (pstate : AmdPstate) (s : SysfsState) : Prop :=
  pstate.activatedProfile ≠ .unset →
    ∀ base ∈ pstate.eppDevices.getD [],
      AmdPolicyApplied s base pstate.activatedProfile pstate.onBattery

/-- amd_pstate's activation either keeps the record or records the profile. -/
theorem AmdPstate.activateProfile_fst (pstate : AmdPstate) (s : SysfsState) (profile : PpdProfile) :
    (pstate.activateProfile fails s profile).1 = pstate ∨
      (pstate.activateProfile fails s profile).1 = { pstate with activatedProfile := profile } := by
  unfold AmdPstate.activateProfile
  split
  · exact .inl rfl
  rename_i devices _
  by_cases hne : devices = []
  · simp only [hne, if_true, true_or]
  simp only [hne, if_false]
  generalize amdApplyPrefToDevices fails s devices profile pstate.onBattery = w
  obtain ⟨s1, _ | ⟨⟩⟩ := w
  · dsimp only
    split_ifs <;> exact .inl rfl
  · exact .inr rfl

/-- What every `apply_pref_to_devices` on amd_pstate's directories keeps of the files, an
activation keeps, whatever it returns. -/
theorem AmdPstate.activateProfile_keeps (P : SysfsState → Prop) (pstate : AmdPstate)
    (hP : ∀ s devices, pstate.eppDevices = some devices → ∀ profile battery, P s →
      P (amdApplyPrefToDevices fails s devices profile battery).1)
    (s : SysfsState) (profile : PpdProfile) (h : P s) : P (pstate.activateProfile fails s profile).2.1 := by
  unfold AmdPstate.activateProfile
  split
  · exact h
  rename_i devices hdevices
  by_cases hne : devices = []
  · simp only [hne, if_true]
    exact h
  simp only [hne, if_false]
  have h1 := hP s devices hdevices profile pstate.onBattery h
  generalize amdApplyPrefToDevices fails s devices profile pstate.onBattery = w at h1
  obtain ⟨s1, _ | ⟨⟩⟩ := w
  · dsimp only
    split_ifs
    · exact hP s1 devices hdevices _ _ h1
    · exact h1
  · exact h1

/-- amd_pstate's activation, restore included, writes only its own files. -/
theorem AmdPstate.activateProfile_frame (pstate : AmdPstate) (s : SysfsState) (profile : PpdProfile)
    {p : String} (hp : ¬pstate.Owns p) : (pstate.activateProfile fails s profile).2.1.tree p = s.tree p := by
  simp only [AmdPstate.Owns, not_exists, not_and] at hp
  refine AmdPstate.activateProfile_keeps fails (fun s' => s'.tree p = s.tree p) pstate
    (fun s' devices hd profile battery h => ?_) s profile rfl
  simp only [hd, Option.getD_some] at hp
  exact (amdApplyPrefToDevices_frame fails s' devices profile battery hp).trans h

/-- An amd_pstate activation that returns TRUE leaves every directory applied for the new
profile. -/
theorem AmdPstate.activateProfile_applied (pstate : AmdPstate) (s : SysfsState)
    {profile : PpdProfile} (hp : profile ≠ .unset)
    (h : (pstate.activateProfile fails s profile).2.2 = .ok ()) :
    (pstate.activateProfile fails s profile).1.Applied (pstate.activateProfile fails s profile).2.1 := by
  unfold AmdPstate.activateProfile at h ⊢
  split at h
  · exact absurd h nofun
  rename_i devices hdevices
  simp only [hdevices]
  by_cases hne : devices = []
  · simp only [hne, if_true] at h
    exact absurd h nofun
  simp only [hne, if_false] at h ⊢
  have happ := amdApplyPrefToDevices_applied fails s devices pstate.onBattery hp
  generalize amdApplyPrefToDevices fails s devices profile pstate.onBattery = w at happ h ⊢
  obtain ⟨s1, _ | ⟨⟩⟩ := w
  · dsimp only at h
    split_ifs at h
  · exact fun _ base hb => happ rfl base (by simpa [hdevices] using hb)

/-- A call changes at most the activated profile and the power source of the record. -/
theorem AmdPstate.call_fst (pstate : AmdPstate) (s : SysfsState) (c : CpuDriverCall) :
    ∃ a b, (pstate.call fails s c).1 = { pstate with activatedProfile := a, onBattery := b } := by
  cases c with
  | activateProfile profile =>
    simp only [AmdPstate.call]
    split_ifs
    · rcases AmdPstate.activateProfile_fst fails pstate s profile with h | h
      · exact ⟨pstate.activatedProfile, pstate.onBattery, h⟩
      · exact ⟨profile, pstate.onBattery, h⟩
    · exact ⟨pstate.activatedProfile, pstate.onBattery, rfl⟩
  | powerChanged reason => exact ⟨pstate.activatedProfile, onBatteryOfReason reason, rfl⟩
  | prepareForSleep start => exact ⟨pstate.activatedProfile, pstate.onBattery, rfl⟩

/-- A call writes only the driver's own files, whatever it returns. -/
theorem AmdPstate.call_frame (pstate : AmdPstate) (s : SysfsState) (c : CpuDriverCall)
    {p : String} (hp : ¬pstate.Owns p) : (pstate.call fails s c).2.1.tree p = s.tree p := by
  cases c with
  | activateProfile profile =>
    simp only [AmdPstate.call]
    split_ifs
    · exact AmdPstate.activateProfile_frame fails pstate s profile hp
    · rfl
  | powerChanged reason =>
    simp only [AmdPstate.Owns, not_exists, not_and] at hp
    exact amdApplyPrefToDevices_frame fails s _ _ _ hp
  | prepareForSleep start => rfl

/-- A call that succeeds, a suspend notice apart, leaves every directory applied, whatever
the files held before. -/
theorem AmdPstate.call_ok_applied (pstate : AmdPstate) (s : SysfsState) {c : CpuDriverCall}
    (hc : ∀ start, c ≠ .prepareForSleep start) (h : (pstate.call fails s c).2.2 = .ok ()) :
    (pstate.call fails s c).1.Applied (pstate.call fails s c).2.1 := by
  cases c with
  | activateProfile profile =>
    simp only [AmdPstate.call] at h ⊢
    split_ifs at h ⊢ with hsf
    refine AmdPstate.activateProfile_applied fails pstate s ?_ h
    simpa [PpdProfile.hasSingleFlag] using hsf
  | powerChanged reason =>
    intro hp
    exact amdApplyPrefToDevices_applied fails s _ _ hp h
  | prepareForSleep start => exact absurd rfl (hc start)

/-- A call that succeeds keeps the files applied. -/
theorem AmdPstate.call_keeps_applied (pstate : AmdPstate) (s : SysfsState) (c : CpuDriverCall)
    (happ : pstate.Applied s) (h : (pstate.call fails s c).2.2 = .ok ()) :
    (pstate.call fails s c).1.Applied (pstate.call fails s c).2.1 := by
  by_cases hc : ∃ start, c = .prepareForSleep start
  · obtain ⟨start, rfl⟩ := hc
    exact happ
  · exact AmdPstate.call_ok_applied fails pstate s (fun start h => hc ⟨start, h⟩) h

/-- Along every run of successful calls, from files that follow the record (as they do
before a first activation), every policy directory of amd_pstate holds the governor, EPP,
boost and minimum frequency of the activated profile for the power source last reported. -/
theorem AmdPstate.run_policies_applied (pstate : AmdPstate) (s : SysfsState) (calls : List CpuDriverCall)
    (happ : pstate.Applied s)
    (hok : ∀ r ∈ (cpuDriverRun (AmdPstate.call fails) pstate s calls).2.2, r = .ok ()) :
    (cpuDriverRun (AmdPstate.call fails) pstate s calls).1.Applied
      (cpuDriverRun (AmdPstate.call fails) pstate s calls).2.1 :=
  cpuDriverRun_invariant_ok (AmdPstate.call fails) AmdPstate.Applied
    (fun d s c hd h => AmdPstate.call_keeps_applied fails d s c hd h) calls pstate s happ hok

/-- Whatever the calls of a run return, amd_pstate changes no file but the four attributes
it writes in its policy directories; in particular it never changes the frequency files it
reads. -/
theorem AmdPstate.run_only_policy_attributes (pstate : AmdPstate) (s : SysfsState) (calls : List CpuDriverCall)
    {p : String} (hp : ¬pstate.Owns p) :
    (cpuDriverRun (AmdPstate.call fails) pstate s calls).2.1.tree p = s.tree p := by
  refine (cpuDriverRun_invariant (AmdPstate.call fails)
    (fun d s' => ¬d.Owns p ∧ s'.tree p = s.tree p) (fun d s' c hd => ⟨?_, ?_⟩) calls pstate s
    ⟨hp, rfl⟩).2
  · obtain ⟨a, b, heq⟩ := AmdPstate.call_fst fails d s' c
    rw [heq]
    exact hd.1
  · exact (AmdPstate.call_frame fails d s' c hd.1).trans hd.2

theorem amdTwoPolicies_run_policies_applied :
    (∀ r ∈ (cpuDriverRun (AmdPstate.call fun _ => none) (amdTwoPolicies .unset) balancedTree
      cpuDayCalls).2.2, r = .ok ()) ∧
    (cpuDriverRun (AmdPstate.call fun _ => none) (amdTwoPolicies .unset) balancedTree cpuDayCalls).1.Applied
      (cpuDriverRun (AmdPstate.call fun _ => none) (amdTwoPolicies .unset) balancedTree cpuDayCalls).2.1 :=
  have hok : ∀ r ∈ (cpuDriverRun (AmdPstate.call fun _ => none) (amdTwoPolicies .unset) balancedTree
      cpuDayCalls).2.2, r = .ok () := by decide
  ⟨hok, AmdPstate.run_policies_applied _ _ _ _ (fun h => (h rfl).elim) hok⟩

theorem amdTwoPolicies_run_only_policy_attributes :
    ¬(amdTwoPolicies .unset).Owns (buildFilename policy0 "cpuinfo_min_freq") ∧
    (cpuDriverRun (AmdPstate.call fun _ => none) (amdTwoPolicies .unset) balancedTree
      cpuDayCalls).2.1.tree (buildFilename policy0 "cpuinfo_min_freq") = some "400000\n" :=
  have h : ¬(amdTwoPolicies .unset).Owns (buildFilename policy0 "cpuinfo_min_freq") := by decide
  ⟨h, AmdPstate.run_only_policy_attributes _ _ _ _ h⟩

end Amd

end PowerProfiles
