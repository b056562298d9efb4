import PowerProfiles.Utils

/-!
# The CPU drivers' activation

The daemon sees a driver's `activate_profile` as an outcome supplied by the run's
environment. This module models what the two CPU drivers of the sources do inside it:
`ppd-driver-intel-pstate.c` writes `energy_performance_preference` to every cpufreq
policy and then `energy_perf_bias` to every CPU with `ppd_utils_write_files`, and
`ppd-driver-amd-pstate.c` writes, policy by policy, `scaling_governor`,
`energy_performance_preference`, `boost` if present and `scaling_min_freq` from a frequency
file if present. Each stops at the first failed write. Writes fail where the environment's
`fails` says, numbered in call order; reading a file that exists succeeds.

Both drivers keep `activated_profile` on a failure. Neither restores the files: intel_pstate
has no rollback, and amd_pstate re-applies the previous profile only when one was
activated before, and that re-application writes the previous profile's values, which need
not be the values the files held: a frequency file that the previous profile does not use
keeps the new minimum.
-/

namespace PowerProfiles

/-- `g_build_filename (base, name, NULL)`, for a base without a trailing separator. -/
def buildFilename (base name : String) : String := base ++ "/" ++ name

/-- Two lists split at a first occurrence of `c` are equal exactly when both parts are. -/
theorem append_cons_eq_iff_of_not_mem {α : Type} {c : α} :
    ∀ {l₁ l₂ r₁ r₂ : List α}, c ∉ l₁ → c ∉ l₂ →
      (l₁ ++ c :: r₁ = l₂ ++ c :: r₂ ↔ l₁ = l₂ ∧ r₁ = r₂)
  | [], [], _, _, _, _ => by simp
  | [], _ :: _, _, _, _, h₂ => by simp_all [eq_comm (a := c)]
  | _ :: _, [], _, _, h₁, _ => by simp_all [eq_comm (b := c)]
  | _ :: _, _ :: _, _, _, h₁, h₂ => by
    simp only [List.cons_append, List.cons.injEq,
      append_cons_eq_iff_of_not_mem (List.not_mem_of_not_mem_cons h₁) (List.not_mem_of_not_mem_cons h₂),
      and_assoc]

/-- A path built from a name without a separator determines the base and the name. -/
theorem buildFilename_inj {base base' name name' : String} (hn : '/' ∉ name.data)
    (hn' : '/' ∉ name'.data) :
    buildFilename base name = buildFilename base' name' ↔ base = base' ∧ name = name' := by
  refine ⟨fun h => ?_, fun ⟨hb, hn⟩ => hb ▸ hn ▸ rfl⟩
  have hrev := congrArg (fun s : String => s.data.reverse) h
  simp only [buildFilename, String.data_append, List.reverse_append, List.append_assoc] at hrev
  obtain ⟨hname, hbase⟩ := (append_cons_eq_iff_of_not_mem (c := '/') (by simpa using hn)
    (by simpa using hn')).1 hrev
  exact ⟨String.ext (List.reverse_injective hbase), String.ext (List.reverse_injective hname)⟩

/-- A path that does not end in `/name` is no file `name` of any directory. -/
theorem buildFilename_ne_of_not_suffix {q name : String} (h : ¬("/" ++ name).data <:+ q.data)
    (base : String) : q ≠ buildFilename base name := by
  rintro rfl
  exact h ⟨base.data, by simp [buildFilename, String.data_append, List.append_assoc]⟩

/-- `profile_to_epp_pref`, the same table in both drivers. `PPD_PROFILE_UNSET` reaches
`g_return_val_if_reached (NULL)`; `apply_pref_to_devices` returns before asking for it. -/
def profileToEppPref : PpdProfile → Bool → String
  | .powerSaver, _ => "power"
  | .balanced, battery => if battery then "balance_power" else "balance_performance"
  | .performance, _ => "performance"
  | .unset, _ => ""

/-! ### intel_pstate -/

/-- The fields of `PpdDriverIntelPstate` that `apply_pref_to_devices` uses; a `NULL` array
is `none`. -/
structure IntelPstate where
  /-- `activated_profile`. -/
  activatedProfile : PpdProfile
  /-- `epp_devices`: the `energy_performance_preference` files. -/
  eppDevices : Option (List String)
  /-- `epb_devices`: the `energy_perf_bias` files. -/
  epbDevices : Option (List String)
  /-- `on_battery`. -/
  onBattery : Bool

/-- `profile_to_epb_pref` of `ppd-driver-intel-pstate.c` (`ENERGY_PERF_BIAS_*`). -/
def intelProfileToEpbPref : PpdProfile → Bool → String
  | .powerSaver, _ => "15"
  | .balanced, battery => if battery then "8" else "6"
  | .performance, _ => "0"
  | .unset, _ => ""

/-- `if (devices) ppd_utils_write_files (devices, value, error)`. -/
def writeFilesIfPresent (fails : Nat → Option String) (s : SysfsState) :
    Option (List String) → String → SysfsState × Except GError Unit
  | some devices, value => ppdUtilsWriteFiles fails s devices value
  | none, _ => (s, .ok ())

/-- `apply_pref_to_devices` of `ppd-driver-intel-pstate.c`, which is also its
`activate_profile`. -/
def IntelPstate.applyPrefToDevices (fails : Nat → Option String) (pstate : IntelPstate)
    (s : SysfsState) (profile : PpdProfile) : IntelPstate × SysfsState × Except GError Unit :=
  if profile = .unset then (pstate, s, .ok ())
  else if pstate.eppDevices.isNone ∧ pstate.epbDevices.isNone then (pstate, s, .error ⟨.failed, ""⟩)
  else if pstate.eppDevices.getD [] = [] ∧ pstate.epbDevices.getD [] = [] then
    (pstate, s, .error ⟨.failed, ""⟩)
  else
    match writeFilesIfPresent fails s pstate.eppDevices (profileToEppPref profile pstate.onBattery) with
    | (s, .error e) => (pstate, s, .error e)
    | (s, .ok ()) =>
      match writeFilesIfPresent fails s pstate.epbDevices (intelProfileToEpbPref profile pstate.onBattery) with
      | (s, .error e) => (pstate, s, .error e)
      | (s, .ok ()) => ({ pstate with activatedProfile := profile }, s, .ok ())

/-- A write of `value` to optional files changes only files that then hold `value`. -/
theorem writeFilesIfPresent_tree (fails : Nat → Option String) (s : SysfsState)
    (devices : Option (List String)) (value p : String) :
    (writeFilesIfPresent fails s devices value).1.tree p = s.tree p ∨
      (writeFilesIfPresent fails s devices value).1.tree p = some value := by
  cases devices with
  | none => exact .inl rfl
  | some devices =>
    obtain ⟨k, -, -, htree⟩ := ppdUtilsWriteFiles_tree fails value devices s
    simp only [writeFilesIfPresent, htree]
    split_ifs <;> simp

/-- A failed intel_pstate activation keeps `activated_profile`, and leaves each file with
its old contents or with the preference of the new profile: there is no rollback. -/
theorem IntelPstate.applyPrefToDevices_error (fails : Nat → Option String) (pstate : IntelPstate)
    (s : SysfsState) (profile : PpdProfile)
    (h : (pstate.applyPrefToDevices fails s profile).2.2 ≠ .ok ()) (p : String) :
    (pstate.applyPrefToDevices fails s profile).1 = pstate ∧
    ((pstate.applyPrefToDevices fails s profile).2.1.tree p = s.tree p ∨
      (pstate.applyPrefToDevices fails s profile).2.1.tree p =
        some (profileToEppPref profile pstate.onBattery) ∨
      (pstate.applyPrefToDevices fails s profile).2.1.tree p =
        some (intelProfileToEpbPref profile pstate.onBattery)) := by
  unfold IntelPstate.applyPrefToDevices at h ⊢
  split_ifs at h ⊢
  · exact absurd rfl h
  · exact ⟨rfl, .inl rfl⟩
  · exact ⟨rfl, .inl rfl⟩
  have hepp := writeFilesIfPresent_tree fails s pstate.eppDevices
    (profileToEppPref profile pstate.onBattery) p
  generalize writeFilesIfPresent fails s pstate.eppDevices _ = w1 at hepp h ⊢
  obtain ⟨s1, r1⟩ := w1
  cases r1 with
  | error e => exact ⟨rfl, hepp.imp_right .inl⟩
  | ok u =>
    cases u
    dsimp only at h ⊢
    have hepb := writeFilesIfPresent_tree fails s1 pstate.epbDevices
      (intelProfileToEpbPref profile pstate.onBattery) p
    generalize writeFilesIfPresent fails s1 pstate.epbDevices _ = w2 at hepb h ⊢
    obtain ⟨s2, r2⟩ := w2
    cases r2 with
    | error e =>
      refine ⟨rfl, ?_⟩
      rcases hepb with hepb | hepb <;> rw [hepb]
      · exact hepp.imp_right .inl
      · exact .inr (.inr rfl)
    | ok u => exact absurd rfl h

/-! ### amd_pstate -/

/-- The fields of `PpdDriverAmdPstate` that `activate_profile` uses. -/
structure AmdPstate where
  /-- `activated_profile`. -/
  activatedProfile : PpdProfile
  /-- `epp_devices`: the cpufreq policy directories. -/
  eppDevices : Option (List String)
  /-- `on_battery`. -/
  onBattery : Bool

/-- `profile_to_gov_pref`. -/
def amdProfileToGovPref : PpdProfile → String
  | .powerSaver => "powersave"
  | .balanced => "powersave"
  | .performance => "performance"
  | .unset => ""

/-- `profile_to_cpb_pref`. -/
def amdProfileToCpbPref : PpdProfile → String
  | .powerSaver => "0"
  | .balanced => "1"
  | .performance => "1"
  | .unset => ""

/-- `profile_to_min_freq`: the file whose frequency becomes `scaling_min_freq`. -/
def amdProfileToMinFreq : PpdProfile → String
  | .powerSaver => "cpuinfo_min_freq"
  | .balanced => "amd_pstate_lowest_nonlinear_freq"
  | .performance => "amd_pstate_lowest_nonlinear_freq"
  | .unset => ""

/-- `g_strchomp`: drop the trailing characters that `g_ascii_isspace` accepts. -/
def gStrchomp (s : String) : String :=
  ⟨(s.data.reverse.dropWhile fun c => [' ', '\t', '\n', '\x0b', '\x0c', '\r'].contains c).reverse⟩

/-- One iteration of the loop of `apply_pref_to_devices` of `ppd-driver-amd-pstate.c`, on
the policy directory `base`. -/
def amdApplyPrefToDevice (fails : Nat → Option String) (s : SysfsState) (base : String)
    (profile : PpdProfile) (battery : Bool) : SysfsState × Except GError Unit :=
  match s.write fails (buildFilename base "scaling_governor") (amdProfileToGovPref profile) with
  | (s, .error e) => (s, .error e)
  | (s, .ok ()) =>
    match s.write fails (buildFilename base "energy_performance_preference")
        (profileToEppPref profile battery) with
    | (s, .error e) => (s, .error e)
    | (s, .ok ()) =>
      let cpb := buildFilename base "boost"
      match if (s.tree cpb).isSome then s.write fails cpb (amdProfileToCpbPref profile)
          else (s, .ok ()) with
      | (s, .error e) => (s, .error e)
      | (s, .ok ()) =>
        match s.tree (buildFilename base (amdProfileToMinFreq profile)) with
        | none => (s, .ok ())
        | some minFreqVal =>
          s.write fails (buildFilename base "scaling_min_freq") (gStrchomp minFreqVal)

/-- The loop of `apply_pref_to_devices` of `ppd-driver-amd-pstate.c`. -/
def amdApplyPrefLoop (fails : Nat → Option String) (profile : PpdProfile) (battery : Bool)
    (s : SysfsState) : List String → SysfsState × Except GError Unit
  | [] => (s, .ok ())
  | base :: rest =>
    match amdApplyPrefToDevice fails s base profile battery with
    | (s, .error e) => (s, .error e)
    | (s, .ok ()) => amdApplyPrefLoop fails profile battery s rest

/-- `apply_pref_to_devices` of `ppd-driver-amd-pstate.c`. -/
def amdApplyPrefToDevices (fails : Nat → Option String) (s : SysfsState) (devices : List String)
    (profile : PpdProfile) (battery : Bool) : SysfsState × Except GError Unit :=
  if profile = .unset then (s, .ok ()) else amdApplyPrefLoop fails profile battery s devices

/-- `ppd_driver_amd_pstate_activate_profile`: on a failure after an earlier activation,
re-apply the previous profile, whose outcome is only logged. -/
def AmdPstate.activateProfile (fails : Nat → Option String) (pstate : AmdPstate) (s : SysfsState)
    (profile : PpdProfile) : AmdPstate × SysfsState × Except GError Unit :=
  match pstate.eppDevices with
  | none => (pstate, s, .error ⟨.failed, ""⟩)
  | some devices =>
    if devices = [] then (pstate, s, .error ⟨.failed, ""⟩)
    else match amdApplyPrefToDevices fails s devices profile pstate.onBattery with
      | (s, .error e) =>
        if pstate.activatedProfile ≠ .unset then
          (pstate, (amdApplyPrefToDevices fails s devices pstate.activatedProfile pstate.onBattery).1,
            .error e)
        else (pstate, s, .error e)
      | (s, .ok ()) => ({ pstate with activatedProfile := profile }, s, .ok ())

/-- A failed amd_pstate activation keeps `activated_profile`. -/
theorem AmdPstate.activateProfile_error (fails : Nat → Option String) (pstate : AmdPstate)
    (s : SysfsState) (profile : PpdProfile)
    (h : (pstate.activateProfile fails s profile).2.2 ≠ .ok ()) :
    (pstate.activateProfile fails s profile).1 = pstate := by
  unfold AmdPstate.activateProfile at h ⊢
  split
  · rfl
  rename_i devices heq
  simp only [heq] at h
  by_cases hne : devices = []
  · simp only [hne, if_true]
  simp only [hne, if_false] at h ⊢
  generalize amdApplyPrefToDevices fails s devices profile pstate.onBattery = w at h ⊢
  obtain ⟨s1, r⟩ := w
  cases r with
  | error e =>
    dsimp only
    split_ifs <;> rfl
  | ok u =>
    cases u
    exact absurd rfl h

/-! ### Failed activations that leave files changed -/

/-- The first cpufreq policy directory. -/
def policy0 : String := "/sys/devices/system/cpu/cpufreq/policy0"

/-- The second cpufreq policy directory. -/
def policy1 : String := "/sys/devices/system/cpu/cpufreq/policy1"

/-- intel_pstate with balanced activated on AC, on two policies' EPP files only. -/
def intelTwoPolicies : IntelPstate :=
  ⟨.balanced, some [buildFilename policy0 "energy_performance_preference",
    buildFilename policy1 "energy_performance_preference"], none, false⟩

/-- amd_pstate on two policies, with `activated_profile`. -/
def amdTwoPolicies (activated : PpdProfile) : AmdPstate :=
  ⟨activated, some [policy0, policy1], false⟩

/-- The files of both policies as balanced on AC leaves them; `cpuinfo_min_freq` exists and
`amd_pstate_lowest_nonlinear_freq` and `boost` do not. -/
def balancedTree : SysfsState where
  tree p :=
    if p = buildFilename policy0 "scaling_governor" ∨ p = buildFilename policy1 "scaling_governor" then
      some "powersave"
    else if p = buildFilename policy0 "energy_performance_preference" ∨
        p = buildFilename policy1 "energy_performance_preference" then some "balance_performance"
    else if p = buildFilename policy0 "cpuinfo_min_freq" ∨ p = buildFilename policy1 "cpuinfo_min_freq" then
      some "400000\n"
    else if p = buildFilename policy0 "scaling_min_freq" ∨ p = buildFilename policy1 "scaling_min_freq" then
      some "1100000"
    else none
  calls := 0

/-- The `write` with number `n` fails with EIO. -/
def failsAt (n : Nat) (call : Nat) : Option String :=
  if call = n then some "Input/output error" else none

/-- Three failed activations that change files. intel_pstate switching to performance
fails on the second policy and leaves the first one's EPP at `performance`. amd_pstate's
very first activation fails on the second policy's governor and leaves the first one's at
`performance`. amd_pstate switching from balanced to power-saver fails at the same place;
its rollback succeeds, and still the first policy's `scaling_min_freq` keeps the power-saver
minimum, since balanced reads its minimum from a file that does not exist. -/
theorem cpu_activation_failure_keeps_writes :
    (intelTwoPolicies.applyPrefToDevices (failsAt 1) balancedTree .performance).2.2 ≠ .ok () ∧
    (intelTwoPolicies.applyPrefToDevices (failsAt 1) balancedTree .performance).2.1.tree
        (buildFilename policy0 "energy_performance_preference") = some "performance" ∧
    ((amdTwoPolicies .unset).activateProfile (failsAt 2) balancedTree .performance).2.2 ≠ .ok () ∧
    ((amdTwoPolicies .unset).activateProfile (failsAt 2) balancedTree .performance).2.1.tree
        (buildFilename policy0 "scaling_governor") = some "performance" ∧
    ((amdTwoPolicies .balanced).activateProfile (failsAt 3) balancedTree .powerSaver).2.2 ≠ .ok () ∧
    ((amdTwoPolicies .balanced).activateProfile (failsAt 3) balancedTree .powerSaver).2.1.tree
        (buildFilename policy0 "scaling_min_freq") = some "400000" := by
  decide

end PowerProfiles
