import PowerProfiles.PowerSource
import PowerProfiles.PanelPower

/-!
# The CPU drivers' probes

intel_pstate's `probe_epp` checks that `intel_pstate/status` reads `active`, then goes
through the cpufreq policy directories: for each one with an
`energy_performance_preference` file it forces `scaling_governor` to `powersave`, and keeps
the file if that write succeeds. `probe_epb` keeps every CPU's `power/energy_perf_bias`.
The probe succeeds when either list is not empty, and then reads `no_turbo` for the
`performance-degraded` property. amd_pstate's probe checks `amd_pstate/status` and the ACPI
`pm_profile`, refuses servers, and keeps each policy directory whose EPP file it can write
back with its own contents. Paths are those `ppd_utils_get_sysfs_path` gives with no
`UMOCKDEV_DIR`; the entries of a directory are what `g_dir_read_name` returns, in its order.

A successful intel_pstate probe leaves EPP and EPB lists that cannot share a file, every
file on them present, and every kept policy on the `powersave` governor. On a machine where
no write fails, every later call the daemon can make then succeeds; so from the daemon's
start, whatever UPower, logind and the daemon's activations do, the EPP and EPB files end
up holding the preferences of the activated profile for the power source the daemon
recorded. amd_pstate never binds on a machine whose ACPI profile is a server's or
unspecified; where its policy directories have the attributes it writes (its probe only
checks the EPP file), the same holds of its governor, EPP, boost and minimum frequency.
-/

namespace PowerProfiles

/-- `CPU_DIR`, without its trailing separator. -/
def cpuDir : String := "/sys/devices/system/cpu"

/-- `CPUFREQ_POLICY_DIR`, without its trailing separator. -/
def cpufreqPolicyDir : String := "/sys/devices/system/cpu/cpufreq"

/-- `DEFAULT_CPU_FREQ_SCALING_GOV`. -/
def defaultCpuFreqScalingGov : String := "powersave"

/-- `PSTATE_STATUS_PATH` of intel_pstate. -/
def intelPstateStatusPath : String := "/sys/devices/system/cpu/intel_pstate/status"

/-- `NO_TURBO_PATH`. -/
def noTurboPath : String := "/sys/devices/system/cpu/intel_pstate/no_turbo"

/-- `TURBO_PCT_PATH`. -/
def turboPctPath : String := "/sys/devices/system/cpu/intel_pstate/turbo_pct"

/-- `PSTATE_STATUS_PATH` of amd_pstate. -/
def amdPstateStatusPath : String := "/sys/devices/system/cpu/amd_pstate/status"

/-- `ACPI_PM_PROFILE`. -/
def acpiPmProfilePath : String := "/sys/firmware/acpi/pm_profile"

/-- The EPP file of a cpufreq policy directory. -/
def eppPath (dirname : String) : String :=
  buildFilename (buildFilename cpufreqPolicyDir dirname) "energy_performance_preference"

/-- The governor file of a cpufreq policy directory. -/
def governorPath (dirname : String) : String :=
  buildFilename (buildFilename cpufreqPolicyDir dirname) "scaling_governor"

/-- The EPB file of a CPU directory. -/
def epbPath (dirname : String) : String :=
  buildFilename (buildFilename (buildFilename cpuDir dirname) "power") "energy_perf_bias"

/-- A `GPtrArray` that the probe creates on its first addition: `NULL` while empty. -/
def ptrArrayOf (l : List String) : Option (List String) :=
  if l.isEmpty then none else some l

/-- A machine on which no `write` fails. -/
def noWriteFailures : Nat → Option String := fun _ => none

/-! ### intel_pstate -/

section IntelProbe

variable (fails : Nat → Option String)

/-- The loop of intel_pstate's `probe_epp`: keep the EPP file of each policy directory that
has one, once its governor takes `powersave`. -/
def intelProbeEppLoop (s : SysfsState) : List String → SysfsState × List String
  | [] => (s, [])
  | dirname :: rest =>
    if (s.tree (eppPath dirname)).isNone then intelProbeEppLoop s rest
    else match s.write fails (governorPath dirname) defaultCpuFreqScalingGov with
      | (s, .error _) => intelProbeEppLoop s rest
      | (s, .ok ()) =>
        let r := intelProbeEppLoop s rest
        (r.1, eppPath dirname :: r.2)

/-- `probe_epp` of intel_pstate: the files after it, the EPP array and the verdict. -/
def intelProbeEpp (listDir : String → Option (List String)) (s : SysfsState) :
    SysfsState × Option (List String) × PpdProbeResult :=
  match s.tree intelPstateStatusPath with
  | none => (s, none, .fail)
  | some status =>
    if gStrchomp status ≠ "active" then (s, none, .fail)
    else match listDir cpufreqPolicyDir with
      | none => (s, none, .fail)
      | some dirnames =>
        let r := intelProbeEppLoop fails s dirnames
        (r.1, ptrArrayOf r.2, if r.2.isEmpty then .fail else .success)

/-- `probe_epb` of intel_pstate: the EPB array and the verdict. -/
def intelProbeEpb (listDir : String → Option (List String)) (s : SysfsState) :
    Option (List String) × PpdProbeResult :=
  match listDir cpuDir with
  | none => (none, .fail)
  | some dirnames =>
    let devices := (dirnames.map epbPath).filter fun p => (s.tree p).isSome
    (ptrArrayOf devices, if devices.isEmpty then .fail else .success)

/-- `sys_has_turbo`. -/
def sysHasTurbo (s : SysfsState) : Bool :=
  match s.tree turboPctPath with
  | none => false
  | some contents => gStrchomp contents ≠ "0"

/-- `update_no_turbo`: the value it gives `performance-degraded`. -/
def updateNoTurbo (s : SysfsState) : Option String :=
  match s.tree noTurboPath with
  | some contents => if gStrchomp contents = "1" then some "high-operating-temperature" else none
  | none => none

/-- `ppd_driver_intel_pstate_probe` on a new driver: the driver, the files, the verdict and
the `performance-degraded` value it leaves. -/
def IntelPstate.probe (listDir : String → Option (List String)) (s : SysfsState) :
    IntelPstate × SysfsState × PpdProbeResult × Option String :=
  let epp := intelProbeEpp fails listDir s
  let epb := intelProbeEpb listDir epp.1
  let ret := if epp.2.2 = .success then epp.2.2 else epb.2
  (⟨.unset, epp.2.1, epb.1, false⟩, epp.1, ret,
    if ret = .success ∧ sysHasTurbo epp.1 then updateNoTurbo epp.1 else none)

/-- Every file `probe_epp` keeps is the EPP file of a listed policy directory, whose governor
it left at `powersave`. -/
theorem intelProbeEppLoop_mem :
    ∀ (dirnames : List String) (s : SysfsState), ∀ f ∈ (intelProbeEppLoop fails s dirnames).2,
      ∃ d ∈ dirnames, f = eppPath d ∧
        (intelProbeEppLoop fails s dirnames).1.tree (governorPath d) = some defaultCpuFreqScalingGov
  | [], _, _, h => absurd h (List.not_mem_nil _)
  | d :: rest, s, f, hf => by
    simp only [intelProbeEppLoop] at hf ⊢
    split_ifs at hf ⊢
    · obtain ⟨d', hd', h⟩ := intelProbeEppLoop_mem rest s f hf
      exact ⟨d', List.mem_cons_of_mem _ hd', h⟩
    have hgov := SysfsState.write_tree fails s (governorPath d) defaultCpuFreqScalingGov (governorPath d)
    generalize s.write fails (governorPath d) defaultCpuFreqScalingGov = w at hgov hf ⊢
    obtain ⟨s1, _ | ⟨⟩⟩ := w
    · obtain ⟨d', hd', h⟩ := intelProbeEppLoop_mem rest s1 f hf
      exact ⟨d', List.mem_cons_of_mem _ hd', h⟩
    rcases List.mem_cons.1 hf with rfl | hf
    · refine ⟨d, List.mem_cons_self _ _, rfl, intelProbeEppLoop_keeps rest s1 ?_⟩
      simpa [defaultCpuFreqScalingGov] using hgov
    · obtain ⟨d', hd', h⟩ := intelProbeEppLoop_mem rest s1 f hf
      exact ⟨d', List.mem_cons_of_mem _ hd', h⟩
where
  /-- The loop writes only `powersave`, so a file holding it keeps it. -/
  intelProbeEppLoop_keeps {q : String} : ∀ (dirnames : List String) (s : SysfsState),
      s.tree q = some defaultCpuFreqScalingGov →
      (intelProbeEppLoop fails s dirnames).1.tree q = some defaultCpuFreqScalingGov
    | [], _, h => h
    | d :: rest, s, h => by
      simp only [intelProbeEppLoop]
      split_ifs
      · exact intelProbeEppLoop_keeps rest s h
      have hq := SysfsState.write_tree fails s (governorPath d) defaultCpuFreqScalingGov q
      generalize s.write fails (governorPath d) defaultCpuFreqScalingGov = w at hq ⊢
      obtain ⟨s1, _ | ⟨⟩⟩ := w <;> refine intelProbeEppLoop_keeps rest s1 ?_ <;>
        rw [hq] <;> split_ifs <;> simp_all

theorem ptrArrayOf_getD (l : List String) : (ptrArrayOf l).getD [] = l := by
  unfold ptrArrayOf
  split_ifs with h
  · exact (List.isEmpty_iff.1 h).symm
  · rfl

/-- No write of `probe_epp` creates or removes a file. -/
theorem intelProbeEppLoop_isSome (p : String) :
    ∀ (dirnames : List String) (s : SysfsState),
      ((intelProbeEppLoop fails s dirnames).1.tree p).isSome = (s.tree p).isSome
  | [], _ => rfl
  | d :: rest, s => by
    simp only [intelProbeEppLoop]
    split_ifs
    · exact intelProbeEppLoop_isSome p rest s
    have h1 := SysfsState.write_isSome fails s (governorPath d) defaultCpuFreqScalingGov p
    generalize s.write fails (governorPath d) defaultCpuFreqScalingGov = w at h1 ⊢
    obtain ⟨s1, _ | ⟨⟩⟩ := w <;> exact (intelProbeEppLoop_isSome p rest s1).trans h1

/-- Every file `probe_epp` keeps still exists after it. -/
theorem intelProbeEppLoop_exists :
    ∀ (dirnames : List String) (s : SysfsState), ∀ f ∈ (intelProbeEppLoop fails s dirnames).2,
      ((intelProbeEppLoop fails s dirnames).1.tree f).isSome
  | [], _, _, h => absurd h (List.not_mem_nil _)
  | d :: rest, s, f, hf => by
    simp only [intelProbeEppLoop] at hf ⊢
    split_ifs at hf ⊢ with hnone
    · exact intelProbeEppLoop_exists rest s f hf
    have h1 := SysfsState.write_isSome fails s (governorPath d) defaultCpuFreqScalingGov (eppPath d)
    generalize s.write fails (governorPath d) defaultCpuFreqScalingGov = w at h1 hf ⊢
    obtain ⟨s1, _ | ⟨⟩⟩ := w
    · exact intelProbeEppLoop_exists rest s1 f hf
    rcases List.mem_cons.1 hf with rfl | hf
    · rw [intelProbeEppLoop_isSome, h1, Option.isSome_iff_ne_none]
      simpa using hnone
    · exact intelProbeEppLoop_exists rest s1 f hf

/-- What `probe_epp` keeps: EPP files that exist, of policy directories on `powersave`; and
on success, at least one. -/
theorem intelProbeEpp_spec (listDir : String → Option (List String)) (s : SysfsState) :
    (∀ f ∈ (intelProbeEpp fails listDir s).2.1.getD [], ∃ d, f = eppPath d ∧
      ((intelProbeEpp fails listDir s).1.tree f).isSome ∧
      (intelProbeEpp fails listDir s).1.tree (governorPath d) = some defaultCpuFreqScalingGov) ∧
    ((intelProbeEpp fails listDir s).2.2 = .success → (intelProbeEpp fails listDir s).2.1.getD [] ≠ []) := by
  unfold intelProbeEpp
  split
  · exact ⟨fun _ h => absurd h (List.not_mem_nil _), nofun⟩
  split_ifs
  · exact ⟨fun _ h => absurd h (List.not_mem_nil _), nofun⟩
  split
  · exact ⟨fun _ h => absurd h (List.not_mem_nil _), nofun⟩
  rename_i dirnames _
  simp only [ptrArrayOf_getD]
  refine ⟨fun f hf => ?_, fun h hnil => by simp [hnil] at h⟩
  obtain ⟨d, -, rfl, hgov⟩ := intelProbeEppLoop_mem fails dirnames s f hf
  exact ⟨d, rfl, intelProbeEppLoop_exists fails dirnames s _ hf, hgov⟩

/-- What `probe_epb` keeps: EPB files that exist; and on success, at least one. -/
theorem intelProbeEpb_spec (listDir : String → Option (List String)) (s : SysfsState) :
    (∀ f ∈ (intelProbeEpb listDir s).1.getD [], ∃ d, f = epbPath d ∧ (s.tree f).isSome) ∧
    ((intelProbeEpb listDir s).2 = .success → (intelProbeEpb listDir s).1.getD [] ≠ []) := by
  unfold intelProbeEpb
  split
  · exact ⟨fun _ h => absurd h (List.not_mem_nil _), nofun⟩
  simp only [ptrArrayOf_getD, List.mem_filter, List.mem_map]
  refine ⟨fun f ⟨⟨d, _, hd⟩, hf⟩ => ⟨d, hd.symm, hf⟩, fun h hnil => by simp [hnil] at h⟩

/-- The two names can never meet: an EPP file is no EPB file. -/
theorem eppPath_ne_epbPath (d d' : String) : eppPath d ≠ epbPath d' := fun h =>
  absurd ((buildFilename_inj (by decide) (by decide)).1 h).2 (by decide)

/-- A successful probe leaves EPP and EPB lists that share no file. -/
theorem IntelPstate.probe_disjoint (listDir : String → Option (List String)) (s : SysfsState) :
    (IntelPstate.probe fails listDir s).1.Disjoint := fun f hepp hepb => by
  obtain ⟨d, rfl, -⟩ := (intelProbeEpp_spec fails listDir s).1 f hepp
  obtain ⟨d', heq, -⟩ := (intelProbeEpb_spec listDir _).1 _ hepb
  exact eppPath_ne_epbPath d d' heq

/-- intel_pstate can make its writes: every file it may write exists, and it has at least
one. -/
def IntelPstate.Ready (pstate : IntelPstate) (s : SysfsState) : Prop :=
  (∀ f, pstate.Owns f → (s.tree f).isSome) ∧
    ¬(pstate.eppDevices.getD [] = [] ∧ pstate.epbDevices.getD [] = [])

/-- A successful probe leaves intel_pstate ready, each kept policy on the `powersave`
governor. -/
theorem IntelPstate.probe_ready (listDir : String → Option (List String)) (s : SysfsState)
    (h : (IntelPstate.probe fails listDir s).2.2.1 = .success) :
    (IntelPstate.probe fails listDir s).1.Ready (IntelPstate.probe fails listDir s).2.1 ∧
    ∀ f ∈ (IntelPstate.probe fails listDir s).1.eppDevices.getD [], ∃ d, f = eppPath d ∧
      (IntelPstate.probe fails listDir s).2.1.tree (governorPath d) = some defaultCpuFreqScalingGov := by
  obtain ⟨hepp, hepp_ok⟩ := intelProbeEpp_spec fails listDir s
  obtain ⟨hepb, hepb_ok⟩ := intelProbeEpb_spec listDir (intelProbeEpp fails listDir s).1
  refine ⟨⟨fun f hf => ?_, fun ⟨h1, h2⟩ => ?_⟩, fun f hf => ?_⟩
  · rcases hf with hf | hf
    · obtain ⟨d, -, hex, -⟩ := hepp f hf
      exact hex
    · obtain ⟨d, -, hex⟩ := hepb f hf
      exact hex
  · simp only [IntelPstate.probe] at h
    split_ifs at h with hs
    · exact hepp_ok hs h1
    · exact hepb_ok h h2
  · obtain ⟨d, rfl, -, hgov⟩ := hepp f hf
    exact ⟨d, rfl, hgov⟩

end IntelProbe

/-! ### No spurious failure -/

section Liveness

/-- With no failing `write`, a write to a file that exists succeeds. -/
theorem SysfsState.write_ok_of_isSome (s : SysfsState) {filename : String} (value : String)
    (h : (s.tree filename).isSome) : (s.write noWriteFailures filename value).2 = .ok () := by
  unfold SysfsState.write
  rw [if_neg (by simpa [Option.isNone_iff_eq_none, ← Option.isSome_iff_ne_none] using h)]
  split_ifs <;> rfl

theorem ppdUtilsWriteFiles_ok_of_isSome (value : String) :
    ∀ (filenames : List String) (s : SysfsState), (∀ f ∈ filenames, (s.tree f).isSome) →
      (ppdUtilsWriteFiles noWriteFailures s filenames value).2 = .ok ()
  | [], _, _ => rfl
  | file :: rest, s, h => by
    have hok := SysfsState.write_ok_of_isSome s value (h file (.head _))
    have hex := fun p => SysfsState.write_isSome noWriteFailures s file value p
    simp only [ppdUtilsWriteFiles]
    generalize s.write noWriteFailures file value = w at hok hex ⊢
    obtain ⟨s1, _ | ⟨⟩⟩ := w
    · exact absurd hok nofun
    exact ppdUtilsWriteFiles_ok_of_isSome value rest s1 fun g hg =>
      (hex g).trans (h g (List.mem_cons_of_mem _ hg))

theorem writeFilesIfPresent_ok_of_isSome (s : SysfsState) (devices : Option (List String))
    (value : String) (h : ∀ f ∈ devices.getD [], (s.tree f).isSome) :
    (writeFilesIfPresent noWriteFailures s devices value).2 = .ok () := by
  cases devices with
  | none => rfl
  | some devices => exact ppdUtilsWriteFiles_ok_of_isSome value devices s h

/-- With every file present and no failing `write`, intel_pstate's `apply_pref_to_devices`
returns TRUE: its guards hold when it has a file. -/
theorem IntelPstate.applyPrefToDevices_ok_of_ready (pstate : IntelPstate) (s : SysfsState)
    (profile : PpdProfile) (hready : pstate.Ready s) :
    (pstate.applyPrefToDevices noWriteFailures s profile).2.2 = .ok () := by
  obtain ⟨hex, hne⟩ := hready
  unfold IntelPstate.applyPrefToDevices
  split_ifs with h1 h2
  · rfl
  · obtain ⟨he, hb⟩ := h2
    exact hne ⟨by simp [Option.isNone_iff_eq_none.1 he], by simp [Option.isNone_iff_eq_none.1 hb]⟩
  have hepp := writeFilesIfPresent_ok_of_isSome s pstate.eppDevices
    (profileToEppPref profile pstate.onBattery) fun f hf => hex f (.inl hf)
  have hsome := fun p => writeFilesIfPresent_isSome noWriteFailures s pstate.eppDevices
    (profileToEppPref profile pstate.onBattery) p
  generalize writeFilesIfPresent noWriteFailures s pstate.eppDevices _ = w1 at hepp hsome
  obtain ⟨s1, _ | ⟨⟩⟩ := w1
  · exact absurd hepp nofun
  have hepb := writeFilesIfPresent_ok_of_isSome s1 pstate.epbDevices
    (intelProfileToEpbPref profile pstate.onBattery) fun f hf => (hsome f).trans (hex f (.inr hf))
  dsimp only
  generalize writeFilesIfPresent noWriteFailures s1 pstate.epbDevices _ = w2 at hepb
  obtain ⟨s2, _ | ⟨⟩⟩ := w2
  · exact absurd hepb nofun
  · rfl

/-- A call keeps intel_pstate ready. -/
theorem IntelPstate.call_ready (fails : Nat → Option String) (pstate : IntelPstate) (s : SysfsState)
    (c : CpuDriverCall) (hready : pstate.Ready s) :
    (pstate.call fails s c).1.Ready (pstate.call fails s c).2.1 := by
  have hsome : ∀ p, ((pstate.call fails s c).2.1.tree p).isSome = (s.tree p).isSome := by
    intro p
    cases c with
    | activateProfile profile =>
      simp only [IntelPstate.call]
      split_ifs
      · exact IntelPstate.applyPrefToDevices_isSome fails pstate s profile p
      · rfl
    | powerChanged reason => exact IntelPstate.applyPrefToDevices_isSome fails _ s _ p
    | prepareForSleep start =>
      cases start
      · simp only [IntelPstate.call, (IntelPstate.prepareForSleep_resume fails pstate s).2.1]
        exact IntelPstate.applyPrefToDevices_isSome fails pstate s _ p
      · rfl
  obtain ⟨a, b, heq⟩ := IntelPstate.call_fst fails pstate s c
  rw [heq]
  exact ⟨fun f hf => (hsome f).trans (hready.1 f hf), hready.2⟩

/-- With no failing `write`, every call the daemon can make on a ready intel_pstate returns
TRUE; only a request for `PPD_PROFILE_UNSET` is refused. -/
theorem IntelPstate.call_ok_of_ready (pstate : IntelPstate) (s : SysfsState) {c : CpuDriverCall}
    (hready : pstate.Ready s) (hc : c ≠ .activateProfile .unset) :
    (pstate.call noWriteFailures s c).2.2 = .ok () := by
  cases c with
  | activateProfile profile =>
    have hsf : profile.hasSingleFlag = true := by
      cases profile <;> first | exact absurd rfl hc | rfl
    simp only [IntelPstate.call, hsf, if_true]
    exact IntelPstate.applyPrefToDevices_ok_of_ready pstate s profile hready
  | powerChanged reason => exact IntelPstate.applyPrefToDevices_ok_of_ready _ s _ hready
  | prepareForSleep start =>
    cases start
    · exact (IntelPstate.prepareForSleep_resume noWriteFailures pstate s).2.2.2
        (IntelPstate.applyPrefToDevices_ok_of_ready pstate s _ hready)
    · rfl

end Liveness

/-! ### From the probe to the files -/

/-- The power source path at the daemon's start with intel_pstate fresh from its probe:
`power_changed_reason` is `UNKNOWN`. -/
def PowerPath.intelStart (listDir : String → Option (List String)) (s : SysfsState) :
    PowerPath IntelPstate :=
  ⟨.unknown, (IntelPstate.probe noWriteFailures listDir s).1,
    (IntelPstate.probe noWriteFailures listDir s).2.1⟩

/-- On a machine where no sysfs write fails and every read of a file that exists succeeds
(the model reads a file as its contents), once intel_pstate's probe succeeds, whatever
UPower, logind and the daemon's activations do (the daemon never asks for
`PPD_PROFILE_UNSET`), every call on the driver succeeds and its EPP and EPB files hold the
preferences of the activated profile for the power source the daemon recorded. -/
theorem PowerPath.intel_probe_follows (listDir : String → Option (List String)) (s : SysfsState)
    (hprobe : (IntelPstate.probe noWriteFailures listDir s).2.2.1 = .success)
    (events : List PowerEvent) (hevents : ∀ e ∈ events, e ≠ .activate .unset) :
    (∀ x ∈ ((PowerPath.intelStart listDir s).run (IntelPstate.call noWriteFailures) events).2,
      x.2 = .ok ()) ∧
    ((PowerPath.intelStart listDir s).run (IntelPstate.call noWriteFailures) events).1.IntelFollows := by
  have hok := PowerPath.run_ready (IntelPstate.call noWriteFailures) IntelPstate.Ready
    (fun d s c hc h => ⟨IntelPstate.call_ready noWriteFailures d s c h, IntelPstate.call_ok_of_ready d s h hc⟩)
    events (PowerPath.intelStart listDir s) hevents (IntelPstate.probe_ready noWriteFailures listDir s hprobe).1
  exact ⟨hok, PowerPath.intel_run_follows noWriteFailures events _
    (IntelPstate.probe_disjoint noWriteFailures listDir s) rfl (fun h => (h rfl).elim) hok⟩

/-- A machine with one cpufreq policy and one CPU, intel_pstate active. -/
def intelMachineDirs (dir : String) : Option (List String) :=
  if dir = cpufreqPolicyDir then some ["policy0"] else if dir = cpuDir then some ["cpu0"] else none

/-- The sysfs files of `intelMachineDirs`. -/
def intelMachineTree : SysfsState where
  tree p :=
    if p = intelPstateStatusPath then some "active\n"
    else if p = eppPath "policy0" then some "balance_performance\n"
    else if p = governorPath "policy0" then some "performance\n"
    else if p = epbPath "cpu0" then some "6\n"
    else none
  calls := 0

theorem intelMachine_probe_follows :
    (IntelPstate.probe noWriteFailures intelMachineDirs intelMachineTree).2.2.1 = .success ∧
    (∀ e ∈ powerEvening, e ≠ .activate .unset) ∧
    ((∀ x ∈ ((PowerPath.intelStart intelMachineDirs intelMachineTree).run
      (IntelPstate.call noWriteFailures) powerEvening).2, x.2 = .ok ()) ∧
    ((PowerPath.intelStart intelMachineDirs intelMachineTree).run
      (IntelPstate.call noWriteFailures) powerEvening).1.IntelFollows) :=
  have hprobe : (IntelPstate.probe noWriteFailures intelMachineDirs intelMachineTree).2.2.1 = .success := by
    decide
  have hevents : ∀ e ∈ powerEvening, e ≠ .activate .unset := by decide
  ⟨hprobe, hevents, PowerPath.intel_probe_follows intelMachineDirs intelMachineTree hprobe powerEvening hevents⟩

/-! ### amd_pstate -/

section AmdProbe

variable (fails : Nat → Option String)

/-- The ACPI preferred PM profiles amd_pstate's probe refuses: `PM_UNSPECIFIED`,
`PM_ENTERPRISE_SERVER`, `PM_SOHO_SERVER` and `PM_PERFORMANCE_SERVER`. -/
def amdRefusedPmProfiles : List Nat := [0, 4, 5, 7]

/-- The loop of amd_pstate's `probe_epp`: keep each policy directory whose EPP file exists
and takes back its own contents, trailing white space removed. -/
def amdProbeEppLoop (s : SysfsState) : List String → SysfsState × List String
  | [] => (s, [])
  | dirname :: rest =>
    match s.tree (eppPath dirname) with
    | none => amdProbeEppLoop s rest
    | some contents =>
      match s.write fails (eppPath dirname) (gStrchomp contents) with
      | (s, .error _) => amdProbeEppLoop s rest
      | (s, .ok ()) =>
        let r := amdProbeEppLoop s rest
        (r.1, buildFilename cpufreqPolicyDir dirname :: r.2)

/-- `ppd_driver_amd_pstate_probe` on a new driver: the driver, the files and the verdict. -/
def AmdPstate.probe (listDir : String → Option (List String)) (s : SysfsState) :
    AmdPstate × SysfsState × PpdProbeResult :=
  match s.tree amdPstateStatusPath with
  | none => (⟨.unset, none, false⟩, s, .fail)
  | some status =>
    if gStrchomp status ≠ "active" then (⟨.unset, none, false⟩, s, .fail)
    else match listDir cpufreqPolicyDir with
      | none => (⟨.unset, none, false⟩, s, .fail)
      | some dirnames =>
        match s.tree acpiPmProfilePath with
        | none => (⟨.unset, none, false⟩, s, .fail)
        | some pmProfileStr =>
          if gAsciiStrtoull pmProfileStr ∈ amdRefusedPmProfiles then (⟨.unset, none, false⟩, s, .fail)
          else
            let r := amdProbeEppLoop fails s dirnames
            (⟨.unset, ptrArrayOf r.2, false⟩, r.1, if r.2.isEmpty then .fail else .success)

/-- Every directory amd_pstate's `probe_epp` keeps is a listed policy directory with an EPP
file. -/
theorem amdProbeEppLoop_mem :
    ∀ (dirnames : List String) (s : SysfsState), ∀ base ∈ (amdProbeEppLoop fails s dirnames).2,
      ∃ d ∈ dirnames, base = buildFilename cpufreqPolicyDir d ∧ (s.tree (eppPath d)).isSome
  | [], _, _, h => absurd h (List.not_mem_nil _)
  | d :: rest, s, base, hb => by
    simp only [amdProbeEppLoop] at hb
    have hrest : ∀ s', (∀ p, (s'.tree p).isSome = (s.tree p).isSome) →
        base ∈ (amdProbeEppLoop fails s' rest).2 →
        ∃ d' ∈ d :: rest, base = buildFilename cpufreqPolicyDir d' ∧ (s.tree (eppPath d')).isSome :=
      fun s' hs' h => by
        obtain ⟨d', hd', h', hex⟩ := amdProbeEppLoop_mem rest s' base h
        exact ⟨d', List.mem_cons_of_mem _ hd', h', (hs' _).symm.trans hex⟩
    split at hb
    · exact hrest s (fun _ => rfl) hb
    rename_i contents hcontents
    have hex := fun p => SysfsState.write_isSome fails s (eppPath d) (gStrchomp contents) p
    generalize s.write fails (eppPath d) _ = w at hb hex
    obtain ⟨s1, _ | ⟨⟩⟩ := w
    · exact hrest s1 hex hb
    rcases List.mem_cons.1 hb with rfl | hb
    · exact ⟨d, List.mem_cons_self _ _, rfl, by simp [hcontents]⟩
    · exact hrest s1 hex hb

/-- `probe_epp` of amd_pstate creates and removes no file. -/
theorem amdProbeEppLoop_isSome (p : String) :
    ∀ (dirnames : List String) (s : SysfsState),
      ((amdProbeEppLoop fails s dirnames).1.tree p).isSome = (s.tree p).isSome
  | [], _ => rfl
  | d :: rest, s => by
    simp only [amdProbeEppLoop]
    split
    · exact amdProbeEppLoop_isSome p rest s
    have hex := SysfsState.write_isSome fails s (eppPath d) (gStrchomp ‹_›) p
    generalize s.write fails (eppPath d) _ = w at hex ⊢
    obtain ⟨s1, _ | ⟨⟩⟩ := w
    · exact (amdProbeEppLoop_isSome p rest s1).trans hex
    · exact (amdProbeEppLoop_isSome p rest s1).trans hex

/-- A successful amd_pstate probe found `amd_pstate` active, an ACPI profile that is no
server's, and at least one policy directory, each a listed one with an EPP file; so
`activate_profile`'s `g_return_val_if_fail` checks hold and it has not activated anything. -/
theorem AmdPstate.probe_success (listDir : String → Option (List String)) (s : SysfsState)
    (h : (AmdPstate.probe fails listDir s).2.2 = .success) :
    (∃ status, s.tree amdPstateStatusPath = some status ∧ gStrchomp status = "active") ∧
    (∃ pmProfileStr, s.tree acpiPmProfilePath = some pmProfileStr ∧
      gAsciiStrtoull pmProfileStr ∉ amdRefusedPmProfiles) ∧
    ∃ dirnames, listDir cpufreqPolicyDir = some dirnames ∧
      ∃ devices, (AmdPstate.probe fails listDir s).1 = ⟨.unset, some devices, false⟩ ∧ devices ≠ [] ∧
        ∀ base ∈ devices, ∃ d ∈ dirnames, base = buildFilename cpufreqPolicyDir d ∧
          (s.tree (eppPath d)).isSome := by
  unfold AmdPstate.probe at h ⊢
  split at h
  · exact absurd h nofun
  rename_i status hstatus
  split_ifs at h ⊢ with hactive
  split at h
  · exact absurd h nofun
  rename_i dirnames hdirs
  split at h
  · exact absurd h nofun
  rename_i pmProfileStr hpm
  split_ifs at h ⊢ with hrefused
  simp only [hstatus, hdirs, hpm] at h ⊢
  refine ⟨⟨status, rfl, not_not.1 hactive⟩, ⟨pmProfileStr, rfl, hrefused⟩, dirnames, rfl, ?_⟩
  split_ifs at h with hempty
  refine ⟨(amdProbeEppLoop fails s dirnames).2, ?_, fun hnil => hempty (by simp [hnil]),
    amdProbeEppLoop_mem fails dirnames s⟩
  simp [ptrArrayOf, hempty]

/-- amd_pstate's probe creates and removes no file. -/
theorem AmdPstate.probe_isSome (listDir : String → Option (List String)) (s : SysfsState) (p : String) :
    ((AmdPstate.probe fails listDir s).2.1.tree p).isSome = (s.tree p).isSome := by
  unfold AmdPstate.probe
  split
  · rfl
  split_ifs
  · rfl
  split
  · rfl
  split
  · rfl
  split_ifs
  · rfl
  · exact amdProbeEppLoop_isSome fails p _ s

end AmdProbe

/-! ### amd_pstate after its probe -/

section AmdLiveness

/-- The attributes amd_pstate writes exist in a policy directory: its governor and EPP
files, and `scaling_min_freq` wherever a frequency file it reads exists. -/
def amdPolicyReady (s : SysfsState) (base : String) : Prop :=
  (s.tree (buildFilename base "scaling_governor")).isSome ∧
    (s.tree (buildFilename base "energy_performance_preference")).isSome ∧
    ∀ profile, (s.tree (buildFilename base (amdProfileToMinFreq profile))).isSome →
      (s.tree (buildFilename base "scaling_min_freq")).isSome

/-- Only which files exist matters to `amdPolicyReady`. -/
theorem amdPolicyReady.congr {s s' : SysfsState} {base : String}
    (h : ∀ p, (s'.tree p).isSome = (s.tree p).isSome) (hr : amdPolicyReady s base) :
    amdPolicyReady s' base :=
  ⟨(h _).trans hr.1, (h _).trans hr.2.1, fun profile hf => (h _).trans (hr.2.2 profile ((h _).symm.trans hf))⟩

/-- amd_pstate holds policy directories, each with the attributes it writes. -/
def AmdPstate.Ready (pstate : AmdPstate) (s : SysfsState) : Prop :=
  pstate.eppDevices.getD [] ≠ [] ∧ ∀ base ∈ pstate.eppDevices.getD [], amdPolicyReady s base

theorem SysfsState.writeAll_ok_of_isSome :
    ∀ (writes : List (String × String)) (s : SysfsState), (∀ w ∈ writes, (s.tree w.1).isSome) →
      (s.writeAll noWriteFailures writes).2 = .ok ()
  | [], _, _ => rfl
  | (file, value) :: rest, s, h => by
    have hok := SysfsState.write_ok_of_isSome s value (h _ (.head _))
    have hex := fun p => SysfsState.write_isSome noWriteFailures s file value p
    simp only [SysfsState.writeAll]
    generalize s.write noWriteFailures file value = w at hok hex ⊢
    obtain ⟨s1, _ | ⟨⟩⟩ := w
    · exact absurd hok nofun
    exact SysfsState.writeAll_ok_of_isSome rest s1 fun w hw =>
      (hex w.1).trans (h w (List.mem_cons_of_mem _ hw))

/-- In a ready directory, every file one iteration writes exists. -/
theorem amdPolicyWrites_isSome {s : SysfsState} {base : String} (h : amdPolicyReady s base)
    (profile : PpdProfile) (battery : Bool) :
    ∀ w ∈ amdPolicyWrites s base profile battery, (s.tree w.1).isSome := by
  intro w hw
  simp only [amdPolicyWrites, List.cons_append, List.nil_append, List.mem_cons, List.mem_append] at hw
  rcases hw with rfl | rfl | hw | hw
  · exact h.1
  · exact h.2.1
  · split_ifs at hw with hboost
    · rw [List.mem_singleton.1 hw]
      exact hboost
    · exact absurd hw (List.not_mem_nil _)
  · split at hw
    · exact absurd hw (List.not_mem_nil _)
    · rename_i hfreq
      rw [List.mem_singleton.1 hw]
      exact h.2.2 profile (by simp [hfreq])

theorem amdApplyPrefLoop_isSome (fails : Nat → Option String) (profile : PpdProfile) (battery : Bool)
    (p : String) : ∀ (devices : List String) (s : SysfsState),
      ((amdApplyPrefLoop fails profile battery s devices).1.tree p).isSome = (s.tree p).isSome
  | [], _ => rfl
  | b :: rest, s => by
    have hex := SysfsState.writeAll_isSome fails p (amdPolicyWrites s b profile battery) s
    simp only [amdApplyPrefLoop, amdApplyPrefToDevice_eq]
    generalize s.writeAll fails (amdPolicyWrites s b profile battery) = w at hex ⊢
    obtain ⟨s1, _ | ⟨⟩⟩ := w
    · exact hex
    · exact (amdApplyPrefLoop_isSome fails profile battery p rest s1).trans hex

theorem amdApplyPrefToDevices_isSome (fails : Nat → Option String) (s : SysfsState)
    (devices : List String) (profile : PpdProfile) (battery : Bool) (p : String) :
    ((amdApplyPrefToDevices fails s devices profile battery).1.tree p).isSome = (s.tree p).isSome := by
  unfold amdApplyPrefToDevices
  split_ifs
  · rfl
  · exact amdApplyPrefLoop_isSome fails profile battery p devices s

/-- With no failing `write`, amd_pstate's loop over ready directories returns TRUE. -/
theorem amdApplyPrefLoop_ok_of_ready (profile : PpdProfile) (battery : Bool) :
    ∀ (devices : List String) (s : SysfsState), (∀ base ∈ devices, amdPolicyReady s base) →
      (amdApplyPrefLoop noWriteFailures profile battery s devices).2 = .ok ()
  | [], _, _ => rfl
  | b :: rest, s, h => by
    have hok := SysfsState.writeAll_ok_of_isSome _ s
      (amdPolicyWrites_isSome (h b (.head _)) profile battery)
    have hex := fun p => SysfsState.writeAll_isSome noWriteFailures p (amdPolicyWrites s b profile battery) s
    simp only [amdApplyPrefLoop, amdApplyPrefToDevice_eq]
    generalize s.writeAll noWriteFailures (amdPolicyWrites s b profile battery) = w at hok hex ⊢
    obtain ⟨s1, _ | ⟨⟩⟩ := w
    · exact absurd hok nofun
    exact amdApplyPrefLoop_ok_of_ready profile battery rest s1 fun base hb =>
      (h base (.tail _ hb)).congr hex

theorem amdApplyPrefToDevices_ok_of_ready (s : SysfsState) (devices : List String)
    (profile : PpdProfile) (battery : Bool) (h : ∀ base ∈ devices, amdPolicyReady s base) :
    (amdApplyPrefToDevices noWriteFailures s devices profile battery).2 = .ok () := by
  unfold amdApplyPrefToDevices
  split_ifs
  · rfl
  · exact amdApplyPrefLoop_ok_of_ready profile battery devices s h

/-- A call keeps amd_pstate ready. -/
theorem AmdPstate.call_ready (fails : Nat → Option String) (pstate : AmdPstate) (s : SysfsState)
    (c : CpuDriverCall) (hready : pstate.Ready s) :
    (pstate.call fails s c).1.Ready (pstate.call fails s c).2.1 := by
  have hsome : ∀ p, ((pstate.call fails s c).2.1.tree p).isSome = (s.tree p).isSome := by
    intro p
    cases c with
    | activateProfile profile =>
      simp only [AmdPstate.call]
      split_ifs
      · exact AmdPstate.activateProfile_keeps fails (fun s' => (s'.tree p).isSome = (s.tree p).isSome)
          pstate (fun s' devices _ profile battery h => (amdApplyPrefToDevices_isSome fails s' devices
            profile battery p).trans h) s profile rfl
      · rfl
    | powerChanged reason => exact amdApplyPrefToDevices_isSome fails s _ _ _ p
    | prepareForSleep start => rfl
  obtain ⟨a, b, heq⟩ := AmdPstate.call_fst fails pstate s c
  rw [heq]
  exact ⟨hready.1, fun base hb => (hready.2 base hb).congr hsome⟩

/-- With no failing `write`, every call the daemon can make on a ready amd_pstate returns
TRUE; only a request for `PPD_PROFILE_UNSET` is refused. -/
theorem AmdPstate.call_ok_of_ready (pstate : AmdPstate) (s : SysfsState) {c : CpuDriverCall}
    (hready : pstate.Ready s) (hc : c ≠ .activateProfile .unset) :
    (pstate.call noWriteFailures s c).2.2 = .ok () := by
  obtain ⟨hne, hpol⟩ := hready
  cases c with
  | activateProfile profile =>
    have hsf : profile.hasSingleFlag = true := by
      cases profile <;> first | exact absurd rfl hc | rfl
    simp only [AmdPstate.call, hsf, if_true, AmdPstate.activateProfile]
    cases hd : pstate.eppDevices with
    | none => simp [hd] at hne
    | some devices =>
    simp only [hd, Option.getD_some] at hne hpol
    simp only [hne, if_false]
    have hok := amdApplyPrefToDevices_ok_of_ready s devices profile pstate.onBattery hpol
    generalize amdApplyPrefToDevices noWriteFailures s devices profile pstate.onBattery = w at hok ⊢
    obtain ⟨s1, _ | ⟨⟩⟩ := w
    · exact absurd hok nofun
    · rfl
  | powerChanged reason => exact amdApplyPrefToDevices_ok_of_ready s _ _ _ hpol
  | prepareForSleep start => rfl

/-- A successful amd_pstate probe, on a machine where every listed policy directory with an
EPP file has the attributes amd_pstate writes, leaves the driver ready. -/
theorem AmdPstate.probe_ready (fails : Nat → Option String) (listDir : String → Option (List String))
    (s : SysfsState) (hprobe : (AmdPstate.probe fails listDir s).2.2 = .success)
    (hmachine : ∀ dirnames, listDir cpufreqPolicyDir = some dirnames → ∀ d ∈ dirnames,
      (s.tree (eppPath d)).isSome → amdPolicyReady s (buildFilename cpufreqPolicyDir d)) :
    (AmdPstate.probe fails listDir s).1.Ready (AmdPstate.probe fails listDir s).2.1 := by
  obtain ⟨-, -, dirnames, hdirs, devices, hp, hne, hbase⟩ := AmdPstate.probe_success fails listDir s hprobe
  rw [hp]
  refine ⟨hne, fun base hb => ?_⟩
  obtain ⟨d, hd, rfl, hex⟩ := hbase base hb
  exact (hmachine dirnames hdirs d hd hex).congr (AmdPstate.probe_isSome fails listDir s)

end AmdLiveness

/-- The power source path at the daemon's start with amd_pstate fresh from its probe. -/
def PowerPath.amdStart (listDir : String → Option (List String)) (s : SysfsState) :
    PowerPath AmdPstate :=
  ⟨.unknown, (AmdPstate.probe noWriteFailures listDir s).1, (AmdPstate.probe noWriteFailures listDir s).2.1⟩

/-- On a machine where no sysfs write fails, every read of a file that exists succeeds (the
model reads a file as its contents), and every listed policy directory with an EPP file
has the attributes amd_pstate writes, once amd_pstate's probe succeeds, whatever UPower,
logind and the daemon's activations do (the daemon never asks for `PPD_PROFILE_UNSET`), every
call on the driver succeeds and every policy directory holds the governor, EPP, boost and
minimum frequency of the activated profile for the power source the daemon recorded. -/
theorem PowerPath.amd_probe_follows (listDir : String → Option (List String)) (s : SysfsState)
    (hprobe : (AmdPstate.probe noWriteFailures listDir s).2.2 = .success)
    (hmachine : ∀ dirnames, listDir cpufreqPolicyDir = some dirnames → ∀ d ∈ dirnames,
      (s.tree (eppPath d)).isSome → amdPolicyReady s (buildFilename cpufreqPolicyDir d))
    (events : List PowerEvent) (hevents : ∀ e ∈ events, e ≠ .activate .unset) :
    (∀ x ∈ ((PowerPath.amdStart listDir s).run (AmdPstate.call noWriteFailures) events).2,
      x.2 = .ok ()) ∧
    ((PowerPath.amdStart listDir s).run (AmdPstate.call noWriteFailures) events).1.AmdFollows := by
  have hok := PowerPath.run_ready (AmdPstate.call noWriteFailures) AmdPstate.Ready
    (fun d s c hc h => ⟨AmdPstate.call_ready noWriteFailures d s c h, AmdPstate.call_ok_of_ready d s h hc⟩)
    events (PowerPath.amdStart listDir s) hevents
    (AmdPstate.probe_ready noWriteFailures listDir s hprobe hmachine)
  obtain ⟨-, -, -, -, devices, hp, -⟩ := AmdPstate.probe_success noWriteFailures listDir s hprobe
  have hstart : (PowerPath.amdStart listDir s).driver = ⟨.unset, some devices, false⟩ := hp
  exact ⟨hok, PowerPath.amd_run_follows noWriteFailures events _ (by rw [hstart]; rfl)
    (fun h => absurd (by rw [hstart]) h) hok⟩

/-- A laptop with two cpufreq policies, amd_pstate active and a mobile ACPI profile. -/
def amdMachineDirs (dir : String) : Option (List String) :=
  if dir = cpufreqPolicyDir then some ["policy0", "policy1"] else none

/-- The sysfs files of `amdMachineDirs`: `boost` only in the first policy. -/
def amdMachineTree : SysfsState where
  tree p :=
    if p = amdPstateStatusPath then some "active\n"
    else if p = acpiPmProfilePath then some "2\n"
    else if p = eppPath "policy0" ∨ p = eppPath "policy1" then some "balance_performance\n"
    else if p = governorPath "policy0" ∨ p = governorPath "policy1" then some "powersave\n"
    else if p = buildFilename (buildFilename cpufreqPolicyDir "policy0") "boost" then some "1\n"
    else if p = buildFilename (buildFilename cpufreqPolicyDir "policy0") "cpuinfo_min_freq" ∨
        p = buildFilename (buildFilename cpufreqPolicyDir "policy1") "cpuinfo_min_freq" ∨
        p = buildFilename (buildFilename cpufreqPolicyDir "policy0") "scaling_min_freq" ∨
        p = buildFilename (buildFilename cpufreqPolicyDir "policy1") "scaling_min_freq" then
      some "400000\n"
    else if p = buildFilename (buildFilename cpufreqPolicyDir "policy0") "amd_pstate_lowest_nonlinear_freq" ∨
        p = buildFilename (buildFilename cpufreqPolicyDir "policy1") "amd_pstate_lowest_nonlinear_freq" then
      some "1100000\n"
    else none
  calls := 0

/-- Every listed policy directory of `amdMachineTree` with an EPP file has the attributes
amd_pstate writes. -/
theorem amdMachine_policiesReady : ∀ dirnames, amdMachineDirs cpufreqPolicyDir = some dirnames →
    ∀ d ∈ dirnames, (amdMachineTree.tree (eppPath d)).isSome →
      amdPolicyReady amdMachineTree (buildFilename cpufreqPolicyDir d) := by
  intro dirnames h d hd _
  simp only [amdMachineDirs, if_true, Option.some.injEq] at h
  subst h
  simp only [List.mem_cons, List.not_mem_nil, or_false] at hd
  rcases hd with rfl | rfl <;> exact ⟨by decide, by decide, fun _ _ => by decide⟩

theorem amdMachine_probe_follows :
    (AmdPstate.probe noWriteFailures amdMachineDirs amdMachineTree).2.2 = .success ∧
    (∀ dirnames, amdMachineDirs cpufreqPolicyDir = some dirnames → ∀ d ∈ dirnames,
      (amdMachineTree.tree (eppPath d)).isSome →
        amdPolicyReady amdMachineTree (buildFilename cpufreqPolicyDir d)) ∧
    (∀ e ∈ powerEvening, e ≠ .activate .unset) ∧
    ((∀ x ∈ ((PowerPath.amdStart amdMachineDirs amdMachineTree).run
      (AmdPstate.call noWriteFailures) powerEvening).2, x.2 = .ok ()) ∧
    ((PowerPath.amdStart amdMachineDirs amdMachineTree).run
      (AmdPstate.call noWriteFailures) powerEvening).1.AmdFollows) :=
  have hprobe : (AmdPstate.probe noWriteFailures amdMachineDirs amdMachineTree).2.2 = .success := by
    decide
  have hevents : ∀ e ∈ powerEvening, e ≠ .activate .unset := by decide
  ⟨hprobe, amdMachine_policiesReady, hevents, PowerPath.amd_probe_follows amdMachineDirs amdMachineTree hprobe
    amdMachine_policiesReady powerEvening hevents⟩

end PowerProfiles
