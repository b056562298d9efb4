import PowerProfiles.Drivers

/-!
# The state file across runs

`save_configuration` writes the key of a slot only while a driver is bound in it and
never removes one, and `apply_configuration` compares each bound slot with its key. A
key can therefore outlive the run that wrote it, and a later run can adopt a profile
saved under other drivers, and nothing asks whether a bound driver implements the profile
it adopts. What holds is the round trip: a run that binds drivers of the same names as the
run that last saved adopts the saved profile.
-/

namespace PowerProfiles

/-- A save writes the name of each bound driver, keeps the key of an empty slot as it
was, and records the active profile. -/
@[simp] theorem saveConfiguration_config (app : PpdApp) :
    (saveConfiguration app).config =
      ⟨(driverNameOf app.cpuDriver).or app.config.cpuDriver,
        (driverNameOf app.platformDriver).or app.config.platformDriver,
        some (ppdProfileToStr app.activeProfile)⟩ := by
  unfold saveConfiguration
  cases app.cpuDriver <;> cases app.platformDriver <;> rfl

/-- Probing binds back-ends only: the profiles and the key file stay. -/
theorem keepsProfiles_probeBackend (app : PpdApp) (b : Backend) :
    KeepsProfiles app (probeBackend app b) := by
  unfold probeBackend
  split <;> (repeat' split) <;> exact ⟨rfl, rfl, rfl, [], (List.append_nil _).symm, by simp⟩

theorem keepsProfiles_foldl_probeBackend (app : PpdApp) (backends : List Backend) :
    KeepsProfiles app (backends.foldl probeBackend app) := by
  induction backends generalizing app with
  | nil => exact .refl _
  | cons b bs ih => exact (keepsProfiles_probeBackend app b).trans (ih _)

/-- What `apply_configuration` decides: it adopts the stored profile exactly when each
bound slot's driver has the name stored for that slot and the stored profile parses. -/
theorem applyConfiguration_snd (app : PpdApp) :
    (applyConfiguration app).2 = true ↔
      (app.cpuDriver.isSome → driverNameOf app.cpuDriver = app.config.cpuDriver) ∧
      (app.platformDriver.isSome → driverNameOf app.platformDriver = app.config.platformDriver) ∧
      ∃ s, app.config.profile = some s ∧ ppdProfileFromStr s ≠ .unset := by
  unfold applyConfiguration
  split_ifs with hcpu hplat
  · simpa using fun h => absurd (h hcpu.1) hcpu.2
  · simpa using fun _ h => absurd (h hplat.1) hplat.2
  · rw [not_and_or, not_not, ← imp_iff_not_or] at hcpu hplat
    split
    · simp_all
    · split_ifs <;> simp_all

/-- When the checks pass, `apply_configuration` makes the stored profile active. -/
theorem applyConfiguration_of_adopt {app : PpdApp} {s : String}
    (hcpu : app.cpuDriver.isSome → driverNameOf app.cpuDriver = app.config.cpuDriver)
    (hplat : app.platformDriver.isSome → driverNameOf app.platformDriver = app.config.platformDriver)
    (hs : app.config.profile = some s) (hu : ppdProfileFromStr s ≠ .unset) :
    applyConfiguration app = ({ app with activeProfile := ppdProfileFromStr s }, true) := by
  unfold applyConfiguration
  rw [if_neg fun h => h.2 (hcpu h.1), if_neg fun h => h.2 (hplat h.1)]
  simp [hs, hu]

/-- A platform driver with power-saver and balanced only. -/
def platformWithoutPerformance : PpdDriver := ⟨"platform_profile", ⟨true, true, false⟩, none⟩

/-- A first run binds intel_pstate and the platform driver, and the user selects
performance, which is saved with both drivers' names. -/
def performanceSaved : PpdApp :=
  step (Env.allSucceed "")
    (startProfileDrivers (Env.allSucceed "") (initialApp ⟨none, none, none⟩ [] [])
      [.driver .cpu ppdDriverIntelPstate .success,
       .driver .platform platformWithoutPerformance .success])
    (.setProperty ":1.7" "ActiveProfile" "performance" .authorized)

/-- The next run on that state file blocks intel_pstate, so only the platform driver binds. -/
def intelBlockedRestart : PpdApp :=
  startProfileDrivers (Env.allSucceed "") (initialApp performanceSaved.config ["intel_pstate"] [])
    [.driver .cpu ppdDriverIntelPstate .success,
     .driver .platform platformWithoutPerformance .success]

/-- `apply_configuration` does not ask whether a bound driver implements the profile it
adopts: the second run passes the required-driver gate and adopts performance, which no
bound driver implements. -/
theorem restored_profile_unsupported :
    intelBlockedRestart.loopRunning = true ∧ intelBlockedRestart.activeProfile = .performance ∧
      getProfileAvailable intelBlockedRestart PpdProfile.performance.mask = false := by
  decide

/-- The reset activation of a start commits the active profile or changes nothing. -/
theorem activateTargetProfile_activeProfile_self (env : Env) (app : PpdApp)
    (reason : PpdProfileActivationReason) :
    (activateTargetProfile env app app.activeProfile reason).1.activeProfile = app.activeProfile := by
  rcases h : (activateTargetProfile env app app.activeProfile reason).2 with e | ⟨⟩
  · exact activateTargetProfile_activeProfile_of_error env app _ reason h
  · exact activateTargetProfile_activeProfile_of_ok env app _ reason h

/-- The profile a start leaves active is the one `apply_configuration` chose on the
probed state: the gate does not touch what it reads, and the reset activation commits
that profile or changes nothing. -/
theorem startProfileDrivers_activeProfile (env : Env) (app : PpdApp) (backends : List Backend) :
    (startProfileDrivers env app backends).activeProfile =
      (applyConfiguration (backends.foldl probeBackend app)).1.activeProfile := by
  unfold startProfileDrivers
  dsimp only
  simp only [sendDbusEvent_activeProfile, activateTargetProfile_activeProfile_self]
  split_ifs
  · rfl
  · unfold applyConfiguration
    dsimp only
    split_ifs <;> (try split) <;> (try split_ifs) <;> rfl

/-- With no `Profile` key, `apply_configuration` changes nothing. -/
theorem applyConfiguration_of_profile_none {app : PpdApp} (h : app.config.profile = none) :
    (applyConfiguration app).1 = app := by
  unfold applyConfiguration
  split_ifs <;> simp [h]

/-- A start never selects a profile. -/
theorem startProfileDrivers_selectedProfile (env : Env) (app : PpdApp) (backends : List Backend) :
    (startProfileDrivers env app backends).selectedProfile = app.selectedProfile := by
  have happly : ∀ a : PpdApp, (applyConfiguration a).1.selectedProfile = a.selectedProfile := by
    intro a
    rcases applyConfiguration_cases a with h | ⟨-, h⟩ | ⟨_, -, -, h⟩ <;> rw [h]
  unfold startProfileDrivers
  dsimp only
  simp only [sendDbusEvent_selectedProfile, activateTargetProfile_selectedProfile, happly]
  rw [← (keepsProfiles_foldl_probeBackend app backends).selectedProfile]
  split_ifs <;> rfl

/-- A slot whose driver has the name of the writer's passes the check against the key
the writer saved. -/
theorem slot_matches_saved {d w : Option PpdDriver} (older : Option String)
    (h : driverNameOf d = driverNameOf w) :
    d.isSome → driverNameOf d = (driverNameOf w).or older := by
  cases d with
  | none => simp
  | some d => rw [← h]; intro; rfl

/-- A run saved under other drivers: intel_pstate alone saves power-saver. -/
def cpuOnlySaved : PpdApp :=
  step (Env.allSucceed "")
    (startProfileDrivers (Env.allSucceed "") (initialApp ⟨none, none, none⟩ [] [])
      [.driver .cpu ppdDriverIntelPstate .success])
    (.setProperty ":1.7" "ActiveProfile" "power-saver" .authorized)

/-- The next run blocks intel_pstate and binds only the platform driver; it adopts
nothing, and the user saves performance. The stale `CpuDriver` key stays. -/
def platformOnlySaved : PpdApp :=
  step (Env.allSucceed "")
    (startProfileDrivers (Env.allSucceed "") (initialApp cpuOnlySaved.config ["intel_pstate"] [])
      [.driver .cpu ppdDriverIntelPstate .success, .driver .platform platformWithAll .success])
    (.setProperty ":1.7" "ActiveProfile" "performance" .authorized)

/-- A third run binds both drivers. -/
def bothBoundRestart : PpdApp :=
  startProfileDrivers (Env.allSucceed "") (initialApp platformOnlySaved.config [] [])
    [.driver .cpu ppdDriverIntelPstate .success, .driver .platform platformWithAll .success]

/-- The last writer had no CPU driver, yet the third run, which binds intel_pstate, adopts
its profile through the key the first run left. -/
theorem stale_key_adopts_profile :
    platformOnlySaved.cpuDriver = none ∧ platformOnlySaved.config.cpuDriver = some "intel_pstate" ∧
      bothBoundRestart.cpuDriver = some ppdDriverIntelPstate ∧
      bothBoundRestart.activeProfile = .performance := by
  decide

/-- `apply_configuration` adopts the stored profile exactly when each bound slot's driver
has the name of the slot's key and the profile parses; a save writes a slot's key only
while a driver is bound there and keeps the older key otherwise; and a start from the file
a save wrote, binding drivers of the writer's names, makes the saved profile active. -/
theorem applyConfiguration_round_trip :
    (∀ app : PpdApp, (applyConfiguration app).2 = true ↔
      (app.cpuDriver.isSome → driverNameOf app.cpuDriver = app.config.cpuDriver) ∧
      (app.platformDriver.isSome → driverNameOf app.platformDriver = app.config.platformDriver) ∧
      ∃ s, app.config.profile = some s ∧ ppdProfileFromStr s ≠ .unset) ∧
    (∀ w : PpdApp, (saveConfiguration w).config.cpuDriver =
        (driverNameOf w.cpuDriver).or w.config.cpuDriver ∧
      (saveConfiguration w).config.platformDriver =
        (driverNameOf w.platformDriver).or w.config.platformDriver) ∧
    (∀ (env : Env) (w : PpdApp) (blockedDrivers blockedActions : List String)
      (backends : List Backend), w.activeProfile ≠ .unset →
      driverNameOf (backends.foldl probeBackend
          (initialApp (saveConfiguration w).config blockedDrivers blockedActions)).cpuDriver =
        driverNameOf w.cpuDriver →
      driverNameOf (backends.foldl probeBackend
          (initialApp (saveConfiguration w).config blockedDrivers blockedActions)).platformDriver =
        driverNameOf w.platformDriver →
      (startProfileDrivers env (initialApp (saveConfiguration w).config blockedDrivers blockedActions)
        backends).activeProfile = w.activeProfile) := by
  refine ⟨applyConfiguration_snd, fun w => by simp, ?_⟩
  intro env w bd ba backends hu hcpu hplat
  have hconf : (backends.foldl probeBackend
      (initialApp (saveConfiguration w).config bd ba)).config = (saveConfiguration w).config :=
    (keepsProfiles_foldl_probeBackend _ backends).config
  rw [startProfileDrivers_activeProfile]
  generalize backends.foldl probeBackend (initialApp (saveConfiguration w).config bd ba) = p
    at hcpu hplat hconf ⊢
  rw [saveConfiguration_config] at hconf
  rw [applyConfiguration_of_adopt (by rw [hconf]; exact slot_matches_saved _ hcpu)
    (by rw [hconf]; exact slot_matches_saved _ hplat) (by rw [hconf]) (by simpa using hu)]
  simp

/-- The first run of the history, restarted with intel_pstate alone, gets its saved
power-saver back. -/
theorem applyConfiguration_round_trip_cpuOnlySaved :
    cpuOnlySaved.activeProfile ≠ .unset ∧
      (startProfileDrivers (Env.allSucceed "") (initialApp (saveConfiguration cpuOnlySaved).config [] [])
        [.driver .cpu ppdDriverIntelPstate .success]).activeProfile = cpuOnlySaved.activeProfile :=
  ⟨by decide, applyConfiguration_round_trip.2.2 (Env.allSucceed "") cpuOnlySaved [] []
    [.driver .cpu ppdDriverIntelPstate .success] (by decide) (by decide) (by decide)⟩

end PowerProfiles
