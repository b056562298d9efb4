import PowerProfiles.Registry

/-!
# What the core asks of the back-ends

An activation asks a driver for a profile only when the driver implements it, except
for the CPU rollback of `activate_target_profile`, which passes the old profile
unchecked: when the platform driver fails, a CPU driver without the old profile is asked
for it.
-/

namespace PowerProfiles

/-- Every driver call of an activation passes the target to a bound driver that
implements it, or is the CPU rollback to the old profile. -/
theorem activateTargetProfile_driverCalls (env : Env) (app : PpdApp) (target : PpdProfile)
    (reason : PpdProfileActivationReason) :
    ∃ es, (activateTargetProfile env app target reason).1.trace = app.trace ++ es ∧
      ∀ m ∈ es, m.isDriverCall → m.IsActivationCall app target reason := by
  obtain ⟨calls, hcalls, heq⟩ := activateTargetProfile_eq env app target reason
  rw [heq]
  split
  · obtain ⟨es, hes, hm⟩ := commitProfile_trace (app.emit calls) target reason
    refine ⟨calls ++ es, by simp [hes], fun m hmem hd => ?_⟩
    rcases List.mem_append.mp hmem with h | h
    · exact hcalls m h
    · simp [(hm m h).2] at hd
  · exact ⟨calls, rfl, fun m h _ => hcalls m h⟩

/-- A CPU driver with power-saver and balanced only. -/
def cpuWithoutPerformance : PpdDriver := ⟨"cpu", ⟨true, true, false⟩, none⟩

/-- A platform driver with all three profiles. -/
def platformWithAll : PpdDriver := ⟨"platform_profile", ppdProfileAll, none⟩

/-- The platform driver refuses balanced when the user asks for it. -/
def platformRefusesBalanced : Env :=
  ⟨"", fun _ kind profile reason =>
    if kind = .platform ∧ profile = .balanced ∧ reason = .user then .error ⟨.unmapped, "EIO"⟩
    else .ok ()⟩

/-- Both drivers bound; the user selects performance, which only the platform driver
implements, then balanced, which the platform driver refuses. -/
def rollbackRun : PpdApp :=
  run platformRefusesBalanced
    (startProfileDrivers platformRefusesBalanced (initialApp ⟨none, none, none⟩ [] [])
      [.driver .cpu cpuWithoutPerformance .success, .driver .platform platformWithAll .success])
    [.setProperty ":1.7" "ActiveProfile" "performance" .authorized,
     .setProperty ":1.7" "ActiveProfile" "balanced" .authorized]

/-- The rollback asks the CPU driver for performance, which it does not implement. -/
theorem rollback_asks_unsupported_profile :
    Emission.driverActivateProfile .cpu .performance .internal ∈ rollbackRun.trace ∧
      driverProfileSupport rollbackRun.cpuDriver PpdProfile.performance.mask = false := by
  decide

end PowerProfiles
