import PowerProfiles.App

/-!
# Transactional activation

`activate_target_profile` tries the CPU driver, then the platform driver (rolling the
CPU driver back to the previous profile when the platform fails), then every action,
and commits. The spec lemma `activateTargetProfile_eq` says once what a call can do:
append driver calls to the trace and, on success only, commit. Every later proof uses
it and the field lemmas here instead of unfolding the transaction.
-/

namespace PowerProfiles

/-- `'%s'` in the code's messages. -/
def quoted (s : String) : String := "\x27" ++ s ++ "\x27"

/-- `ppd_driver_activate_profile` on the driver in a slot. The call is recorded; a
profile that is not a single flag fails the `g_return_val_if_fail` with no error set. -/
def ppdDriverActivateProfile (env : Env) (app : PpdApp) (kind : DriverKind)
    (profile : PpdProfile) (reason : PpdProfileActivationReason) :
    PpdApp × Except GError Unit :=
  (app.emit [.driverActivateProfile kind profile reason],
    if profile.hasSingleFlag then env.activate app.trace.length kind profile reason
    else .error ⟨.failed, ""⟩)

/-- `actions_activate_profile`: every action in order; failures are only logged. -/
def actionsActivateProfile (app : PpdApp) (profile : PpdProfile) : PpdApp :=
  { app.emit (app.actions.map fun a => .actionActivateProfile a.actionName profile) with
    actions := app.actions.map (·.activateProfile profile) }

/-- Step 1 of `activate_target_profile`: the CPU driver, if it implements the target. -/
def activateCpu (env : Env) (app : PpdApp) (target : PpdProfile)
    (reason : PpdProfileActivationReason) : PpdApp × Except GError Unit :=
  if driverProfileSupport app.cpuDriver target.mask then
    ppdDriverActivateProfile env app .cpu target reason
  else (app, .ok ())

/-- Step 2 of `activate_target_profile`: the platform driver, if it implements the target. -/
def activatePlatform (env : Env) (app : PpdApp) (target : PpdProfile)
    (reason : PpdProfileActivationReason) : PpdApp × Except GError Unit :=
  if driverProfileSupport app.platformDriver target.mask then
    ppdDriverActivateProfile env app .platform target reason
  else (app, .ok ())

/-- Steps 3 and 4 of `activate_target_profile`: the actions, the new active profile, and
the state file for the reasons `user` and `internal`. -/
def commitProfile (app : PpdApp) (target : PpdProfile) (reason : PpdProfileActivationReason) :
    PpdApp :=
  let app := { actionsActivateProfile app target with activeProfile := target }
  if reason = .user ∨ reason = .internal then saveConfiguration app else app

/-- `activate_target_profile`. -/
def activateTargetProfile (env : Env) (app : PpdApp) (targetProfile : PpdProfile)
    (reason : PpdProfileActivationReason) : PpdApp × Except GError Unit :=
  match activateCpu env app targetProfile reason with
  | (app1, .error e) =>
    (app1, .error (gPrefixError e ("Failed to activate CPU driver " ++
      quoted ((driverNameOf app.cpuDriver).getD "") ++ ": ")))
  | (app1, .ok ()) =>
    match activatePlatform env app1 targetProfile reason with
    | (app2, .error e) =>
      let err := gPrefixError e ("Failed to activate platform driver " ++
        quoted ((driverNameOf app.platformDriver).getD "") ++ ": ")
      if app2.cpuDriver.isSome then
        ((ppdDriverActivateProfile env app2 .cpu app.activeProfile .internal).1, .error err)
      else (app2, .error err)
    | (app2, .ok ()) => (commitProfile app2 targetProfile reason, .ok ())

/-- The emissions of a driver call. -/
def Emission.isDriverCall : Emission → Bool
  | .driverActivateProfile .. => true
  | _ => false


/-- The emissions of the back-end calls of a transaction: driver and action calls and
state-file writes. -/
def Emission.isBackendCall : Emission → Bool
  | .driverActivateProfile .. | .actionActivateProfile .. | .keyFileSave _ => true
  | _ => false

/-- A driver call an activation of `target` for `reason` from `app` may make: the target
to a bound driver that implements it, or the CPU rollback to the old profile. -/
def Emission.IsActivationCall (app : PpdApp) (target : PpdProfile)
    (reason : PpdProfileActivationReason) : Emission → Prop
  | .driverActivateProfile kind profile r =>
    (profile = target ∧ r = reason ∧ driverProfileSupport (app.driverOf kind) target.mask) ∨
    (kind = .cpu ∧ profile = app.activeProfile ∧ r = .internal)
  | _ => False

theorem Emission.IsActivationCall.isDriverCall {app : PpdApp} {target : PpdProfile}
    {reason : PpdProfileActivationReason} {m : Emission} (h : m.IsActivationCall app target reason) :
    m.isDriverCall := by
  cases m <;> first | rfl | exact h.elim

theorem Emission.isBackendCall_of_isDriverCall {m : Emission} (h : m.isDriverCall) :
    m.isBackendCall := by
  cases m <;> simp_all [isDriverCall, isBackendCall]

theorem Emission.releasesCookie_of_isBackendCall {m : Emission} (c : Nat) (h : m.isBackendCall) :
    m.releasesCookie c = false := by
  cases m <;> simp_all [isBackendCall, releasesCookie]

section Commit

variable (app : PpdApp) (target : PpdProfile) (reason : PpdProfileActivationReason)

@[simp] theorem commitProfile_activeProfile : (commitProfile app target reason).activeProfile = target := by
  unfold commitProfile; split_ifs <;> rfl
@[simp] theorem commitProfile_selectedProfile :
    (commitProfile app target reason).selectedProfile = app.selectedProfile := by
  unfold commitProfile; split_ifs <;> rfl
@[simp] theorem commitProfile_profileHolds :
    (commitProfile app target reason).profileHolds = app.profileHolds := by
  unfold commitProfile; split_ifs <;> rfl
@[simp] theorem commitProfile_cpuDriver : (commitProfile app target reason).cpuDriver = app.cpuDriver := by
  unfold commitProfile; split_ifs <;> rfl
@[simp] theorem commitProfile_platformDriver :
    (commitProfile app target reason).platformDriver = app.platformDriver := by
  unfold commitProfile; split_ifs <;> rfl
@[simp] theorem commitProfile_actions :
    (commitProfile app target reason).actions = app.actions.map (·.activateProfile target) := by
  unfold commitProfile; split_ifs <;> rfl
@[simp] theorem commitProfile_watches : (commitProfile app target reason).watches = app.watches := by
  unfold commitProfile; split_ifs <;> rfl
@[simp] theorem commitProfile_issued : (commitProfile app target reason).issued = app.issued := by
  unfold commitProfile; split_ifs <;> rfl
@[simp] theorem commitProfile_loopRunning :
    (commitProfile app target reason).loopRunning = app.loopRunning := by
  unfold commitProfile; split_ifs <;> rfl
@[simp] theorem commitProfile_probedDrivers :
    (commitProfile app target reason).probedDrivers = app.probedDrivers := by
  unfold commitProfile; split_ifs <;> rfl

/-- A commit writes the key file only for the reasons `user` and `internal`. -/
theorem commitProfile_config :
    (commitProfile app target reason).config = app.config ∨ reason = .user ∨ reason = .internal := by
  unfold commitProfile; split_ifs with h
  · exact .inr h
  · exact .inl rfl

/-- A commit appends back-end calls only. -/
theorem commitProfile_trace : ∃ es, (commitProfile app target reason).trace = app.trace ++ es ∧
    ∀ m ∈ es, m.isBackendCall ∧ m.isDriverCall = false := by
  unfold commitProfile actionsActivateProfile
  split_ifs
  · refine ⟨_, List.append_assoc _ _ _, ?_⟩
    simp only [List.mem_append, List.mem_map, List.mem_singleton]
    rintro m (⟨a, -, rfl⟩ | rfl) <;> exact ⟨rfl, rfl⟩
  · refine ⟨_, rfl, ?_⟩
    simp only [List.mem_map]
    rintro m ⟨a, -, rfl⟩
    exact ⟨rfl, rfl⟩

end Commit

theorem activateCpu_fst (env : Env) (app : PpdApp) (target : PpdProfile)
    (reason : PpdProfileActivationReason) :
    ∃ calls, (∀ m ∈ calls, m.IsActivationCall app target reason) ∧
      (activateCpu env app target reason).1 = app.emit calls := by
  unfold activateCpu
  split_ifs with h
  · exact ⟨_, fun m hm => by rw [List.mem_singleton.mp hm]; exact .inl ⟨rfl, rfl, h⟩, rfl⟩
  · exact ⟨[], by simp, by simp⟩

theorem activatePlatform_fst (env : Env) (app : PpdApp) (target : PpdProfile)
    (reason : PpdProfileActivationReason) :
    ∃ calls, (∀ m ∈ calls, m.IsActivationCall app target reason) ∧
      (activatePlatform env app target reason).1 = app.emit calls := by
  unfold activatePlatform
  split_ifs with h
  · exact ⟨_, fun m hm => by rw [List.mem_singleton.mp hm]; exact .inl ⟨rfl, rfl, h⟩, rfl⟩
  · exact ⟨[], by simp, by simp⟩

/-- `activate_target_profile` appends the driver calls of an activation and, when it
succeeds, commits; nothing else changes. -/
theorem activateTargetProfile_eq (env : Env) (app : PpdApp) (target : PpdProfile)
    (reason : PpdProfileActivationReason) :
    ∃ calls, (∀ m ∈ calls, m.IsActivationCall app target reason) ∧
      (activateTargetProfile env app target reason).1 =
        match (activateTargetProfile env app target reason).2 with
        | .ok () => commitProfile (app.emit calls) target reason
        | .error _ => app.emit calls := by
  obtain ⟨c1, hc1, h1⟩ := activateCpu_fst env app target reason
  unfold activateTargetProfile
  rcases hcpu : activateCpu env app target reason with ⟨app1, _ | _⟩
  all_goals rw [hcpu] at h1; subst h1
  · exact ⟨c1, hc1, rfl⟩
  obtain ⟨c2, hc2, h2⟩ := activatePlatform_fst env (app.emit c1) target reason
  have hcalls : ∀ m ∈ c1 ++ c2, m.IsActivationCall app target reason := fun m hm => by
    rcases List.mem_append.mp hm with hm | hm
    exacts [hc1 m hm, hc2 m hm]
  rcases hplat : activatePlatform env (app.emit c1) target reason with ⟨app2, _ | _⟩
  all_goals rw [hplat] at h2; subst h2; simp only [hplat]
  · by_cases hsome : app.cpuDriver.isSome
    · refine ⟨c1 ++ c2 ++ [.driverActivateProfile .cpu app.activeProfile .internal], ?_, ?_⟩
      · simp only [List.mem_append, List.mem_singleton]
        rintro m (hm | rfl)
        exacts [hcalls m (List.mem_append.mpr hm), .inr ⟨rfl, rfl, rfl⟩]
      · simp [hsome, ppdDriverActivateProfile, emit_emit]
    · exact ⟨c1 ++ c2, hcalls, by simp [hsome, emit_emit]⟩
  · exact ⟨c1 ++ c2, hcalls, by simp [emit_emit]⟩

section Activate

variable (env : Env) (app : PpdApp) (target : PpdProfile) (reason : PpdProfileActivationReason)

@[simp] theorem activateTargetProfile_profileHolds :
    (activateTargetProfile env app target reason).1.profileHolds = app.profileHolds := by
  obtain ⟨calls, -, h⟩ := activateTargetProfile_eq env app target reason
  rw [h]; split <;> simp
@[simp] theorem activateTargetProfile_selectedProfile :
    (activateTargetProfile env app target reason).1.selectedProfile = app.selectedProfile := by
  obtain ⟨calls, -, h⟩ := activateTargetProfile_eq env app target reason
  rw [h]; split <;> simp
@[simp] theorem activateTargetProfile_cpuDriver :
    (activateTargetProfile env app target reason).1.cpuDriver = app.cpuDriver := by
  obtain ⟨calls, -, h⟩ := activateTargetProfile_eq env app target reason
  rw [h]; split <;> simp
@[simp] theorem activateTargetProfile_platformDriver :
    (activateTargetProfile env app target reason).1.platformDriver = app.platformDriver := by
  obtain ⟨calls, -, h⟩ := activateTargetProfile_eq env app target reason
  rw [h]; split <;> simp
@[simp] theorem activateTargetProfile_watches :
    (activateTargetProfile env app target reason).1.watches = app.watches := by
  obtain ⟨calls, -, h⟩ := activateTargetProfile_eq env app target reason
  rw [h]; split <;> simp
@[simp] theorem activateTargetProfile_issued :
    (activateTargetProfile env app target reason).1.issued = app.issued := by
  obtain ⟨calls, -, h⟩ := activateTargetProfile_eq env app target reason
  rw [h]; split <;> simp
@[simp] theorem activateTargetProfile_loopRunning :
    (activateTargetProfile env app target reason).1.loopRunning = app.loopRunning := by
  obtain ⟨calls, -, h⟩ := activateTargetProfile_eq env app target reason
  rw [h]; split <;> simp
@[simp] theorem activateTargetProfile_probedDrivers :
    (activateTargetProfile env app target reason).1.probedDrivers = app.probedDrivers := by
  obtain ⟨calls, -, h⟩ := activateTargetProfile_eq env app target reason
  rw [h]; split <;> simp

/-- A successful activation leaves the target active. -/
theorem activateTargetProfile_activeProfile_of_ok
    (h : (activateTargetProfile env app target reason).2 = .ok ()) :
    (activateTargetProfile env app target reason).1.activeProfile = target := by
  obtain ⟨calls, -, heq⟩ := activateTargetProfile_eq env app target reason
  rw [heq, h]; simp

/-- A failed activation leaves the active profile as it was. -/
theorem activateTargetProfile_activeProfile_of_error {e : GError}
    (h : (activateTargetProfile env app target reason).2 = .error e) :
    (activateTargetProfile env app target reason).1.activeProfile = app.activeProfile := by
  obtain ⟨calls, -, heq⟩ := activateTargetProfile_eq env app target reason
  rw [heq, h]; simp

/-- The key file changes only by a successful activation for `user` or `internal`. -/
theorem activateTargetProfile_config :
    (activateTargetProfile env app target reason).1.config = app.config ∨
      ((activateTargetProfile env app target reason).2 = .ok () ∧
        (reason = .user ∨ reason = .internal)) := by
  obtain ⟨calls, -, heq⟩ := activateTargetProfile_eq env app target reason
  rw [heq]
  split
  · rename_i h
    rcases commitProfile_config (app.emit calls) target reason with hc | hc
    · exact .inl (by simpa using hc)
    · exact .inr ⟨h, hc⟩
  · exact .inl rfl

/-- An activation emits back-end calls only. -/
theorem activateTargetProfile_trace : ∃ es,
    (activateTargetProfile env app target reason).1.trace = app.trace ++ es ∧
      ∀ m ∈ es, m.isBackendCall := by
  obtain ⟨calls, hcalls, heq⟩ := activateTargetProfile_eq env app target reason
  rw [heq]
  split
  · obtain ⟨es, hes, hm⟩ := commitProfile_trace (app.emit calls) target reason
    refine ⟨calls ++ es, by simp [hes], fun m hmem => ?_⟩
    rcases List.mem_append.mp hmem with h | h
    exacts [Emission.isBackendCall_of_isDriverCall (hcalls m h).isDriverCall, (hm m h).1]
  · exact ⟨calls, rfl, fun m h => Emission.isBackendCall_of_isDriverCall (hcalls m h).isDriverCall⟩

end Activate

/-- Every driver's `activate_profile` succeeds. -/
def Env.Succeeds (env : Env) : Prop :=
  ∀ n kind profile reason, env.activate n kind profile reason = .ok ()

theorem Env.succeeds_allSucceed (version : String) : (Env.allSucceed version).Succeeds :=
  fun _ _ _ _ => rfl

/-- A driver is asked only for a profile it implements, which is a single flag. -/
theorem hasSingleFlag_of_driverProfileSupport {d : Option PpdDriver} {p : PpdProfile}
    (h : driverProfileSupport d p.mask = true) : p.hasSingleFlag = true := by
  cases d <;> cases p <;> simp_all [PpdProfile.hasSingleFlag]

/-! ### All or nothing -/

/-- The call the driver in a slot gets for `target`: one, if it is bound and implements
the target. -/
def driverCall (app : PpdApp) (kind : DriverKind) (target : PpdProfile)
    (reason : PpdProfileActivationReason) : List Emission :=
  if driverProfileSupport (app.driverOf kind) target.mask then
    [.driverActivateProfile kind target reason]
  else []

theorem isDriverCall_of_mem_driverCall {app : PpdApp} {kind : DriverKind} {target : PpdProfile}
    {reason : PpdProfileActivationReason} {m : Emission} (h : m ∈ driverCall app kind target reason) :
    m.isDriverCall := by
  unfold driverCall at h
  split_ifs at h
  · rw [List.mem_singleton.mp h]
    rfl
  · cases h

/-- A commit tells every action in order, then writes the state file for the reasons
`user` and `internal`. -/
theorem commitProfile_trace_eq (app : PpdApp) (target : PpdProfile)
    (reason : PpdProfileActivationReason) :
    (commitProfile app target reason).trace = app.trace ++
      app.actions.map (fun a => .actionActivateProfile a.actionName target) ++
      if reason = .user ∨ reason = .internal then [.keyFileSave (commitProfile app target reason).config]
      else [] := by
  unfold commitProfile saveConfiguration actionsActivateProfile
  split_ifs <;> simp

/-- How an activation ends: on success, the commit after exactly the driver calls the
target asks for; on failure, driver calls only, among them the CPU rollback whenever the
CPU driver had accepted the target. -/
theorem activateTargetProfile_outcome (env : Env) (app : PpdApp) (target : PpdProfile)
    (reason : PpdProfileActivationReason) :
    ((activateTargetProfile env app target reason).2 = .ok () ∧
      (activateTargetProfile env app target reason).1 = commitProfile
        (app.emit (driverCall app .cpu target reason ++ driverCall app .platform target reason))
        target reason) ∨
    (∃ calls, (activateTargetProfile env app target reason).2 ≠ .ok () ∧
      (activateTargetProfile env app target reason).1 = app.emit calls ∧
      (∀ m ∈ calls, m.isDriverCall) ∧
      (driverProfileSupport app.cpuDriver target.mask →
        env.activate app.trace.length .cpu target reason = .ok () →
        Emission.driverActivateProfile .cpu app.activeProfile .internal ∈ calls)) := by
  unfold activateTargetProfile activateCpu activatePlatform
  by_cases hc : driverProfileSupport app.cpuDriver target.mask
  · have hsf := hasSingleFlag_of_driverProfileSupport hc
    cases hco : env.activate app.trace.length .cpu target reason with
    | error e =>
      refine .inr ⟨[.driverActivateProfile .cpu target reason], ?_, ?_, ?_, ?_⟩ <;>
        simp [hc, hsf, hco, ppdDriverActivateProfile, Emission.isDriverCall]
    | ok u =>
      have hsome : app.cpuDriver.isSome := by cases h : app.cpuDriver <;> simp_all
      by_cases hp : driverProfileSupport app.platformDriver target.mask
      · have hpsf := hasSingleFlag_of_driverProfileSupport hp
        cases hpo : env.activate (app.trace.length + 1) .platform target reason with
        | error e =>
          refine .inr ⟨[.driverActivateProfile .cpu target reason,
            .driverActivateProfile .platform target reason,
            .driverActivateProfile .cpu app.activeProfile .internal], ?_, ?_, ?_, ?_⟩ <;>
            simp [hc, hsf, hco, hp, hpsf, hpo, hsome, ppdDriverActivateProfile, Emission.isDriverCall,
              emit_emit]
        | ok u =>
          exact .inl ⟨by simp [hc, hsf, hco, hp, hpsf, hpo, ppdDriverActivateProfile],
            by simp [hc, hsf, hco, hp, hpsf, hpo, ppdDriverActivateProfile, driverCall,
              PpdApp.driverOf, emit_emit]⟩
      · exact .inl ⟨by simp [hc, hsf, hco, hp, ppdDriverActivateProfile],
          by simp [hc, hsf, hco, hp, ppdDriverActivateProfile, driverCall, PpdApp.driverOf]⟩
  · by_cases hp : driverProfileSupport app.platformDriver target.mask
    · have hpsf := hasSingleFlag_of_driverProfileSupport hp
      cases hpo : env.activate app.trace.length .platform target reason with
      | error e =>
        by_cases hs : app.cpuDriver.isSome
        · refine .inr ⟨[.driverActivateProfile .platform target reason,
            .driverActivateProfile .cpu app.activeProfile .internal], ?_, ?_, ?_, fun h => absurd h hc⟩ <;>
            simp [hc, hp, hpsf, hpo, hs, ppdDriverActivateProfile, Emission.isDriverCall, emit_emit]
        · refine .inr ⟨[.driverActivateProfile .platform target reason], ?_, ?_, ?_,
            fun h => absurd h hc⟩ <;>
            simp [hc, hp, hpsf, hpo, hs, ppdDriverActivateProfile, Emission.isDriverCall]
      | ok u =>
        exact .inl ⟨by simp [hc, hp, hpsf, hpo, ppdDriverActivateProfile],
          by simp [hc, hp, hpsf, hpo, ppdDriverActivateProfile, driverCall, PpdApp.driverOf]⟩
    · exact .inl ⟨by simp [hc, hp], by simp [hc, hp, driverCall, PpdApp.driverOf]⟩

/-- `activate_target_profile` is all or nothing. When it succeeds the target is active,
each bound driver that implements it was asked for it with the reason, every action was
told, and the state file was written exactly for the reasons `user` and `internal`.
When it fails the active profile, the actions and the state file are as they were, only
drivers were called, and a CPU driver that had accepted the target was asked to go back
to the previous profile for `internal`. -/
theorem activateTargetProfile_all_or_nothing (env : Env) (app : PpdApp) (target : PpdProfile)
    (reason : PpdProfileActivationReason) :
    let r := activateTargetProfile env app target reason
    let es := r.1.trace.drop app.trace.length
    (r.2 = .ok () →
      r.1.activeProfile = target ∧
      (∀ kind, driverProfileSupport (app.driverOf kind) target.mask →
        Emission.driverActivateProfile kind target reason ∈ es) ∧
      (∀ a ∈ app.actions, Emission.actionActivateProfile a.actionName target ∈ es) ∧
      r.1.actions = app.actions.map (·.activateProfile target) ∧
      ((∃ file, Emission.keyFileSave file ∈ es) ↔ reason = .user ∨ reason = .internal)) ∧
    (r.2 ≠ .ok () →
      r.1.activeProfile = app.activeProfile ∧ r.1.actions = app.actions ∧ r.1.config = app.config ∧
      (∀ m ∈ es, m.isDriverCall) ∧
      (driverProfileSupport app.cpuDriver target.mask →
        env.activate app.trace.length .cpu target reason = .ok () →
        Emission.driverActivateProfile .cpu app.activeProfile .internal ∈ es)) := by
  dsimp only
  rcases activateTargetProfile_outcome env app target reason with
    ⟨hok, h⟩ | ⟨calls, herr, h, hd, hrb⟩
  · refine ⟨fun _ => ?_, fun h' => absurd hok h'⟩
    rw [h, commitProfile_trace_eq]
    simp only [emit_trace, List.append_assoc, List.drop_left]
    refine ⟨commitProfile_activeProfile .., fun kind hk => ?_, fun a ha => ?_, by simp, ?_⟩
    · cases kind <;> simp_all [driverCall, PpdApp.driverOf]
    · exact List.mem_append_right _ (List.mem_append_right _
        (List.mem_append_left _ (List.mem_map_of_mem _ ha)))
    · constructor
      · rintro ⟨file, hm⟩
        simp only [List.mem_append, List.mem_map] at hm
        rcases hm with hm | hm | ⟨a, -, ha⟩ | hm
        · simpa [Emission.isDriverCall] using isDriverCall_of_mem_driverCall hm
        · simpa [Emission.isDriverCall] using isDriverCall_of_mem_driverCall hm
        · cases ha
        · split_ifs at hm with hr
          exacts [hr, absurd hm (List.not_mem_nil _)]
      · intro hr
        simp only [hr, if_true, List.mem_append, List.mem_singleton]
        exact ⟨_, .inr (.inr (.inr rfl))⟩
  · refine ⟨fun h' => absurd h' herr, fun _ => ?_⟩
    rw [h]
    simp only [emit_trace, List.drop_left]
    exact ⟨rfl, rfl, rfl, hd, hrb⟩

section Succeeds

variable {env : Env} (hS : env.Succeeds)
include hS

theorem activateCpu_snd_of_succeeds (app : PpdApp) (target : PpdProfile)
    (reason : PpdProfileActivationReason) : (activateCpu env app target reason).2 = .ok () := by
  unfold activateCpu ppdDriverActivateProfile
  split_ifs with h hs
  · exact hS ..
  · exact absurd (hasSingleFlag_of_driverProfileSupport h) hs
  · rfl

theorem activatePlatform_snd_of_succeeds (app : PpdApp) (target : PpdProfile)
    (reason : PpdProfileActivationReason) : (activatePlatform env app target reason).2 = .ok () := by
  unfold activatePlatform ppdDriverActivateProfile
  split_ifs with h hs
  · exact hS ..
  · exact absurd (hasSingleFlag_of_driverProfileSupport h) hs
  · rfl

/-- When every driver succeeds, so does every activation. -/
theorem activateTargetProfile_snd_of_succeeds (app : PpdApp) (target : PpdProfile)
    (reason : PpdProfileActivationReason) :
    (activateTargetProfile env app target reason).2 = .ok () := by
  have h1 := activateCpu_snd_of_succeeds hS app target reason
  unfold activateTargetProfile
  rcases hc : activateCpu env app target reason with ⟨app1, r1⟩
  rw [hc] at h1
  subst h1
  have h2 := activatePlatform_snd_of_succeeds hS app1 target reason
  rcases hp : activatePlatform env app1 target reason with ⟨app2, r2⟩
  rw [hp] at h2
  subst h2
  simp only [hp]

theorem activateTargetProfile_activeProfile_of_succeeds (app : PpdApp) (target : PpdProfile)
    (reason : PpdProfileActivationReason) :
    (activateTargetProfile env app target reason).1.activeProfile = target :=
  activateTargetProfile_activeProfile_of_ok env app target reason
    (activateTargetProfile_snd_of_succeeds hS app target reason)

end Succeeds

/-! ### The frame of a transaction -/

/-- `app'` is `app` after activations and change notifications: the registry, the
watches, the selected profile and the bound drivers are as before, and the trace grows
by back-end calls and `PropertiesChanged` signals only. -/
structure Transacts (app app' : PpdApp) : Prop where
  profileHolds : app'.profileHolds = app.profileHolds
  selectedProfile : app'.selectedProfile = app.selectedProfile
  cpuDriver : app'.cpuDriver = app.cpuDriver
  platformDriver : app'.platformDriver = app.platformDriver
  watches : app'.watches = app.watches
  issued : app'.issued = app.issued
  loopRunning : app'.loopRunning = app.loopRunning
  probedDrivers : app'.probedDrivers = app.probedDrivers
  trace : ∃ es, app'.trace = app.trace ++ es ∧
    ∀ m ∈ es, m.isBackendCall ∨ m.isPropertiesChanged

namespace Transacts

theorem refl (app : PpdApp) : Transacts app app :=
  ⟨rfl, rfl, rfl, rfl, rfl, rfl, rfl, rfl, ⟨[], by simp, by simp⟩⟩

theorem trans {a b c : PpdApp} (h1 : Transacts a b) (h2 : Transacts b c) : Transacts a c := by
  obtain ⟨es1, h1t, h1m⟩ := h1.trace
  obtain ⟨es2, h2t, h2m⟩ := h2.trace
  refine ⟨h2.1.trans h1.1, h2.2.trans h1.2, h2.3.trans h1.3, h2.4.trans h1.4, h2.5.trans h1.5,
    h2.6.trans h1.6, h2.7.trans h1.7, h2.8.trans h1.8, es1 ++ es2, by simp [h2t, h1t], ?_⟩
  intro m hm
  rcases List.mem_append.mp hm with hm | hm
  exacts [h1m m hm, h2m m hm]

end Transacts

theorem transacts_activateTargetProfile (env : Env) (app : PpdApp) (target : PpdProfile)
    (reason : PpdProfileActivationReason) :
    Transacts app (activateTargetProfile env app target reason).1 := by
  obtain ⟨es, hes, hm⟩ := activateTargetProfile_trace env app target reason
  exact ⟨by simp, by simp, by simp, by simp, by simp, by simp, by simp, by simp,
    es, hes, fun m h => .inl (hm m h)⟩

theorem transacts_sendDbusEvent (env : Env) (app : PpdApp) (m : PropertiesMask) :
    Transacts app (sendDbusEvent env app m) := by
  obtain ⟨es, hes, hm⟩ := sendDbusEvent_trace env app m
  exact ⟨by simp, by simp, by simp, by simp, by simp, by simp, by simp, by simp,
    es, hes, fun m h => .inr (hm m h)⟩

/-- A transaction signals no release. -/
theorem Transacts.filter_releasesCookie {app app' : PpdApp} (h : Transacts app app') (c : Nat) :
    app'.trace.filter (Emission.releasesCookie c) = app.trace.filter (Emission.releasesCookie c) := by
  obtain ⟨es, hes, hm⟩ := h.trace
  have hnil : es.filter (Emission.releasesCookie c) = [] := by
    refine List.filter_eq_nil_iff.mpr fun m hmem => ?_
    rcases hm m hmem with hb | hp
    · simp [Emission.releasesCookie_of_isBackendCall c hb]
    · simp [Emission.releasesCookie_of_isPropertiesChanged c hp]
  rw [hes, List.filter_append, hnil, List.append_nil]

/-- `app'` keeps the registry, the watches and the ghost log of `app`, and has signalled
no release that `app` had not. -/
structure KeepsHolds (app app' : PpdApp) : Prop where
  profileHolds : app'.profileHolds = app.profileHolds
  watches : app'.watches = app.watches
  issued : app'.issued = app.issued
  releases : ∀ c, app'.trace.filter (Emission.releasesCookie c) =
    app.trace.filter (Emission.releasesCookie c)

namespace KeepsHolds

theorem refl (app : PpdApp) : KeepsHolds app app := ⟨rfl, rfl, rfl, fun _ => rfl⟩

theorem trans {a b c : PpdApp} (h1 : KeepsHolds a b) (h2 : KeepsHolds b c) : KeepsHolds a c :=
  ⟨h2.1.trans h1.1, h2.2.trans h1.2, h2.3.trans h1.3, fun k => (h2.4 k).trans (h1.4 k)⟩

theorem of_transacts {app app' : PpdApp} (h : Transacts app app') : KeepsHolds app app' :=
  ⟨h.profileHolds, h.watches, h.issued, h.filter_releasesCookie⟩

/-- An emission that releases nothing keeps the holds. -/
theorem emit {app : PpdApp} {es : List Emission} (h : ∀ m ∈ es, ∀ c, m.releasesCookie c = false) :
    KeepsHolds app (app.emit es) := by
  refine ⟨rfl, rfl, rfl, fun c => ?_⟩
  have hnil : es.filter (Emission.releasesCookie c) = [] :=
    List.filter_eq_nil_iff.mpr fun m hm => by simp [h m hm c]
  rw [emit_trace, List.filter_append, hnil, List.append_nil]

theorem reply (app : PpdApp) (dest : String) (r : Except GError (Option GVariant)) :
    KeepsHolds app (app.reply dest r) :=
  emit fun m hm c => by simp_all [Emission.releasesCookie]

end KeepsHolds

end PowerProfiles
