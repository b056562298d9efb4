import PowerProfiles.Daemon

/-!
# The probe loop

`start_profile_drivers` walks the back-ends in their fixed order. Each slot ends with
the first driver of its kind that is not blocked, declares a profile in
`PPD_PROFILE_ALL` and probes `success`; a later driver of that kind is skipped before it
is probed. Every action that is not blocked and does not fail its probe is kept, in
order. A driver that defers waits in `probed_drivers`, unless an earlier back-end has
already filled its slot. One lemma per field says what one iteration does, and the run
lemma follows by induction from any state.
-/

namespace PowerProfiles

/-- The driver a back-end offers slot `kind` when its probe answers `result`: a driver
of that kind that is not blocked and declares a profile in `PPD_PROFILE_ALL`. -/
def Backend.offers (blocked : List String) (kind : DriverKind) (result : PpdProbeResult) :
    Backend → Option PpdDriver
  | .driver k d r =>
    if k = kind ∧ !blocked.contains d.driverName ∧ d.profiles.meets ppdProfileAll ∧ r = result then
      some d else none
  | .action .. => none

/-- The slot and driver of a back-end whose probe defers: a driver that is not blocked
and declares a profile in `PPD_PROFILE_ALL`. -/
def Backend.defers (blocked : List String) : Backend → Option (DriverKind × PpdDriver)
  | .driver k d r =>
    if !blocked.contains d.driverName ∧ d.profiles.meets ppdProfileAll ∧ r = .defer then some (k, d)
    else none
  | .action .. => none

/-- The action a back-end adds: one that is not blocked and whose probe does not fail. -/
def Backend.loadedAction (blocked : List String) : Backend → Option PpdAction
  | .driver .. => none
  | .action a r => if !blocked.contains a.actionName ∧ r ≠ .fail then some a else none

/-- The deferring drivers with their slots, in order: a later one counts only while no
earlier back-end has filled its slot. -/
def deferredDrivers (blocked : List String) : List Backend → List (DriverKind × PpdDriver)
  | [] => []
  | b :: rest => (b.defers blocked).toList ++
      (deferredDrivers blocked rest).filter fun e => (b.offers blocked e.1 .success).isNone

/-! ### One iteration -/

section Step

variable (app : PpdApp) (b : Backend)

@[simp] theorem probeBackend_blockedDrivers :
    (probeBackend app b).blockedDrivers = app.blockedDrivers := by
  unfold probeBackend
  split <;> (repeat' split) <;> rfl

@[simp] theorem probeBackend_blockedActions :
    (probeBackend app b).blockedActions = app.blockedActions := by
  unfold probeBackend
  split <;> (repeat' split) <;> rfl

/-- What probing a driver back-end does: nothing unless the driver is not blocked, its slot
is empty and it declares a profile in `PPD_PROFILE_ALL`; then a deferral appends it to
`probed_drivers` and a success fills its slot. -/
theorem probeBackend_driver (k : DriverKind) (d : PpdDriver) (r : PpdProbeResult) :
    probeBackend app (.driver k d r) =
      if d.driverName ∉ app.blockedDrivers ∧ app.driverOf k = none ∧ d.profiles.meets ppdProfileAll then
        match r, k with
        | .fail, _ => app
        | .defer, _ => { app with probedDrivers := app.probedDrivers ++ [d] }
        | .success, .cpu => { app with cpuDriver := some d }
        | .success, .platform => { app with platformDriver := some d }
      else app := by
  have hslot : (k = .cpu ∧ app.cpuDriver.isSome ∨ k = .platform ∧ app.platformDriver.isSome) ↔
      app.driverOf k ≠ none := by
    cases k <;> simp [PpdApp.driverOf, Option.isSome_iff_ne_none]
  unfold probeBackend driverBlocked
  by_cases hb : d.driverName ∈ app.blockedDrivers
  · simp [hb]
  by_cases hk : app.driverOf k = none
  · have h1 : ¬(k = .cpu ∧ app.cpuDriver.isSome) := fun h => hslot.mp (.inl h) hk
    have h2 : ¬(k = .platform ∧ app.platformDriver.isSome) := fun h => hslot.mp (.inr h) hk
    by_cases hm : d.profiles.meets ppdProfileAll
    · simp only [hb, hk, hm, h1, h2, List.elem_eq_mem, decide_False, if_false, not_false_eq_true,
        and_self, if_true, Bool.not_true, Bool.false_eq_true]
      cases r <;> cases k <;> rfl
    · simp [hb, hm, h1, h2]
  · rcases hslot.mpr hk with ⟨rfl, h⟩ | ⟨rfl, h⟩ <;> simp [hb, hk, h]

/-- What probing an action back-end does: append it unless it is blocked or fails. -/
theorem probeBackend_action (a : PpdAction) (r : PpdProbeResult) :
    probeBackend app (.action a r) =
      if a.actionName ∉ app.blockedActions ∧ r ≠ .fail then { app with actions := app.actions ++ [a] }
      else app := by
  unfold probeBackend actionBlocked
  by_cases hb : a.actionName ∈ app.blockedActions <;> by_cases hr : r = .fail <;> simp [hb, hr]

/-- A slot keeps its driver, or takes the one the back-end offers on `success`. -/
theorem probeBackend_driverOf (kind : DriverKind) :
    (probeBackend app b).driverOf kind = (app.driverOf kind).or (b.offers app.blockedDrivers kind .success) := by
  cases b with
  | driver k d r =>
    rw [probeBackend_driver]
    by_cases hg : d.driverName ∉ app.blockedDrivers ∧ app.driverOf k = none ∧ d.profiles.meets ppdProfileAll
    · rw [if_pos hg]
      obtain ⟨hb, hk, hm⟩ := hg
      cases r <;> cases k <;> cases kind <;> simp_all [Backend.offers, PpdApp.driverOf]
    · rw [if_neg hg]
      by_cases ho : k = kind ∧ d.driverName ∉ app.blockedDrivers ∧ d.profiles.meets ppdProfileAll ∧
          r = .success
      · obtain ⟨rfl, hb, hm, rfl⟩ := ho
        have hk : (app.driverOf k).isSome := by simpa [Option.isSome_iff_ne_none, hb, hm] using hg
        rw [Option.or_of_isSome hk]
      · simp only [Backend.offers]
        rw [if_neg (by simpa using ho), Option.or_none]
  | action a r =>
    rw [probeBackend_action]
    split_ifs <;> cases kind <;> simp [Backend.offers, PpdApp.driverOf]

/-- An action that is not blocked and does not fail its probe is appended. -/
theorem probeBackend_actions :
    (probeBackend app b).actions = app.actions ++ (b.loadedAction app.blockedActions).toList := by
  cases b with
  | driver k d r =>
    rw [probeBackend_driver]
    split_ifs <;> cases r <;> cases k <;> simp [Backend.loadedAction]
  | action a r =>
    rw [probeBackend_action]
    by_cases hb : a.actionName ∈ app.blockedActions <;> by_cases hr : r = .fail <;>
      simp [hb, hr, Backend.loadedAction]

/-- A deferring driver is appended while its slot is empty. -/
theorem probeBackend_probedDrivers :
    (probeBackend app b).probedDrivers = app.probedDrivers ++
      (((b.defers app.blockedDrivers).toList.filter fun e => (app.driverOf e.1).isNone).map Prod.snd) := by
  cases b with
  | driver k d r =>
    rw [probeBackend_driver]
    by_cases hg : d.driverName ∉ app.blockedDrivers ∧ app.driverOf k = none ∧ d.profiles.meets ppdProfileAll
    · rw [if_pos hg]
      obtain ⟨hb, hk, hm⟩ := hg
      cases r <;> cases k <;> simp_all [Backend.defers]
    · rw [if_neg hg]
      simp only [Backend.defers]
      split_ifs with ho
      · obtain ⟨hb, hm, -⟩ := ho
        simp_all
      · simp
  | action a r =>
    rw [probeBackend_action]
    split_ifs <;> simp [Backend.defers]

end Step

/-! ### The loop -/

/-- From any state, the probe loop fills each empty slot with the first driver offered on
`success`, appends the loaded actions in order, and appends the drivers that defer while
their slot is empty. -/
theorem foldl_probeBackend_spec (backends : List Backend) (app : PpdApp) :
    (∀ kind, (backends.foldl probeBackend app).driverOf kind =
      (app.driverOf kind).or (backends.findSome? (·.offers app.blockedDrivers kind .success))) ∧
    (backends.foldl probeBackend app).actions =
      app.actions ++ backends.filterMap (·.loadedAction app.blockedActions) ∧
    (backends.foldl probeBackend app).probedDrivers = app.probedDrivers ++
      ((deferredDrivers app.blockedDrivers backends).filter fun e => (app.driverOf e.1).isNone).map
        Prod.snd := by
  induction backends generalizing app with
  | nil => simp [deferredDrivers]
  | cons b rest ih =>
    obtain ⟨hslot, hact, hprobed⟩ := ih (probeBackend app b)
    simp only [probeBackend_blockedDrivers, probeBackend_blockedActions] at hslot hact hprobed
    refine ⟨fun kind => ?_, ?_, ?_⟩
    · rw [List.foldl_cons, hslot, probeBackend_driverOf, Option.or_assoc, List.findSome?_cons]
      cases b.offers app.blockedDrivers kind .success <;> rfl
    · rw [List.foldl_cons, hact, probeBackend_actions, List.append_assoc, List.filterMap_cons]
      cases b.loadedAction app.blockedActions <;> rfl
    · rw [List.foldl_cons, hprobed, probeBackend_probedDrivers, List.append_assoc, deferredDrivers,
        List.filter_append, List.map_append, List.filter_filter]
      congr 3
      refine List.filter_congr fun e _ => ?_
      rw [probeBackend_driverOf]
      cases app.driverOf e.1 <;> cases b.offers app.blockedDrivers e.1 .success <;> rfl

/-- The probe loop of `start_profile_drivers`, from the empty slots and arrays that
`stop_profile_drivers` leaves: each slot takes the first driver of its kind, in list
order, that is not blocked, declares a profile in `PPD_PROFILE_ALL` and probes
`success`, or none; the actions are, in order, those not blocked whose probe does not
fail; and `probed_drivers` is exactly the drivers that are not blocked, declare a
profile and defer while their slot is still empty. -/
theorem probe_loop_binds_first (app : PpdApp) (backends : List Backend) :
    (backends.foldl probeBackend (stopProfileDrivers app)).cpuDriver =
      backends.findSome? (·.offers app.blockedDrivers .cpu .success) ∧
    (backends.foldl probeBackend (stopProfileDrivers app)).platformDriver =
      backends.findSome? (·.offers app.blockedDrivers .platform .success) ∧
    (backends.foldl probeBackend (stopProfileDrivers app)).actions =
      backends.filterMap (·.loadedAction app.blockedActions) ∧
    (backends.foldl probeBackend (stopProfileDrivers app)).probedDrivers =
      (deferredDrivers app.blockedDrivers backends).map Prod.snd := by
  obtain ⟨hslot, hact, hprobed⟩ := foldl_probeBackend_spec backends (stopProfileDrivers app)
  have hblocked : (stopProfileDrivers app).blockedDrivers = app.blockedDrivers := by
    simp [stopProfileDrivers, releaseAllProfileHolds_eq]
  have hblockedA : (stopProfileDrivers app).blockedActions = app.blockedActions := by
    simp [stopProfileDrivers, releaseAllProfileHolds_eq]
  have hempty : ∀ kind, (stopProfileDrivers app).driverOf kind = none := by
    intro kind; cases kind <;> simp [stopProfileDrivers, PpdApp.driverOf]
  rw [hblocked] at hslot hprobed
  rw [hblockedA] at hact
  refine ⟨hslot .cpu, hslot .platform, by simpa [stopProfileDrivers] using hact, ?_⟩
  rw [hprobed]
  simp only [hempty, Option.isNone_none, List.filter_true]
  simp [stopProfileDrivers]

end PowerProfiles
