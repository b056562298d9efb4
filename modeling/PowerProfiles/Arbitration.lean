import PowerProfiles.Persistence

/-!
# Arbitration between the holds and the user's selection

The hold stack decides the active profile while there are holds, and the user's
selection decides it otherwise. `holdArbitration` states that decision, and over valid
holds `effective_hold_profile` computes it. When every driver succeeds, each client
request and disappearance keeps the active profile equal to it, so a run keeps it from
any start that restores no profile. The start is where it breaks: `apply_configuration`
makes a stored profile active without selecting it, and a deferred-probe restart drops
the holds without going back to the selection.
-/

namespace PowerProfiles

/-- The arbitration of the hold stack: the effective hold profile while there are
holds, the selected profile otherwise. -/
def ArbitrationInv (app : PpdApp) : Prop :=
  app.activeProfile =
    if app.profileHolds.entries = [] then app.selectedProfile else effectiveHoldProfile app

instance (app : PpdApp) : Decidable (ArbitrationInv app) :=
  inferInstanceAs (Decidable (_ = _))

/-! ### What the hold stack is for -/

/-- Every hold pins performance or power-saver, as `hold_profile` admits. -/
def HoldsValid (l : List (Nat × ProfileHold)) : Prop :=
  ∀ e ∈ l, e.2.profile = .performance ∨ e.2.profile = .powerSaver

/-- What the hold stack is for: the selection while there is no hold, power-saver when
any hold asks for it, performance otherwise. -/
def holdArbitration (selected : PpdProfile) (l : List (Nat × ProfileHold)) : PpdProfile :=
  if l = [] then selected
  else if ∃ e ∈ l, e.2.profile = .powerSaver then .powerSaver else .performance

theorem holdArbitration_nil (s : PpdProfile) : holdArbitration s [] = s := rfl

theorem holdArbitration_of_ne_nil {l : List (Nat × ProfileHold)} (h : l ≠ []) (s : PpdProfile) :
    holdArbitration s l = if ∃ e ∈ l, e.2.profile = .powerSaver then .powerSaver else .performance :=
  if_neg h

theorem holdArbitration_ne_unset {l : List (Nat × ProfileHold)} (h : l ≠ []) (s : PpdProfile) :
    holdArbitration s l ≠ .unset := by
  rw [holdArbitration_of_ne_nil h]
  split_ifs <;> simp

/-- Over valid holds, the loop of `effective_hold_profile` computes the arbitration: a
power-saver hold breaks out, and only performance holds are left otherwise. -/
theorem effectiveHoldProfileFrom_eq {l : List (Nat × ProfileHold)} (hl : HoldsValid l)
    (profile : PpdProfile) : effectiveHoldProfileFrom profile l = holdArbitration profile l := by
  induction l generalizing profile with
  | nil => rfl
  | cons e rest ih =>
    obtain ⟨c, hold⟩ := e
    have hrest := ih (fun e he => hl e (.tail _ he))
    rw [holdArbitration_of_ne_nil (List.cons_ne_nil _ _)]
    rcases hl _ (.head _) with hp | hp <;> dsimp only at hp
    · have hcons : (∃ e ∈ (c, hold) :: rest, e.2.profile = .powerSaver) ↔
          ∃ e ∈ rest, e.2.profile = .powerSaver := by
        simp [List.exists_mem_cons_iff, hp]
      rw [effectiveHoldProfileFrom, if_neg (by rw [hp]; decide), hrest]
      simp only [hcons]
      by_cases hr : rest = []
      · subst hr; simp [holdArbitration_nil, hp]
      · rw [holdArbitration_of_ne_nil hr]
    · rw [if_pos ⟨_, .head _, hp⟩]
      simp [effectiveHoldProfileFrom, hp]

/-- Over valid holds, the loop of `effective_hold_profile` from `PPD_PROFILE_UNSET` gives
power-saver when some hold asks for it, performance when there are holds and none does, and
`PPD_PROFILE_UNSET` when there are none. -/
theorem effectiveHoldProfileFrom_unset_cases {l : List (Nat × ProfileHold)} (hl : HoldsValid l) :
    (effectiveHoldProfileFrom .unset l = .powerSaver ↔ ∃ e ∈ l, e.2.profile = .powerSaver) ∧
    (effectiveHoldProfileFrom .unset l = .performance ↔
      l ≠ [] ∧ ¬∃ e ∈ l, e.2.profile = .powerSaver) ∧
    (effectiveHoldProfileFrom .unset l = .unset ↔ l = []) := by
  rw [effectiveHoldProfileFrom_eq hl, holdArbitration]
  split_ifs with h0 hps
  · simp [h0]
  · simp [h0, hps]
  · simp [h0, hps]

/-- Over valid holds, `effective_hold_profile` depends only on the registry, whatever
order the hash table iterates it in: power-saver when some hold asks for it,
performance when there are holds and none does, `PPD_PROFILE_UNSET` when there are none. -/
theorem effectiveHoldProfile_iteration_order (t : HoldTable) (order : List (Nat × ProfileHold))
    (horder : order.Perm t.entries) (hv : HoldsValid t.entries) :
    (effectiveHoldProfileFrom .unset order = .powerSaver ↔
      ∃ e ∈ t.entries, e.2.profile = .powerSaver) ∧
    (effectiveHoldProfileFrom .unset order = .performance ↔
      t.entries ≠ [] ∧ ¬∃ e ∈ t.entries, e.2.profile = .powerSaver) ∧
    (effectiveHoldProfileFrom .unset order = .unset ↔ t.entries = []) := by
  have hnil : order = [] ↔ t.entries = [] := by
    rw [← List.length_eq_zero, horder.length_eq, List.length_eq_zero]
  have hex : (∃ e ∈ order, e.2.profile = .powerSaver) ↔
      ∃ e ∈ t.entries, e.2.profile = .powerSaver :=
    ⟨fun ⟨e, he, hp⟩ => ⟨e, horder.subset he, hp⟩, fun ⟨e, he, hp⟩ => ⟨e, horder.symm.subset he, hp⟩⟩
  simpa only [ne_eq, hnil, hex] using effectiveHoldProfileFrom_unset_cases fun e he => hv e (horder.subset he)

/-- Two holds of two peers, iterated in the order opposite to their insertion. -/
theorem effectiveHoldProfile_iteration_order_reversed :
    let t := (HoldTable.empty.insert 1 ⟨.performance, "video", "vlc", ":1.5", powerProfilesIfaceName⟩).insert
      2 ⟨.powerSaver, "battery", "gnome", ":1.6", powerProfilesIfaceName⟩
    t.entries.reverse.Perm t.entries ∧ HoldsValid t.entries ∧
    ((effectiveHoldProfileFrom .unset t.entries.reverse = .powerSaver ↔
      ∃ e ∈ t.entries, e.2.profile = .powerSaver) ∧
    (effectiveHoldProfileFrom .unset t.entries.reverse = .performance ↔
      t.entries ≠ [] ∧ ¬∃ e ∈ t.entries, e.2.profile = .powerSaver) ∧
    (effectiveHoldProfileFrom .unset t.entries.reverse = .unset ↔ t.entries = [])) :=
  have hv : HoldsValid ((HoldTable.empty.insert 1
      ⟨.performance, "video", "vlc", ":1.5", powerProfilesIfaceName⟩).insert
      2 ⟨.powerSaver, "battery", "gnome", ":1.6", powerProfilesIfaceName⟩).entries := by
    intro e he
    simp only [HoldTable.insert, HoldTable.empty, HoldTable.keys] at he
    simp at he
    rcases he with rfl | rfl <;> simp
  ⟨List.reverse_perm _, hv, effectiveHoldProfile_iteration_order _ _ (List.reverse_perm _) hv⟩

/-- `effective_hold_profile` itself, over valid holds: power-saver when some hold asks for it,
performance when there are holds and none does, `PPD_PROFILE_UNSET` when there are none. -/
theorem effectiveHoldProfile_cases (app : PpdApp) (hv : HoldsValid app.profileHolds.entries) :
    (effectiveHoldProfile app = .powerSaver ↔ ∃ e ∈ app.profileHolds.entries, e.2.profile = .powerSaver) ∧
    (effectiveHoldProfile app = .performance ↔
      app.profileHolds.entries ≠ [] ∧ ¬∃ e ∈ app.profileHolds.entries, e.2.profile = .powerSaver) ∧
    (effectiveHoldProfile app = .unset ↔ app.profileHolds.entries = []) :=
  effectiveHoldProfileFrom_unset_cases hv

/-- A hold of the arbitrated profile, added last, keeps it arbitrated. -/
theorem holdArbitration_append_self {s : PpdProfile} {l : List (Nat × ProfileHold)}
    {e : Nat × ProfileHold} (he : e.2.profile = .performance ∨ e.2.profile = .powerSaver)
    (h : holdArbitration s l = e.2.profile) : holdArbitration s (l ++ [e]) = e.2.profile := by
  have hex : (∃ x ∈ l ++ [e], x.2.profile = .powerSaver) ↔
      (∃ x ∈ l, x.2.profile = .powerSaver) ∨ e.2.profile = .powerSaver := by
    simp only [List.mem_append, List.mem_singleton, or_and_right, exists_or, exists_eq_left]
  rw [holdArbitration_of_ne_nil (by simp)]
  simp only [hex]
  rcases he with he | he
  · have hnP : ¬∃ x ∈ l, x.2.profile = .powerSaver := fun hP => by
      have hl : l ≠ [] := by rintro rfl; simp at hP
      rw [holdArbitration_of_ne_nil hl, if_pos hP, he] at h
      cases h
    rw [if_neg (by simp [hnP, he]), he]
  · rw [if_pos (.inr he), he]

/-- What the activation closing `release_profile_hold` decides is the arbitration of the
holds left: the selection when the last hold went, the arbitration of the others when
the released hold was the arbitrated profile, and otherwise the released hold did not
decide it. -/
theorem holdArbitration_release {l l' : List (Nat × ProfileHold)} {e : Nat × ProfileHold}
    (hne : l ≠ []) (he : e.2.profile = .performance ∨ e.2.profile = .powerSaver)
    (hsplit : (∃ x ∈ l, x.2.profile = .powerSaver) ↔
      e.2.profile = .powerSaver ∨ ∃ x ∈ l', x.2.profile = .powerSaver) (s : PpdProfile) :
    (if l' = [] ∧ e.2.profile ≠ s then s
      else if e.2.profile = holdArbitration s l ∧ l' ≠ [] then holdArbitration s l'
      else holdArbitration s l) = holdArbitration s l' := by
  have hl : holdArbitration s l = if e.2.profile = .powerSaver ∨ ∃ x ∈ l', x.2.profile = .powerSaver
      then .powerSaver else .performance := by
    rw [holdArbitration_of_ne_nil hne]
    simp only [hsplit]
  by_cases hl' : l' = []
  · subst hl'
    have hself : holdArbitration s l = e.2.profile := by
      rw [hl]; rcases he with he | he <;> simp [he]
    by_cases hs : e.2.profile = s
    · rw [if_neg (fun h => h.2 hs), if_neg (fun h => h.2 rfl), hself, hs, holdArbitration_nil]
    · rw [if_pos ⟨rfl, hs⟩, holdArbitration_nil]
  · rw [if_neg (fun h => hl' h.1)]
    split_ifs with h
    · rfl
    · rcases he with he | he
      · have hcond : (e.2.profile = .powerSaver ∨ ∃ x ∈ l', x.2.profile = .powerSaver) ↔
            ∃ x ∈ l', x.2.profile = .powerSaver := by simp [he]
        rw [hl, holdArbitration_of_ne_nil hl']
        simp only [hcond]
      · exact absurd ⟨by rw [hl, if_pos (.inl he), he], hl'⟩ h

/-! ### The invariant of the hold stack -/

/-- The invariant of the hold stack: every hold is valid, and the active profile is the
arbitration of the holds over the selection. -/
structure Arbitrated (app : PpdApp) : Prop where
  holdsValid : HoldsValid app.profileHolds.entries
  activeProfile : app.activeProfile = holdArbitration app.selectedProfile app.profileHolds.entries

namespace Arbitrated

/-- The abstract invariant gives the arbitration the spec states. -/
theorem arbitrationInv {app : PpdApp} (h : Arbitrated app) : ArbitrationInv app := by
  unfold ArbitrationInv effectiveHoldProfile
  rw [h.activeProfile, effectiveHoldProfileFrom_eq h.holdsValid]
  unfold holdArbitration
  split_ifs <;> rfl

theorem of_eq {app app' : PpdApp} (h : Arbitrated app) (hact : app'.activeProfile = app.activeProfile)
    (hsel : app'.selectedProfile = app.selectedProfile) (hh : app'.profileHolds = app.profileHolds) :
    Arbitrated app' :=
  ⟨hh ▸ h.holdsValid, by rw [hact, hsel, hh]; exact h.activeProfile⟩

theorem reply {app : PpdApp} (h : Arbitrated app) (dest : String)
    (r : Except GError (Option GVariant)) : Arbitrated (app.reply dest r) :=
  h.of_eq rfl rfl rfl

end Arbitrated

section Succeeds

variable {env : Env} (hS : env.Succeeds)
include hS

/-- The activation closing `hold_profile`, when every driver succeeds: the arbitration
of the holds if the new hold's profile is not the active one. -/
theorem holdProfileActivate_activeProfile (app : PpdApp) (profile : PpdProfile)
    (hv : HoldsValid app.profileHolds.entries) :
    (holdProfileActivate env app profile).1.activeProfile =
      if profile ≠ app.activeProfile ∧ app.profileHolds.entries ≠ [] then
        holdArbitration app.selectedProfile app.profileHolds.entries
      else app.activeProfile := by
  unfold holdProfileActivate effectiveHoldProfile
  rw [effectiveHoldProfileFrom_eq hv]
  dsimp only
  by_cases hl : app.profileHolds.entries = []
  · simp [hl, holdArbitration_nil]
  · have hu := holdArbitration_ne_unset hl
    rw [holdArbitration_of_ne_nil hl, ← holdArbitration_of_ne_nil hl app.selectedProfile]
    split_ifs <;> simp_all [activateTargetProfile_activeProfile_of_succeeds hS]

/-- The activation closing `release_profile_hold`, when every driver succeeds. -/
theorem releaseProfileHoldActivate_activeProfile (app : PpdApp) (holdProfile : PpdProfile)
    (hv : HoldsValid app.profileHolds.entries) :
    (releaseProfileHoldActivate env app holdProfile).1.activeProfile =
      if app.profileHolds.entries = [] ∧ holdProfile ≠ app.selectedProfile then app.selectedProfile
      else if holdProfile = app.activeProfile ∧ app.profileHolds.entries ≠ [] then
        holdArbitration app.selectedProfile app.profileHolds.entries
      else app.activeProfile := by
  unfold releaseProfileHoldActivate effectiveHoldProfile
  rw [effectiveHoldProfileFrom_eq hv]
  simp only [HoldTable.size_eq_zero]
  by_cases hl : app.profileHolds.entries = []
  · simp only [hl, holdArbitration_nil]
    split_ifs <;> simp_all [activateTargetProfile_activeProfile_of_succeeds hS]
  · have hu := holdArbitration_ne_unset hl
    rw [holdArbitration_of_ne_nil hl, ← holdArbitration_of_ne_nil hl app.selectedProfile]
    split_ifs <;> simp_all [activateTargetProfile_activeProfile_of_succeeds hS]

/-- When every driver succeeds, `set_active_profile` either changes nothing or leaves the
profile active and selected with no hold. -/
theorem setActiveProfile_of_succeeds (app : PpdApp) (profile : String) :
    (setActiveProfile env app profile).1 = app ∨
    ((setActiveProfile env app profile).1.activeProfile = ppdProfileFromStr profile ∧
     (setActiveProfile env app profile).1.selectedProfile = ppdProfileFromStr profile ∧
     (setActiveProfile env app profile).1.profileHolds = .empty) := by
  have hc := setActiveProfileCase env app profile
  generalize setActiveProfile env app profile = r at hc ⊢
  cases hc with
  | invalid | unavailable | same => exact .inl rfl
  | failed _ _ _ err he =>
    rw [activateTargetProfile_snd_of_succeeds hS] at he
    cases he
  | switched =>
    right
    simp [activateTargetProfile_activeProfile_of_succeeds hS, releaseAllProfileHolds_eq]

/-- The tail of `hold_profile`: once a valid hold is added last, the activation and the
notification leave the hold stack arbitrated. -/
theorem arbitrated_holdProfileTail {app A : PpdApp} (h : Arbitrated app) (watchId : Nat)
    (hold : ProfileHold) (hvh : hold.profile = .performance ∨ hold.profile = .powerSaver)
    (hh : A.profileHolds.entries = app.profileHolds.entries ++ [(watchId, hold)])
    (hsel : A.selectedProfile = app.selectedProfile) (hact : A.activeProfile = app.activeProfile)
    (m : PropertiesMask) : Arbitrated (sendDbusEvent env (holdProfileActivate env A hold.profile).1 m) := by
  have htr := transacts_holdProfileActivate env A hold.profile
  have hv : HoldsValid A.profileHolds.entries := by
    rw [hh]
    intro e he
    rcases List.mem_append.mp he with he | he
    · exact h.holdsValid e he
    · rw [List.mem_singleton.mp he]; exact hvh
  refine ⟨by simpa [htr.profileHolds] using hv, ?_⟩
  rw [sendDbusEvent_activeProfile, sendDbusEvent_selectedProfile, sendDbusEvent_profileHolds,
    htr.selectedProfile, htr.profileHolds, holdProfileActivate_activeProfile hS _ _ hv, hh, hsel, hact]
  by_cases hpa : hold.profile = app.activeProfile
  · rw [if_neg fun h => h.1 hpa, holdArbitration_append_self (e := (watchId, hold)) hvh
      (by rw [← h.activeProfile]; exact hpa.symm)]
    exact hpa.symm
  · rw [if_pos ⟨hpa, by simp⟩]

/-- `hold_profile` with a fresh cookie keeps the hold stack arbitrated. -/
theorem arbitrated_holdProfile {app : PpdApp} (h : Arbitrated app)
    (sender iface profileName reason applicationId : String) (watchId : Nat)
    (hw : watchId ∉ app.profileHolds.keys) :
    Arbitrated (holdProfile env app sender iface profileName reason applicationId watchId) := by
  unfold holdProfile
  dsimp only
  split_ifs with hp
  · exact h.reply ..
  · exact h.reply ..
  · refine arbitrated_holdProfileTail hS h watchId
      ⟨ppdProfileFromStr profileName, reason, applicationId, sender, iface⟩
      (or_iff_not_and_not.mpr hp) ?_ ?_ ?_ _
    exacts [HoldTable.insert_of_not_mem _ hw, rfl, rfl]

/-- `release_profile_hold` keeps the hold stack arbitrated. -/
theorem arbitrated_releaseProfileHold {app : PpdApp} (h : Arbitrated app) (cookie : Nat) :
    Arbitrated (releaseProfileHold env app cookie) := by
  unfold releaseProfileHold
  split
  · exact h
  rename_i hold hl
  have hmem := HoldTable.lookup_eq_some.mp hl
  have hv : HoldsValid (app.profileHolds.remove cookie).entries :=
    fun e he => h.holdsValid e (List.mem_filter.mp he).1
  have hsplit : (∃ x ∈ app.profileHolds.entries, x.2.profile = .powerSaver) ↔
      hold.profile = .powerSaver ∨
        ∃ x ∈ (app.profileHolds.remove cookie).entries, x.2.profile = .powerSaver := by
    simp only [HoldTable.mem_iff_of_mem hmem, or_and_right, exists_or, exists_eq_left]
  dsimp only
  have htr := transacts_releaseProfileHoldActivate env
    { releaseHoldNotify (gBusUnwatchName app cookie) hold cookie with
      profileHolds := (releaseHoldNotify (gBusUnwatchName app cookie) hold cookie).profileHolds.remove cookie }
    hold.profile
  refine ⟨by simpa [htr.profileHolds] using hv, ?_⟩
  rw [sendDbusEvent_activeProfile, sendDbusEvent_selectedProfile, sendDbusEvent_profileHolds,
    htr.selectedProfile, htr.profileHolds, releaseProfileHoldActivate_activeProfile hS _ _ hv]
  exact h.activeProfile ▸ holdArbitration_release (List.ne_nil_of_mem hmem) (h.holdsValid _ hmem) hsplit _

/-- `holder_disappeared` releases the vanished peer's holds one by one, each keeping the
hold stack arbitrated. -/
theorem arbitrated_holderDisappeared {app : PpdApp} (h : Arbitrated app) (name : String) :
    Arbitrated (holderDisappeared env app name) :=
  holderDisappeared_induction env name h fun _ c ha => arbitrated_releaseProfileHold hS ha c

theorem arbitrated_setActiveProfile {app : PpdApp} (h : Arbitrated app) (profile : String) :
    Arbitrated (setActiveProfile env app profile).1 := by
  rcases setActiveProfile_of_succeeds hS app profile with heq | ⟨hact, hsel, hh⟩
  · rw [heq]; exact h
  · exact ⟨(by rw [hh]; exact fun e he => nomatch he), by rw [hact, hsel, hh]; rfl⟩

end Succeeds

/-! ### Runs -/

/-- The requests and disappearances of clients. -/
def Event.IsClientEvent : Event → Prop
  | .setProperty .. | .methodCall .. | .nameVanished _ => True
  | _ => False

section Run

variable {env : Env} (hS : env.Succeeds)
include hS

/-- Every client event keeps the hold stack arbitrated when every driver succeeds. -/
theorem arbitrated_step {app : PpdApp} (h : Arbitrated app) (hinv : CookieInv app) {e : Event}
    (he : e.IsClientEvent) (hfresh : e.FreshWatchId app) : Arbitrated (step env app e) := by
  have hs := stepCase env app e
  generalize step env app e = s at hs
  cases hs with
  | same => exact h
  | refuse => exact h.reply ..
  | set sender value => exact (arbitrated_setActiveProfile hS h value).reply ..
  | hold sender iface profileName reason applicationId watchId =>
    exact arbitrated_holdProfile hS h sender iface profileName reason applicationId watchId
      fun hk => hfresh (hinv.mem_issued hk)
  | release sender iface cookie auth => exact (arbitrated_releaseProfileHold hS h cookie).reply ..
  | vanish name => exact arbitrated_holderDisappeared hS h name
  | _ => exact he.elim

/-- Along any run of client events with fresh watch ids, the hold stack stays arbitrated
when every driver succeeds. -/
theorem arbitrated_run {app : PpdApp} (h : Arbitrated app) (hinv : CookieInv app)
    (events : List Event) (hclient : ∀ e ∈ events, e.IsClientEvent) (hfresh : FreshIds app events) :
    Arbitrated (run env app events) := by
  induction events generalizing app with
  | nil => exact h
  | cons e rest ih =>
    exact ih (arbitrated_step hS h hinv (hclient e (.head _)) hfresh.head)
      (cookieInv_step hinv e hfresh.head) (fun e he => hclient e (.tail _ he)) hfresh.tail

end Run

/-- A start from a state file with no `Profile` key leaves balanced active and selected,
with no hold. -/
theorem arbitrated_startProfileDrivers (env : Env) (config : KeyFile) (hc : config.profile = none)
    (blockedDrivers blockedActions : List String) (backends : List Backend) :
    Arbitrated (startProfileDrivers env (initialApp config blockedDrivers blockedActions) backends) := by
  have hholds := (keepsHolds_startProfileDrivers env
    (initialApp config blockedDrivers blockedActions) backends).profileHolds
  have hprobe := keepsProfiles_foldl_probeBackend (initialApp config blockedDrivers blockedActions)
    backends
  refine ⟨(by rw [hholds]; exact fun e he => nomatch he), ?_⟩
  rw [startProfileDrivers_activeProfile, startProfileDrivers_selectedProfile, hholds,
    applyConfiguration_of_profile_none (by rw [hprobe.config]; exact hc), hprobe.activeProfile]
  rfl

/-- When every driver succeeds and the state file stores no profile, the arbitration the
spec states holds after every run of client requests and disappearances with fresh
watch ids. -/
theorem arbitrationInv_of_unrestored_start {env : Env} (hS : env.Succeeds) (config : KeyFile)
    (hc : config.profile = none) (blockedDrivers blockedActions : List String)
    (backends : List Backend) (events : List Event) (hclient : ∀ e ∈ events, e.IsClientEvent)
    (hfresh : FreshIds (startProfileDrivers env (initialApp config blockedDrivers blockedActions)
      backends) events) :
    ArbitrationInv (run env (startProfileDrivers env
      (initialApp config blockedDrivers blockedActions) backends) events) :=
  (arbitrated_run hS (arbitrated_startProfileDrivers env config hc blockedDrivers blockedActions backends)
    (@Reachable.start env config blockedDrivers blockedActions backends).cookieInv events hclient
    hfresh).arbitrationInv

/-- Two peers hold, the power-saver holder vanishes, the user sets power-saver, and the other
peer takes and releases a hold. -/
def twoPeersEvening : List Event :=
  [.methodCall ":1.5" powerProfilesIfaceName (.holdProfile "performance" "video" "vlc" 1)
      .authorized,
   .methodCall ":1.6" powerProfilesIfaceName (.holdProfile "power-saver" "battery" "app" 2)
      .authorized,
   .nameVanished ":1.6",
   .setProperty ":1.7" "ActiveProfile" "power-saver" .authorized,
   .methodCall ":1.5" powerProfilesIfaceName (.holdProfile "performance" "build" "make" 3)
      .authorized,
   .methodCall ":1.5" powerProfilesIfaceName (.releaseProfile 3) .authorized]

theorem intelStarted_twoPeersEvening_arbitrated :
    (∀ e ∈ twoPeersEvening, e.IsClientEvent) ∧ FreshIds intelStarted twoPeersEvening ∧
      ArbitrationInv (run (Env.allSucceed "") intelStarted twoPeersEvening) :=
  have hclient : ∀ e ∈ twoPeersEvening, e.IsClientEvent := by
    simp [twoPeersEvening, Event.IsClientEvent]
  have hfresh : FreshIds intelStarted twoPeersEvening := by
    unfold FreshIds
    decide
  ⟨hclient, hfresh, arbitrationInv_of_unrestored_start (Env.succeeds_allSucceed "") ⟨none, none, none⟩
    rfl [] [] [.driver .cpu ppdDriverIntelPstate .success] twoPeersEvening hclient hfresh⟩

/-! ### Where it breaks -/

/-- A start with intel_pstate and a state file that stores performance for it. -/
def performanceRestored : PpdApp :=
  startProfileDrivers (Env.allSucceed "")
    (initialApp ⟨some "intel_pstate", none, some "performance"⟩ [] [])
    [.driver .cpu ppdDriverIntelPstate .success]

/-- A client holds power-saver and releases it (cookie 1). -/
def holdAndRelease : List Event :=
  [.methodCall ":1.5" powerProfilesIfaceName (.holdProfile "power-saver" "battery" "app" 1)
      .authorized,
   .methodCall ":1.5" powerProfilesIfaceName (.releaseProfile 1) .authorized]

/-- A deferred platform driver and intel_pstate; a client holds performance, then the
platform driver asks for a new probe and binds. -/
def heldRestart : PpdApp :=
  run (Env.allSucceed "")
    (startProfileDrivers (Env.allSucceed "") (initialApp ⟨none, none, none⟩ [] [])
      [.driver .platform platformWithAll .defer, .driver .cpu ppdDriverIntelPstate .success])
    [.methodCall ":1.5" powerProfilesIfaceName (.holdProfile "performance" "video" "vlc" 1)
      .authorized,
     .probeRequest [.driver .platform platformWithAll .success,
       .driver .cpu ppdDriverIntelPstate .success]]

/-- A start that restores a profile leaves it active but not selected, so the first hold
released falls back to balanced; and a restart with a live hold leaves the held profile
active with no hold left. -/
theorem start_breaks_arbitration :
    ¬ ArbitrationInv performanceRestored ∧
      (run (Env.allSucceed "") performanceRestored holdAndRelease).activeProfile = .balanced ∧
      heldRestart.profileHolds.entries = [] ∧ heldRestart.activeProfile = .performance ∧
      ¬ ArbitrationInv heldRestart := by
  decide

end PowerProfiles
