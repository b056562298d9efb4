import PowerProfiles.Daemon

/-!
# The user's profile choice

`set_active_profile`, reached through the `ActiveProfile` property, and what a refused
request leaves behind. A successful set either finds the profile already active and
returns at once, or releases every hold with one `ProfileReleased` each and makes the
profile both active and selected. A refused request changes neither profile nor the
state file, but a set whose activation fails has released the holds before it failed.
-/

namespace PowerProfiles

/-- What a successful `set_active_profile` does: nothing when the profile is already
active; otherwise the profile becomes active and selected, the registry empties, and
the cookie of every earlier hold gets exactly one more `ProfileReleased`, addressed to
its requester on its interface's path. -/
theorem setActiveProfile_ok (env : Env) (app : PpdApp) (profile : String)
    (hok : (setActiveProfile env app profile).2 = .ok ()) :
    (ppdProfileFromStr profile = app.activeProfile ∧
      setActiveProfile env app profile = (app, .ok ())) ∨
    ((setActiveProfile env app profile).1.activeProfile = ppdProfileFromStr profile ∧
     (setActiveProfile env app profile).1.selectedProfile = ppdProfileFromStr profile ∧
     (setActiveProfile env app profile).1.profileHolds = .empty ∧
     ∀ c hold, (c, hold) ∈ app.profileHolds.entries →
       (setActiveProfile env app profile).1.trace.filter (Emission.releasesCookie c) =
         app.trace.filter (Emission.releasesCookie c) ++ [releaseSignal c hold]) := by
  have hc := setActiveProfileCase env app profile
  generalize setActiveProfile env app profile = r at hc hok ⊢
  cases hc with
  | invalid | unavailable | failed => cases hok
  | same _ _ hact => exact .inl ⟨hact, rfl⟩
  | switched _ _ _ he =>
    have htr := transacts_activateTargetProfile env (releaseAllProfileHolds app)
      (ppdProfileFromStr profile) .user
    dsimp only
    refine .inr ⟨by simpa using activateTargetProfile_activeProfile_of_ok env _ _ _ he, by simp,
      by simp [releaseAllProfileHolds_eq], fun c hold hmem => ?_⟩
    rw [(transacts_sendDbusEvent ..).filter_releasesCookie]
    show (activateTargetProfile ..).1.trace.filter _ = _
    rw [htr.filter_releasesCookie, releaseAllProfileHolds_filter, HoldTable.filter_key hmem]
    rfl

/-- The daemon started with `intel_pstate` bound and no state file. -/
def intelStarted : PpdApp :=
  startProfileDrivers (Env.allSucceed "") (initialApp ⟨none, none, none⟩ [] [])
    [.driver .cpu ppdDriverIntelPstate .success]

/-- Then a client `:1.5` holds performance with cookie 1: performance is active over the
selected balanced. -/
def performanceHeld : PpdApp :=
  step (Env.allSucceed "") intelStarted
    (.methodCall ":1.5" powerProfilesIfaceName (.holdProfile "performance" "video" "vlc" 1)
      .authorized)

theorem setActiveProfile_ok_powerSaver :
    (setActiveProfile (Env.allSucceed "") performanceHeld "power-saver").2 = .ok () ∧
    ((ppdProfileFromStr "power-saver" = performanceHeld.activeProfile ∧
      setActiveProfile (Env.allSucceed "") performanceHeld "power-saver" =
        (performanceHeld, .ok ())) ∨
    ((setActiveProfile (Env.allSucceed "") performanceHeld "power-saver").1.activeProfile =
        ppdProfileFromStr "power-saver" ∧
     (setActiveProfile (Env.allSucceed "") performanceHeld "power-saver").1.selectedProfile =
        ppdProfileFromStr "power-saver" ∧
     (setActiveProfile (Env.allSucceed "") performanceHeld "power-saver").1.profileHolds = .empty ∧
     ∀ c hold, (c, hold) ∈ performanceHeld.profileHolds.entries →
       (setActiveProfile (Env.allSucceed "") performanceHeld "power-saver").1.trace.filter
          (Emission.releasesCookie c) =
         performanceHeld.trace.filter (Emission.releasesCookie c) ++ [releaseSignal c hold])) :=
  ⟨by decide, setActiveProfile_ok _ _ _ (by decide)⟩

/-- Setting the profile a hold made active succeeds and changes nothing: the selected
profile stays balanced and the hold stays. -/
theorem set_held_profile_keeps_hold :
    setActiveProfile (Env.allSucceed "") performanceHeld "performance" =
      (performanceHeld, .ok ()) ∧
    performanceHeld.selectedProfile = .balanced ∧ performanceHeld.profileHolds.size = 1 := by
  decide

/-! ### Refused requests -/

/-- A write of the state file. -/
def Emission.isKeyFileSave : Emission → Bool
  | .keyFileSave _ => true
  | _ => false

/-- A reply to a method call or a property set. -/
def Emission.isMethodReply : Emission → Bool
  | .methodReply .. => true
  | _ => false

/-- A client request: a property set or a method call. -/
def Event.IsRequest : Event → Prop
  | .setProperty .. | .methodCall .. => True
  | _ => False

/-- `app'` has the profiles and the persisted state of `app`: the same active and
selected profile and key file, and no state-file write in between. -/
structure KeepsProfiles (app app' : PpdApp) : Prop where
  activeProfile : app'.activeProfile = app.activeProfile
  selectedProfile : app'.selectedProfile = app.selectedProfile
  config : app'.config = app.config
  noSave : ∃ es, app'.trace = app.trace ++ es ∧ ∀ m ∈ es, m.isKeyFileSave = false

namespace KeepsProfiles

theorem refl (app : PpdApp) : KeepsProfiles app app := ⟨rfl, rfl, rfl, [], by simp, by simp⟩

theorem trans {a b c : PpdApp} (h1 : KeepsProfiles a b) (h2 : KeepsProfiles b c) :
    KeepsProfiles a c := by
  obtain ⟨es1, h1t, h1m⟩ := h1.noSave
  obtain ⟨es2, h2t, h2m⟩ := h2.noSave
  refine ⟨h2.1.trans h1.1, h2.2.trans h1.2, h2.3.trans h1.3, es1 ++ es2, by simp [h2t, h1t],
    fun m hm => ?_⟩
  rcases List.mem_append.mp hm with hm | hm
  exacts [h1m m hm, h2m m hm]

theorem reply (app : PpdApp) (dest : String) (r : Except GError (Option GVariant)) :
    KeepsProfiles app (app.reply dest r) :=
  ⟨rfl, rfl, rfl, _, rfl, by simp [Emission.isKeyFileSave]⟩

end KeepsProfiles

theorem keepsProfiles_releaseAllProfileHolds (app : PpdApp) :
    KeepsProfiles app (releaseAllProfileHolds app) := by
  rw [releaseAllProfileHolds_eq]
  refine ⟨rfl, rfl, rfl, _, rfl, fun m hm => ?_⟩
  obtain ⟨e, -, rfl⟩ := List.mem_map.mp hm
  rfl

/-- A failed activation makes driver calls only. -/
theorem keepsProfiles_activateTargetProfile_of_error {env : Env} {app : PpdApp}
    {target : PpdProfile} {reason : PpdProfileActivationReason} {err : GError}
    (h : (activateTargetProfile env app target reason).2 = .error err) :
    KeepsProfiles app (activateTargetProfile env app target reason).1 := by
  obtain ⟨calls, hcalls, heq⟩ := activateTargetProfile_eq env app target reason
  rw [heq, h]
  refine ⟨rfl, rfl, rfl, calls, rfl, fun m hm => ?_⟩
  have := (hcalls m hm).isDriverCall
  cases m <;> simp_all [Emission.isDriverCall, Emission.isKeyFileSave]

/-- A refused `set_active_profile` keeps the profiles and the state file, and the
registry too unless its activation failed after the holds were released. -/
theorem setActiveProfile_error {env : Env} {app : PpdApp} {profile : String} {err : GError}
    (h : (setActiveProfile env app profile).2 = .error err) :
    KeepsProfiles app (setActiveProfile env app profile).1 ∧
    ((setActiveProfile env app profile).1.profileHolds = app.profileHolds ∨
      getProfileAvailable app (ppdProfileFromStr profile).mask ∧
        ppdProfileFromStr profile ≠ app.activeProfile ∧
        (setActiveProfile env app profile).1.profileHolds = .empty) := by
  have hc := setActiveProfileCase env app profile
  generalize setActiveProfile env app profile = r at hc h ⊢
  cases hc with
  | invalid | unavailable => exact ⟨.refl _, .inl rfl⟩
  | same | switched => cases h
  | failed _ havail hact err he =>
    exact ⟨(keepsProfiles_releaseAllProfileHolds app).trans
      (keepsProfiles_activateTargetProfile_of_error he),
      .inr ⟨havail, hact, by simp [releaseAllProfileHolds_eq]⟩⟩

theorem Emission.isMethodReply_eq_false {m : Emission}
    (h : m.isBackendCall ∨ m.isPropertiesChanged) : m.isMethodReply = false := by
  cases m <;> simp_all [isBackendCall, isPropertiesChanged, isMethodReply]

/-- `set_active_profile` never replies: its emissions are releases, back-end calls and
`PropertiesChanged` signals. -/
theorem setActiveProfile_trace (env : Env) (app : PpdApp) (profile : String) :
    ∃ es, (setActiveProfile env app profile).1.trace = app.trace ++ es ∧
      ∀ m ∈ es, m.isMethodReply = false := by
  rcases setActiveProfile_frame env app profile with h | ⟨app1, sel, h1, h2⟩
  · exact ⟨[], by simp [h], by simp⟩
  obtain ⟨es1, hes1, hm1⟩ := h1.trace
  obtain ⟨es2, hes2, hm2⟩ := h2.trace
  rw [releaseAllProfileHolds_eq] at hes1
  refine ⟨app.profileHolds.entries.map (fun e => releaseSignal e.1 e.2) ++ es1 ++ es2,
    by simp [hes2, hes1], fun m hm => ?_⟩
  simp only [List.mem_append] at hm
  rcases hm with (hm | hm) | hm
  · obtain ⟨e, -, rfl⟩ := List.mem_map.mp hm
    rfl
  exacts [Emission.isMethodReply_eq_false (hm1 m hm), Emission.isMethodReply_eq_false (hm2 m hm)]

/-- A request the daemon answers with an error leaves the active and selected profiles
and the persisted state as they were, and the hold registry too, except after an
authorized set of an available profile other than the active one: that set released
every hold before its activation failed, and leaves the registry empty. -/
theorem error_reply_keeps_profiles (env : Env) (app : PpdApp) (e : Event) (hreq : e.IsRequest)
    (dest : String) (err : GError)
    (herr : Emission.methodReply dest (.error err) ∈ (step env app e).trace.drop app.trace.length) :
    KeepsProfiles app (step env app e) ∧
    ((step env app e).profileHolds = app.profileHolds ∨
      ∃ sender value, e = .setProperty sender "ActiveProfile" value .authorized ∧
        getProfileAvailable app (ppdProfileFromStr value).mask ∧
        ppdProfileFromStr value ≠ app.activeProfile ∧ (step env app e).profileHolds = .empty) := by
  have hs := stepCase env app e
  generalize step env app e = s at hs herr ⊢
  cases hs with
  | same => simp at herr
  | refuse => exact ⟨.reply .., .inl rfl⟩
  | set sender value =>
    cases hres : (setActiveProfile env app value).2 with
    | ok u =>
      obtain ⟨es, hes, hm⟩ := setActiveProfile_trace env app value
      simp only [PpdApp.reply, emit_trace, hes, hres, List.append_assoc, List.drop_left] at herr
      rcases List.mem_append.mp herr with h | h
      · simpa [Emission.isMethodReply] using hm _ h
      · simp [Except.map] at h
    | error e =>
      obtain ⟨hk, hh⟩ := setActiveProfile_error hres
      refine ⟨hk.trans (.reply ..), ?_⟩
      rcases hh with hh | ⟨havail, hact, hh⟩
      · exact .inl hh
      · exact .inr ⟨sender, value, rfl, havail, hact, hh⟩
  | hold sender iface profileName reason applicationId watchId =>
    rcases holdProfile_cases env app sender iface profileName reason applicationId watchId with
      ⟨err', h⟩ | ⟨-, -, ht⟩
    · rw [h]
      exact ⟨.reply .., .inl rfl⟩
    · obtain ⟨es, hes, hm⟩ := ht.trace
      simp only [hes, PpdApp.reply, emit_trace, List.append_assoc, List.drop_left] at herr
      rcases List.mem_append.mp herr with h | h
      · simp at h
      · simpa [Emission.isMethodReply] using Emission.isMethodReply_eq_false (hm _ h)
  | release sender iface cookie auth hc =>
    obtain ⟨hold, hmem⟩ := HoldTable.mem_keys.mp hc
    obtain ⟨es, hes, hm⟩ := (@releaseProfileHold_of_lookup env _ _ _
      (HoldTable.lookup_eq_some.mpr hmem)).trace
    simp only [PpdApp.reply, emit_trace, hes, List.append_assoc, List.drop_left] at herr
    simp only [List.mem_append, List.mem_singleton] at herr
    rcases herr with h | h | h
    · simp [releaseSignal] at h
    · simpa [Emission.isMethodReply] using Emission.isMethodReply_eq_false (hm _ h)
    · simp at h
  | _ => exact hreq.elim

/-- An environment in which every driver refuses power-saver. -/
def powerSaverFails : Env :=
  ⟨"", fun _ _ profile _ =>
    if profile = .powerSaver then .error ⟨.unmapped, "EIO"⟩ else .ok ()⟩

theorem error_reply_keeps_profiles_failed_set :
    Event.IsRequest (.setProperty ":1.7" "ActiveProfile" "power-saver" .authorized) ∧
    Emission.methodReply ":1.7"
        (.error ⟨.unmapped, "Failed to activate CPU driver \x27intel_pstate\x27: EIO"⟩) ∈
      (step powerSaverFails performanceHeld
        (.setProperty ":1.7" "ActiveProfile" "power-saver" .authorized)).trace.drop
        performanceHeld.trace.length ∧
    (KeepsProfiles performanceHeld (step powerSaverFails performanceHeld
        (.setProperty ":1.7" "ActiveProfile" "power-saver" .authorized)) ∧
      ((step powerSaverFails performanceHeld
          (.setProperty ":1.7" "ActiveProfile" "power-saver" .authorized)).profileHolds =
          performanceHeld.profileHolds ∨
        ∃ sender value, (Event.setProperty ":1.7" "ActiveProfile" "power-saver" .authorized) =
            .setProperty sender "ActiveProfile" value .authorized ∧
          getProfileAvailable performanceHeld (ppdProfileFromStr value).mask ∧
          ppdProfileFromStr value ≠ performanceHeld.activeProfile ∧
          (step powerSaverFails performanceHeld
            (.setProperty ":1.7" "ActiveProfile" "power-saver" .authorized)).profileHolds = .empty)) :=
  ⟨trivial, by decide, error_reply_keeps_profiles _ _ _ trivial ":1.7"
    ⟨.unmapped, "Failed to activate CPU driver \x27intel_pstate\x27: EIO"⟩ (by decide)⟩

/-- A set of power-saver whose activation fails is answered with an error after the
performance hold was released. -/
theorem failed_set_releases_hold :
    Emission.methodReply ":1.7"
        (.error ⟨.unmapped, "Failed to activate CPU driver \x27intel_pstate\x27: EIO"⟩) ∈
      (step powerSaverFails performanceHeld
        (.setProperty ":1.7" "ActiveProfile" "power-saver" .authorized)).trace.drop
        performanceHeld.trace.length ∧
    performanceHeld.profileHolds.size = 1 ∧
    (step powerSaverFails performanceHeld
      (.setProperty ":1.7" "ActiveProfile" "power-saver" .authorized)).profileHolds.size = 0 := by
  decide

/-! ### Announced values -/

/-- The value of property `name` in the last `PropertiesChanged` on interface `iface`
that carries it. -/
def lastAnnounced (iface name : String) : List Emission → Option GVariant
  | [] => none
  | m :: rest =>
    match lastAnnounced iface name rest, m with
    | some v, _ => some v
    | none, .propertiesChanged i _ props => if i = iface then props.lookup name else none
    | none, _ => none

/-- After the failed set, the holds last announced are the released one, while
`handle_get_property` reports none. -/
theorem failed_set_announces_released_hold :
    lastAnnounced powerProfilesIfaceName "ActiveProfileHolds"
        (step powerSaverFails performanceHeld
          (.setProperty ":1.7" "ActiveProfile" "power-saver" .authorized)).trace =
      some (.dictArray [[("ApplicationId", "vlc"), ("Profile", "performance"), ("Reason", "video")]]) ∧
    handleGetProperty powerSaverFails
        (step powerSaverFails performanceHeld
          (.setProperty ":1.7" "ActiveProfile" "power-saver" .authorized))
        "ActiveProfileHolds" = some (.dictArray []) := by
  decide

end PowerProfiles
