import PowerProfiles.Activation

/-!
# Holds and user selection

The client-facing operations on the hold registry (`hold_profile`, `release_profile`,
`release_profile_hold`, `holder_disappeared`) and the user's `set_active_profile`, with
the `effective_hold_profile` they arbitrate by. Each function's closing activation is a
named helper returning whether it touched `PROP_ACTIVE_PROFILE`, so that the mask the
code builds stays visible.
-/

namespace PowerProfiles

/-- The loop of `effective_hold_profile` from a current value: a power-saver hold
breaks out, any other hold becomes the current value. -/
def effectiveHoldProfileFrom (profile : PpdProfile) : List (Nat × ProfileHold) → PpdProfile
  | [] => profile
  | (_, hold) :: rest =>
    if hold.profile = .powerSaver then .powerSaver else effectiveHoldProfileFrom hold.profile rest

/-- `effective_hold_profile`, over the table's iteration order. -/
def effectiveHoldProfile (app : PpdApp) : PpdProfile :=
  effectiveHoldProfileFrom .unset app.profileHolds.entries

/-- `release_all_profile_holds`: notify and unwatch every hold, then empty the table. -/
def releaseAllProfileHolds (app : PpdApp) : PpdApp :=
  { app.profileHolds.entries.foldl (fun a e => gBusUnwatchName (releaseHoldNotify a e.2 e.1) e.1)
      app with profileHolds := .empty }

/-- The loop of `release_all_profile_holds` signals each hold and drops its watch. -/
theorem foldl_releaseHold (l : List (Nat × ProfileHold)) (app : PpdApp) :
    l.foldl (fun a e => gBusUnwatchName (releaseHoldNotify a e.2 e.1) e.1) app =
      { app with watches := app.watches.filter (fun w => w.1 ∉ l.map Prod.fst),
                 trace := app.trace ++ l.map fun e => releaseSignal e.1 e.2 } := by
  induction l generalizing app with
  | nil => simp [PpdApp.emit]
  | cons e l ih =>
    rw [List.foldl_cons, ih]
    simp only [gBusUnwatchName, releaseHoldNotify, PpdApp.emit, List.filter_filter,
      List.map_cons, List.mem_cons, not_or, List.append_assoc, List.singleton_append]
    congr 2
    funext w
    by_cases h : w.1 = e.1 <;> simp [h]

/-- `release_all_profile_holds` signals every hold in iteration order, drops their
watches and empties the table. -/
theorem releaseAllProfileHolds_eq (app : PpdApp) :
    releaseAllProfileHolds app =
      { app with profileHolds := .empty,
                 watches := app.watches.filter (fun w => w.1 ∉ app.profileHolds.keys),
                 trace := app.trace ++ app.profileHolds.entries.map fun e => releaseSignal e.1 e.2 } := by
  rw [releaseAllProfileHolds, foldl_releaseHold]
  rfl

theorem filter_releaseSignals (l : List (Nat × ProfileHold)) (c : Nat) :
    (l.map fun e => releaseSignal e.1 e.2).filter (Emission.releasesCookie c) =
      (l.filter (·.1 = c)).map fun e => releaseSignal e.1 e.2 := by
  rw [List.filter_map]
  congr 2

/-- `release_all_profile_holds` signals each present cookie once more. -/
theorem releaseAllProfileHolds_filter (app : PpdApp) (c : Nat) :
    (releaseAllProfileHolds app).trace.filter (Emission.releasesCookie c) =
      app.trace.filter (Emission.releasesCookie c) ++
        (app.profileHolds.entries.filter (·.1 = c)).map fun e => releaseSignal e.1 e.2 := by
  rw [releaseAllProfileHolds_eq, List.filter_append, filter_releaseSignals]

/-- With no holds, `release_all_profile_holds` does nothing. -/
theorem releaseAllProfileHolds_of_size_eq_zero {app : PpdApp} (h : app.profileHolds.size = 0) :
    releaseAllProfileHolds app = app := by
  have he := HoldTable.size_eq_zero.mp h
  have hempty : HoldTable.empty = app.profileHolds :=
    HoldTable.ext (show HoldTable.empty.entries = _ from he.symm)
  rw [releaseAllProfileHolds_eq, hempty]
  simp [HoldTable.keys, he]

/-- The release at the start of `set_active_profile` may as well be unconditional. -/
theorem ite_releaseAllProfileHolds (app : PpdApp) :
    (if app.profileHolds.size ≠ 0 then releaseAllProfileHolds app else app) =
      releaseAllProfileHolds app := by
  split_ifs with h
  · rfl
  · exact (releaseAllProfileHolds_of_size_eq_zero (not_not.mp h)).symm

/-- `set_active_profile`, the user's choice of a profile. -/
def setActiveProfile (env : Env) (app : PpdApp) (profile : String) :
    PpdApp × Except GError Unit :=
  let targetProfile := ppdProfileFromStr profile
  if targetProfile = .unset then
    (app, .error ⟨.failed, "Invalid profile name " ++ quoted profile⟩)
  else if !getProfileAvailable app targetProfile.mask then
    (app, .error ⟨.failed, "Cannot switch to unavailable profile " ++ quoted profile⟩)
  else if targetProfile = app.activeProfile then (app, .ok ())
  else
    let releasing := app.profileHolds.size ≠ 0
    let app := if releasing then releaseAllProfileHolds app else app
    let r := activateTargetProfile env app targetProfile .user
    match r.2 with
    | .error e => (r.1, .error e)
    | .ok () =>
      (sendDbusEvent env { r.1 with selectedProfile := targetProfile }
        { activeProfile := true, activeProfileHolds := releasing }, .ok ())

/-- What `set_active_profile` can do: refuse at a guard with the state untouched, find
the profile already active, or release every hold and run the activation, which on
success records the selection and announces it. -/
inductive SetActiveProfileCase (env : Env) (app : PpdApp) (profile : String) :
    PpdApp × Except GError Unit → Prop
  /-- An unknown profile name. -/
  | invalid (hu : ppdProfileFromStr profile = .unset) :
      SetActiveProfileCase env app profile
        (app, .error ⟨.failed, "Invalid profile name " ++ quoted profile⟩)
  /-- A profile no driver supports. -/
  | unavailable (hu : ppdProfileFromStr profile ≠ .unset)
      (havail : ¬ getProfileAvailable app (ppdProfileFromStr profile).mask) :
      SetActiveProfileCase env app profile
        (app, .error ⟨.failed, "Cannot switch to unavailable profile " ++ quoted profile⟩)
  /-- The profile is already active. -/
  | same (hu : ppdProfileFromStr profile ≠ .unset)
      (havail : getProfileAvailable app (ppdProfileFromStr profile).mask)
      (hact : ppdProfileFromStr profile = app.activeProfile) :
      SetActiveProfileCase env app profile (app, .ok ())
  /-- The holds are released and the activation fails. -/
  | failed (hu : ppdProfileFromStr profile ≠ .unset)
      (havail : getProfileAvailable app (ppdProfileFromStr profile).mask)
      (hact : ppdProfileFromStr profile ≠ app.activeProfile) (err : GError)
      (he : (activateTargetProfile env (releaseAllProfileHolds app) (ppdProfileFromStr profile)
        .user).2 = .error err) :
      SetActiveProfileCase env app profile
        ((activateTargetProfile env (releaseAllProfileHolds app) (ppdProfileFromStr profile)
          .user).1, .error err)
  /-- The holds are released, the activation succeeds, and the profile is selected and
  announced. -/
  | switched (hu : ppdProfileFromStr profile ≠ .unset)
      (havail : getProfileAvailable app (ppdProfileFromStr profile).mask)
      (hact : ppdProfileFromStr profile ≠ app.activeProfile)
      (he : (activateTargetProfile env (releaseAllProfileHolds app) (ppdProfileFromStr profile)
        .user).2 = .ok ()) :
      SetActiveProfileCase env app profile
        (sendDbusEvent env
          { (activateTargetProfile env (releaseAllProfileHolds app) (ppdProfileFromStr profile)
              .user).1 with selectedProfile := ppdProfileFromStr profile }
          { activeProfile := true, activeProfileHolds := decide (app.profileHolds.size ≠ 0) },
          .ok ())

theorem setActiveProfileCase (env : Env) (app : PpdApp) (profile : String) :
    SetActiveProfileCase env app profile (setActiveProfile env app profile) := by
  unfold setActiveProfile
  dsimp only
  simp only [ite_releaseAllProfileHolds]
  split_ifs with hu havail hact
  · exact .invalid hu
  · exact .unavailable hu (by simpa using havail)
  · exact .same hu (by simpa using havail) hact
  split
  · exact .failed hu (by simpa using havail) hact _ ‹_›
  · exact .switched hu (by simpa using havail) hact ‹_›

/-- `set_active_profile` either returns at a guard, or releases every hold, runs an
activation, and on success records the selection and announces it. -/
theorem setActiveProfile_frame (env : Env) (app : PpdApp) (profile : String) :
    (setActiveProfile env app profile).1 = app ∨
    ∃ app1 selected, Transacts (releaseAllProfileHolds app) app1 ∧
      Transacts { app1 with selectedProfile := selected } (setActiveProfile env app profile).1 := by
  have hc := setActiveProfileCase env app profile
  generalize setActiveProfile env app profile = r at hc ⊢
  cases hc with
  | invalid | unavailable | same => exact .inl rfl
  | failed => exact .inr ⟨_, _, transacts_activateTargetProfile .., .refl _⟩
  | switched =>
    dsimp only
    exact .inr ⟨_, _, transacts_activateTargetProfile .., transacts_sendDbusEvent ..⟩

/-- The activation at the end of `release_profile_hold`, after the hold of profile
`holdProfile` is gone; the flag says whether it added `PROP_ACTIVE_PROFILE`. -/
def releaseProfileHoldActivate (env : Env) (app : PpdApp) (holdProfile : PpdProfile) :
    PpdApp × Bool :=
  if app.profileHolds.size = 0 ∧ holdProfile ≠ app.selectedProfile then
    ((activateTargetProfile env app app.selectedProfile .programHold).1, true)
  else if holdProfile = app.activeProfile then
    let nextProfile := effectiveHoldProfile app
    if nextProfile ≠ .unset ∧ nextProfile ≠ app.activeProfile then
      ((activateTargetProfile env app nextProfile .programHold).1, true)
    else (app, false)
  else (app, false)

theorem transacts_releaseProfileHoldActivate (env : Env) (app : PpdApp) (holdProfile : PpdProfile) :
    Transacts app (releaseProfileHoldActivate env app holdProfile).1 := by
  unfold releaseProfileHoldActivate
  dsimp only
  split_ifs <;> first | exact transacts_activateTargetProfile .. | exact .refl _

/-- `release_profile_hold`: unwatch, notify, remove, and fall back to the remaining
holds or to the selected profile. An unknown cookie is ignored. -/
def releaseProfileHold (env : Env) (app : PpdApp) (cookie : Nat) : PpdApp :=
  match app.profileHolds.lookup cookie with
  | none => app
  | some hold =>
    let app := releaseHoldNotify (gBusUnwatchName app cookie) hold cookie
    let app := { app with profileHolds := app.profileHolds.remove cookie }
    let r := releaseProfileHoldActivate env app hold.profile
    sendDbusEvent env r.1 { activeProfileHolds := true, activeProfile := r.2 }

/-- What `release_profile_hold` does to a present cookie: its watch is dropped, its
release signalled and its entry removed; the rest is a transaction. -/
theorem releaseProfileHold_of_lookup {env : Env} {app : PpdApp} {cookie : Nat} {hold : ProfileHold}
    (h : app.profileHolds.lookup cookie = some hold) :
    Transacts { app.emit [releaseSignal cookie hold] with
        watches := app.watches.filter (·.1 != cookie),
        profileHolds := app.profileHolds.remove cookie }
      (releaseProfileHold env app cookie) := by
  unfold releaseProfileHold
  rw [h]
  exact (transacts_releaseProfileHoldActivate ..).trans (transacts_sendDbusEvent ..)

theorem releaseProfileHold_of_not_mem {env : Env} {app : PpdApp} {cookie : Nat}
    (h : cookie ∉ app.profileHolds.keys) : releaseProfileHold env app cookie = app := by
  simp [releaseProfileHold, HoldTable.lookup_eq_none.mpr h]

/-- `release_profile_hold` removes the cookie's entry, whether or not it is present. -/
theorem releaseProfileHold_entries (env : Env) (app : PpdApp) (cookie : Nat) :
    (releaseProfileHold env app cookie).profileHolds.entries =
      app.profileHolds.entries.filter (·.1 != cookie) := by
  by_cases hc : cookie ∈ app.profileHolds.keys
  · obtain ⟨hold, hmem⟩ := HoldTable.mem_keys.mp hc
    rw [(releaseProfileHold_of_lookup (HoldTable.lookup_eq_some.mpr hmem)).profileHolds]
    rfl
  · rw [releaseProfileHold_of_not_mem hc, eq_comm, List.filter_eq_self]
    intro e he
    simpa [HoldTable.keys, ne_comm] using fun h => hc (List.mem_map.mpr ⟨e, he, h⟩)

/-- `holder_disappeared`: collect the cookies of the vanished peer, then release each. -/
def holderDisappeared (env : Env) (app : PpdApp) (name : String) : PpdApp :=
  ((app.profileHolds.entries.filter (·.2.requester = name)).map Prod.fst).foldl
    (releaseProfileHold env) app

/-- `holder_disappeared` releases the peer's cookies one at a time, so it keeps every
property of the state that `release_profile_hold` keeps. -/
theorem holderDisappeared_induction (env : Env) (name : String) {P : PpdApp → Prop}
    {app : PpdApp} (h : P app) (hrel : ∀ a c, P a → P (releaseProfileHold env a c)) :
    P (holderDisappeared env app name) := by
  unfold holderDisappeared
  generalize (app.profileHolds.entries.filter (·.2.requester = name)).map Prod.fst = cookies
  induction cookies generalizing app with
  | nil => exact h
  | cons c rest ih => exact ih (hrel app c h)

/-- `release_profile_hold` signals a present cookie once, and no other cookie. -/
theorem releaseProfileHold_filter (env : Env) (app : PpdApp) (cookie c : Nat) :
    (releaseProfileHold env app cookie).trace.filter (Emission.releasesCookie c) =
      app.trace.filter (Emission.releasesCookie c) ++
        if c = cookie then (app.profileHolds.entries.filter (·.1 = c)).map fun e => releaseSignal e.1 e.2
        else [] := by
  by_cases hc : cookie ∈ app.profileHolds.keys
  · obtain ⟨hold, hmem⟩ := HoldTable.mem_keys.mp hc
    rw [(releaseProfileHold_of_lookup (HoldTable.lookup_eq_some.mpr hmem)).filter_releasesCookie]
    show (app.trace ++ [releaseSignal cookie hold]).filter _ = _
    rw [List.filter_append]
    split_ifs with hcc
    · subst hcc
      simp [HoldTable.filter_key hmem, releaseSignal, Emission.releasesCookie]
    · simp [releaseSignal, Emission.releasesCookie, Ne.symm hcc]
  · rw [releaseProfileHold_of_not_mem hc]
    split_ifs with hcc
    · subst hcc
      simp [HoldTable.filter_fst_eq_nil hc]
    · simp

/-- Releasing cookies in turn removes their entries and signals each present one once,
at its first release. -/
theorem foldl_releaseProfileHold (env : Env) (cookies : List Nat) (app : PpdApp) :
    (cookies.foldl (releaseProfileHold env) app).profileHolds.entries =
      app.profileHolds.entries.filter (·.1 ∉ cookies) ∧
    ∀ c, (cookies.foldl (releaseProfileHold env) app).trace.filter (Emission.releasesCookie c) =
      app.trace.filter (Emission.releasesCookie c) ++
        if c ∈ cookies then (app.profileHolds.entries.filter (·.1 = c)).map fun e => releaseSignal e.1 e.2
        else [] := by
  induction cookies generalizing app with
  | nil => simp
  | cons c' rest ih =>
    obtain ⟨hent, htr⟩ := ih (releaseProfileHold env app c')
    rw [releaseProfileHold_entries] at hent htr
    simp only [List.foldl_cons]
    refine ⟨?_, fun c => ?_⟩
    · rw [hent, List.filter_filter]
      congr 1
      funext e
      by_cases h1 : e.1 = c' <;> by_cases h2 : e.1 ∈ rest <;> simp [h1, h2]
    rw [htr, releaseProfileHold_filter, List.append_assoc, List.filter_filter]
    by_cases hcc : c = c'
    · subst hcc
      have hnil : app.profileHolds.entries.filter (fun e => decide (e.1 = c) && (e.1 != c)) = [] :=
        List.filter_eq_nil_iff.mpr fun e _ h => by simp at h
      simp [hnil]
    · have hsame : app.profileHolds.entries.filter (fun e => decide (e.1 = c) && (e.1 != c')) =
          app.profileHolds.entries.filter (·.1 = c) :=
        List.filter_congr fun e _ => by by_cases h : e.1 = c <;> simp [h, hcc]
      simp [hcc, hsame]

/-- In a table with unique keys, a cookie is the vanished peer's exactly when its entry
is. -/
theorem mem_requester_cookies {t : HoldTable} {name : String} {c : Nat} :
    c ∈ (t.entries.filter (·.2.requester = name)).map Prod.fst ↔
      ∃ hold, (c, hold) ∈ t.entries ∧ hold.requester = name := by
  simp only [List.mem_map, List.mem_filter, decide_eq_true_eq]
  constructor
  · rintro ⟨⟨c', hold⟩, ⟨hm, hr⟩, rfl⟩
    exact ⟨hold, hm, hr⟩
  · rintro ⟨hold, hm, hr⟩
    exact ⟨(c, hold), ⟨hm, hr⟩, rfl⟩

/-- Releasing in turn a list of exactly the vanished peer's cookies keeps exactly the other
peers' holds, in their order, and signals each of the peer's holds once and no other. -/
theorem foldl_releaseProfileHold_requester (env : Env) (app : PpdApp) (name : String)
    {cookies : List Nat}
    (hmem : ∀ c, c ∈ cookies ↔ ∃ hold, (c, hold) ∈ app.profileHolds.entries ∧ hold.requester = name) :
    (cookies.foldl (releaseProfileHold env) app).profileHolds.entries =
      app.profileHolds.entries.filter (·.2.requester != name) ∧
    ∀ c hold, (c, hold) ∈ app.profileHolds.entries →
      (cookies.foldl (releaseProfileHold env) app).trace.filter (Emission.releasesCookie c) =
        app.trace.filter (Emission.releasesCookie c) ++
          if hold.requester = name then [releaseSignal c hold] else [] := by
  have hreq : ∀ c hold, (c, hold) ∈ app.profileHolds.entries → (c ∈ cookies ↔ hold.requester = name) :=
    fun c hold h => (hmem c).trans ⟨fun ⟨hold', hm, hr⟩ => by
      obtain rfl := (Prod.mk.inj (List.inj_on_of_nodup_map app.profileHolds.keys_nodup h hm rfl)).2
      exact hr, fun hr => ⟨hold, h, hr⟩⟩
  obtain ⟨hent, htr⟩ := foldl_releaseProfileHold env cookies app
  refine ⟨?_, fun c hold h => ?_⟩
  · rw [hent]
    exact List.filter_congr fun e he => by
      by_cases hr : e.2.requester = name <;> simp [hr, hreq e.1 e.2 he]
  · rw [htr, HoldTable.filter_key h]
    by_cases hr : hold.requester = name <;> simp [hr, hreq c hold h]

/-- `holder_disappeared` removes exactly the vanished peer's holds. -/
theorem holderDisappeared_entries (env : Env) (app : PpdApp) (name : String) :
    (holderDisappeared env app name).profileHolds.entries =
      app.profileHolds.entries.filter (·.2.requester != name) :=
  (foldl_releaseProfileHold_requester env app name fun _ => mem_requester_cookies).1

/-- `holder_disappeared` releases the cookies it collected, in whatever order the hash
table yielded them: it calls `release_profile_hold` once for each of the vanished peer's
holds and for nothing else, each such hold gets exactly one `ProfileReleased`, and the
registry keeps exactly the other peers' holds, in their order, none of them signalled. -/
theorem holderDisappeared_releases_each_once (env : Env) (app : PpdApp) (name : String)
    (cookies : List Nat)
    (horder : cookies.Perm ((app.profileHolds.entries.filter (·.2.requester = name)).map Prod.fst)) :
    cookies.Nodup ∧
    (∀ c, c ∈ cookies ↔ ∃ hold, (c, hold) ∈ app.profileHolds.entries ∧ hold.requester = name) ∧
    (cookies.foldl (releaseProfileHold env) app).profileHolds.entries =
      app.profileHolds.entries.filter (·.2.requester != name) ∧
    ∀ c hold, (c, hold) ∈ app.profileHolds.entries →
      (cookies.foldl (releaseProfileHold env) app).trace.filter (Emission.releasesCookie c) =
        app.trace.filter (Emission.releasesCookie c) ++
          if hold.requester = name then [releaseSignal c hold] else [] := by
  have hmem : ∀ c, c ∈ cookies ↔ ∃ hold, (c, hold) ∈ app.profileHolds.entries ∧ hold.requester = name :=
    fun c => horder.mem_iff.trans mem_requester_cookies
  exact ⟨horder.nodup_iff.mpr (app.profileHolds.keys_nodup.sublist ((List.filter_sublist _).map _)),
    hmem, foldl_releaseProfileHold_requester env app name hmem⟩

/-- Three holds of two peers; `:1.5` vanishes and its cookies come in the order opposite
to insertion. -/
def twoPeersHolds : PpdApp :=
  { initialApp ⟨none, none, none⟩ [] [] with
    profileHolds := ((HoldTable.empty.insert 1
      ⟨.performance, "video", "vlc", ":1.5", powerProfilesIfaceName⟩).insert 2
      ⟨.powerSaver, "battery", "gnome", ":1.6", powerProfilesIfaceName⟩).insert 3
      ⟨.performance, "build", "make", ":1.5", powerProfilesIfaceName⟩ }

theorem holderDisappeared_releases_each_once_twoPeers :
    [3, 1].Perm ((twoPeersHolds.profileHolds.entries.filter (·.2.requester = ":1.5")).map Prod.fst) ∧
    ([3, 1].Nodup ∧
    (∀ c, c ∈ [3, 1] ↔
      ∃ hold, (c, hold) ∈ twoPeersHolds.profileHolds.entries ∧ hold.requester = ":1.5") ∧
    ([3, 1].foldl (releaseProfileHold (Env.allSucceed "")) twoPeersHolds).profileHolds.entries =
      twoPeersHolds.profileHolds.entries.filter (·.2.requester != ":1.5") ∧
    ∀ c hold, (c, hold) ∈ twoPeersHolds.profileHolds.entries →
      ([3, 1].foldl (releaseProfileHold (Env.allSucceed "")) twoPeersHolds).trace.filter
          (Emission.releasesCookie c) =
        twoPeersHolds.trace.filter (Emission.releasesCookie c) ++
          if hold.requester = ":1.5" then [releaseSignal c hold] else []) :=
  have h : [3, 1].Perm
      ((twoPeersHolds.profileHolds.entries.filter (·.2.requester = ":1.5")).map Prod.fst) := by
    decide
  ⟨h, holderDisappeared_releases_each_once _ _ _ _ h⟩

/-- `holder_disappeared` itself, over the cookies it collects in the table's order: they are
distinct, the registry keeps exactly the other peers' holds, and each of the vanished peer's
holds gets exactly one `ProfileReleased`. -/
theorem holderDisappeared_releases (env : Env) (app : PpdApp) (name : String) :
    ((app.profileHolds.entries.filter (·.2.requester = name)).map Prod.fst).Nodup ∧
    (holderDisappeared env app name).profileHolds.entries =
      app.profileHolds.entries.filter (·.2.requester != name) ∧
    ∀ c hold, (c, hold) ∈ app.profileHolds.entries →
      (holderDisappeared env app name).trace.filter (Emission.releasesCookie c) =
        app.trace.filter (Emission.releasesCookie c) ++
          if hold.requester = name then [releaseSignal c hold] else [] :=
  ⟨app.profileHolds.keys_nodup.sublist ((List.filter_sublist _).map _),
    foldl_releaseProfileHold_requester env app name fun _ => mem_requester_cookies⟩

/-- The activation at the end of `hold_profile`; the flag says whether it added
`PROP_ACTIVE_PROFILE`. -/
def holdProfileActivate (env : Env) (app : PpdApp) (profile : PpdProfile) : PpdApp × Bool :=
  if profile ≠ app.activeProfile then
    let targetProfile := effectiveHoldProfile app
    if targetProfile ≠ .unset ∧ targetProfile ≠ app.activeProfile then
      ((activateTargetProfile env app targetProfile .programHold).1, true)
    else (app, false)
  else (app, false)

theorem transacts_holdProfileActivate (env : Env) (app : PpdApp) (profile : PpdProfile) :
    Transacts app (holdProfileActivate env app profile).1 := by
  unfold holdProfileActivate
  dsimp only
  split_ifs <;> first | exact transacts_activateTargetProfile .. | exact .refl _

/-- `hold_profile` for an authorized caller; `watchId` is the id that
`g_bus_watch_name_on_connection` returns for the caller's name. -/
def holdProfile (env : Env) (app : PpdApp) (sender iface profileName reason applicationId : String)
    (watchId : Nat) : PpdApp :=
  let profile := ppdProfileFromStr profileName
  if profile ≠ .performance ∧ profile ≠ .powerSaver then
    app.reply sender (.error ⟨.invalidArgs,
      "Only profiles \x27performance\x27 and \x27power-saver\x27 can be a hold profile"⟩)
  else if !getProfileAvailable app profile.mask then
    app.reply sender (.error ⟨.invalidArgs,
      "Cannot hold profile " ++ quoted profileName ++ " as it is not available"⟩)
  else
    let hold : ProfileHold := ⟨profile, reason, applicationId, sender, iface⟩
    let app := { app with watches := app.watches ++ [(watchId, sender)] }
    let app := { app with profileHolds := app.profileHolds.insert watchId hold,
                          issued := app.issued ++ [(watchId, hold)] }
    let app := app.reply sender (.ok (some (.uint32 watchId)))
    let r := holdProfileActivate env app profile
    sendDbusEvent env r.1 { activeProfileHolds := true, activeProfile := r.2 }

/-- `hold_profile` either refuses, or records the hold and its watch, replies with the
cookie, and runs a transaction. -/
theorem holdProfile_cases (env : Env) (app : PpdApp)
    (sender iface profileName reason applicationId : String) (watchId : Nat) :
    (∃ err, holdProfile env app sender iface profileName reason applicationId watchId =
      app.reply sender (.error err)) ∨
    ((ppdProfileFromStr profileName = .performance ∨ ppdProfileFromStr profileName = .powerSaver) ∧
      getProfileAvailable app (ppdProfileFromStr profileName).mask ∧
      Transacts { app.reply sender (.ok (some (.uint32 watchId))) with
          watches := app.watches ++ [(watchId, sender)],
          profileHolds := app.profileHolds.insert watchId
            ⟨ppdProfileFromStr profileName, reason, applicationId, sender, iface⟩,
          issued := app.issued ++
            [(watchId, ⟨ppdProfileFromStr profileName, reason, applicationId, sender, iface⟩)] }
        (holdProfile env app sender iface profileName reason applicationId watchId)) := by
  unfold holdProfile
  dsimp only
  split_ifs with hp havail
  · exact .inl ⟨_, rfl⟩
  · exact .inl ⟨_, rfl⟩
  · exact .inr ⟨or_iff_not_and_not.mpr hp, by simpa using havail,
      (transacts_holdProfileActivate ..).trans (transacts_sendDbusEvent ..)⟩

/-- `release_profile`: any caller may release any known cookie. -/
def releaseProfile (env : Env) (app : PpdApp) (sender : String) (cookie : Nat) : PpdApp :=
  if !app.profileHolds.contains cookie then
    app.reply sender (.error ⟨.invalidArgs, "No hold with cookie  " ++ toString cookie⟩)
  else (releaseProfileHold env app cookie).reply sender (.ok none)

/-- `release_profile` refuses an unknown cookie and releases a known one. -/
theorem releaseProfile_cases (env : Env) (app : PpdApp) (sender : String) (cookie : Nat) :
    (cookie ∉ app.profileHolds.keys ∧
      ∃ err, releaseProfile env app sender cookie = app.reply sender (.error err)) ∨
    (cookie ∈ app.profileHolds.keys ∧
      releaseProfile env app sender cookie = (releaseProfileHold env app cookie).reply sender (.ok none)) := by
  unfold releaseProfile
  split_ifs with h
  · exact .inl ⟨by simpa using h, _, rfl⟩
  · exact .inr ⟨by simpa using h, rfl⟩

end PowerProfiles
