import PowerProfiles.Cookies

/-!
# The registry as clients see it

An abstract model of the hold registry: one update of the entries for each event, as
the bus handlers, `holder_disappeared` and the restart make it, and a theorem that
`step` computes it in every state with the cookie bookkeeping. At this level a hold
leaves only through a `ReleaseProfile` of its cookie, which any peer may send, its
requester's disappearance, an `ActiveProfile` set, a restart or the end of the loop;
so a peer's holds do not depend on another peer's requests when nobody sets the profile
and the other peer never releases the first one's cookies.
-/

namespace PowerProfiles

/-- The interfaces `handle_method_call` serves. -/
def knownIface (iface : String) : Prop :=
  iface = powerProfilesIfaceName ∨ iface = powerProfilesLegacyIfaceName

instance (iface : String) : Decidable (knownIface iface) :=
  inferInstanceAs (Decidable (_ ∨ _))

/-- `hold_profile` records a call: a served interface, an authorized caller, and a
holdable, available profile. -/
def holdAccepted (app : PpdApp) (iface profileName : String) (auth : PolkitResult) : Prop :=
  knownIface iface ∧ auth = .authorized ∧
    (ppdProfileFromStr profileName = .performance ∨ ppdProfileFromStr profileName = .powerSaver) ∧
    getProfileAvailable app (ppdProfileFromStr profileName).mask

instance (app : PpdApp) (iface profileName : String) (auth : PolkitResult) :
    Decidable (holdAccepted app iface profileName auth) :=
  inferInstanceAs (Decidable (_ ∧ _))

/-- `set_active_profile` passes its guards and releases every hold: an authorized set
of an available profile other than the active one. -/
def setReleases (app : PpdApp) (propertyName value : String) (auth : PolkitResult) : Prop :=
  propertyName = "ActiveProfile" ∧ auth = .authorized ∧ ppdProfileFromStr value ≠ .unset ∧
    getProfileAvailable app (ppdProfileFromStr value).mask ∧
    ppdProfileFromStr value ≠ app.activeProfile

instance (app : PpdApp) (propertyName value : String) (auth : PolkitResult) :
    Decidable (setReleases app propertyName value auth) :=
  inferInstanceAs (Decidable (_ ∧ _))

/-- The registry's entries after one event of a running loop. -/
def registryUpdate (app : PpdApp) : Event → List (Nat × ProfileHold) → List (Nat × ProfileHold)
  | .setProperty _ propertyName value auth, l =>
    if setReleases app propertyName value auth then [] else l
  | .methodCall sender iface (.holdProfile profileName reason applicationId watchId) auth, l =>
    if holdAccepted app iface profileName auth then
      l ++ [(watchId, ⟨ppdProfileFromStr profileName, reason, applicationId, sender, iface⟩)]
    else l
  | .methodCall _ iface (.releaseProfile cookie) _, l =>
    if knownIface iface then l.filter (·.1 != cookie) else l
  | .methodCall _ _ (.other _) _, l => l
  | .nameVanished name, l => l.filter (·.2.requester != name)
  | .probeRequest _, l => if app.probedDrivers = [] then l else []
  | .quit, _ => []
  | .profileChanged .., l | .performanceDegradedChanged .., l | .drmUevent .., l => l

theorem setActiveProfile_entries (env : Env) (app : PpdApp) (value : String) :
    (setActiveProfile env app value).1.profileHolds.entries =
      if ppdProfileFromStr value ≠ .unset ∧ getProfileAvailable app (ppdProfileFromStr value).mask ∧
        ppdProfileFromStr value ≠ app.activeProfile then []
      else app.profileHolds.entries := by
  have hc := setActiveProfileCase env app value
  generalize setActiveProfile env app value = r at hc ⊢
  cases hc with
  | invalid hu => exact (if_neg fun h => h.1 hu).symm
  | unavailable hu havail => exact (if_neg fun h => havail h.2.1).symm
  | same hu havail hact => exact (if_neg fun h => h.2.2 hact).symm
  | failed hu havail hact | switched hu havail hact =>
    rw [if_pos ⟨hu, havail, hact⟩]
    simp [releaseAllProfileHolds_eq]

theorem holdProfile_entries (env : Env) (app : PpdApp)
    (sender iface profileName reason applicationId : String) {watchId : Nat}
    (hkey : watchId ∉ app.profileHolds.keys) :
    (holdProfile env app sender iface profileName reason applicationId watchId).profileHolds.entries =
      if (ppdProfileFromStr profileName = .performance ∨
          ppdProfileFromStr profileName = .powerSaver) ∧
        getProfileAvailable app (ppdProfileFromStr profileName).mask then
        app.profileHolds.entries ++
          [(watchId, ⟨ppdProfileFromStr profileName, reason, applicationId, sender, iface⟩)]
      else app.profileHolds.entries := by
  unfold holdProfile
  dsimp only
  by_cases hc : (ppdProfileFromStr profileName = .performance ∨
      ppdProfileFromStr profileName = .powerSaver) ∧
    getProfileAvailable app (ppdProfileFromStr profileName).mask
  · obtain ⟨hp, havail⟩ := hc
    rw [if_neg fun h => hp.elim h.1 h.2, if_neg (by simpa using havail), if_pos ⟨hp, havail⟩,
      ((transacts_holdProfileActivate ..).trans (transacts_sendDbusEvent ..)).profileHolds]
    exact HoldTable.insert_of_not_mem _ hkey
  · rw [if_neg hc]
    split_ifs with h1 h2
    · rfl
    · rfl
    · exact absurd ⟨or_iff_not_and_not.mpr h1, by simpa using h2⟩ hc

theorem releaseProfile_entries (env : Env) (app : PpdApp) (sender : String) (cookie : Nat) :
    (releaseProfile env app sender cookie).profileHolds.entries =
      app.profileHolds.entries.filter (·.1 != cookie) := by
  have hrel := releaseProfileHold_entries env app cookie
  rcases releaseProfile_cases env app sender cookie with ⟨hc, err, h⟩ | ⟨-, h⟩
  · rw [releaseProfileHold_of_not_mem hc] at hrel
    rw [h]
    exact hrel
  · rw [h]
    exact hrel

/-- With no watch on a name, no hold belongs to it. -/
theorem CookieInv.filter_requester_of_not_watched {app : PpdApp} (hinv : CookieInv app)
    {name : String} (hw : ∀ c, (c, name) ∉ app.watches) :
    app.profileHolds.entries.filter (·.2.requester != name) = app.profileHolds.entries := by
  refine List.filter_eq_self.mpr fun e he => ?_
  have hm : (e.1, e.2.requester) ∈ app.watches := (hinv.watches_iff _ _).mpr ⟨e.2, he, rfl⟩
  simp only [bne_iff_ne, ne_eq]
  intro h
  exact hw e.1 (h ▸ hm)

/-- `step` computes the abstract registry update in every state with the cookie
bookkeeping, for a fresh watch id. -/
theorem step_entries (env : Env) (app : PpdApp) (e : Event) (hinv : CookieInv app)
    (hfresh : e.FreshWatchId app) :
    (step env app e).profileHolds.entries =
      if app.loopRunning then registryUpdate app e app.profileHolds.entries
      else app.profileHolds.entries := by
  unfold step
  split_ifs with hrun
  swap
  · rfl
  cases e with
  | setProperty sender name value auth =>
    show (handleSetProperty env app name value auth).1.profileHolds.entries = _
    simp only [registryUpdate, setReleases]
    rcases handleSetProperty_cases env app name value auth with ⟨hne, err, h⟩ | ⟨rfl, rfl, h⟩
    · rw [h, if_neg]
      rintro ⟨h1, h2, -⟩
      exact hne.elim (· h1) (· h2)
    · rw [h, setActiveProfile_entries]
      simp
  | methodCall sender iface call auth =>
    show (handleMethodCall env app sender iface call auth).profileHolds.entries =
      registryUpdate app (.methodCall sender iface call auth) app.profileHolds.entries
    unfold handleMethodCall
    by_cases hif : knownIface iface
    · rw [if_neg fun h => hif.elim h.1 h.2]
      cases call with
      | holdProfile profileName reason applicationId watchId =>
        simp only [registryUpdate, holdAccepted, hif, true_and]
        cases auth with
        | authorized =>
          exact (holdProfile_entries env app sender iface profileName reason applicationId
            fun hc => hfresh (hinv.mem_issued hc)).trans (by simp)
        | _ => rfl
      | releaseProfile cookie =>
        simp only [registryUpdate, if_pos hif]
        exact releaseProfile_entries ..
      | other methodName => rfl
    · rw [if_pos (by simpa [knownIface, not_or] using hif)]
      cases call <;> simp [registryUpdate, holdAccepted, hif, PpdApp.reply]
  | nameVanished name =>
    simp only [dispatch, registryUpdate]
    split_ifs with hw
    · exact holderDisappeared_entries ..
    · exact (hinv.filter_requester_of_not_watched (by simpa using hw)).symm
  | profileChanged kind profile =>
    simp only [dispatch, registryUpdate]
    split_ifs
    · rw [(transacts_driverProfileChangedCb ..).profileHolds]
    · rfl
  | performanceDegradedChanged kind degraded =>
    exact congrArg HoldTable.entries (keepsHolds_setPerformanceDegraded ..).profileHolds
  | probeRequest backends =>
    simp only [dispatch, registryUpdate]
    split_ifs
    · rfl
    · rw [(keepsHolds_startProfileDrivers ..).profileHolds]
      rfl
  | drmUevent action hasDpmAttr =>
    exact congrArg HoldTable.entries (keepsHolds_foldl_actionUevent ..).profileHolds
  | quit => rfl

/-! ### Client events -/

/-- The peer an event comes from: the sender of a request, or the name that vanished. -/
def Event.peer : Event → Option String
  | .setProperty sender .. | .methodCall sender .. => some sender
  | .nameVanished name => some name
  | _ => none

/-- The watch id of an event's `HoldProfile` call. -/
def Event.watchIds : Event → List Nat
  | .methodCall _ _ (.holdProfile _ _ _ watchId) _ => [watchId]
  | _ => []

/-- `app'` has the drivers and the loop state of `app`. -/
structure KeepsDrivers (app app' : PpdApp) : Prop where
  cpuDriver : app'.cpuDriver = app.cpuDriver
  platformDriver : app'.platformDriver = app.platformDriver
  loopRunning : app'.loopRunning = app.loopRunning

namespace KeepsDrivers

theorem trans {a b c : PpdApp} (h1 : KeepsDrivers a b) (h2 : KeepsDrivers b c) :
    KeepsDrivers a c :=
  ⟨h2.1.trans h1.1, h2.2.trans h1.2, h2.3.trans h1.3⟩

theorem symm {a b : PpdApp} (h : KeepsDrivers a b) : KeepsDrivers b a :=
  ⟨h.1.symm, h.2.symm, h.3.symm⟩

theorem of_transacts {a b : PpdApp} (h : Transacts a b) : KeepsDrivers a b :=
  ⟨h.cpuDriver, h.platformDriver, h.loopRunning⟩

end KeepsDrivers

theorem keepsDrivers_releaseProfileHold (env : Env) (app : PpdApp) (cookie : Nat) :
    KeepsDrivers app (releaseProfileHold env app cookie) := by
  by_cases hc : cookie ∈ app.profileHolds.keys
  · obtain ⟨hold, hmem⟩ := HoldTable.mem_keys.mp hc
    have ht := @releaseProfileHold_of_lookup env app cookie hold (HoldTable.lookup_eq_some.mpr hmem)
    exact ⟨ht.cpuDriver, ht.platformDriver, ht.loopRunning⟩
  · rw [releaseProfileHold_of_not_mem hc]
    exact ⟨rfl, rfl, rfl⟩

theorem keepsDrivers_holderDisappeared (env : Env) (app : PpdApp) (name : String) :
    KeepsDrivers app (holderDisappeared env app name) :=
  holderDisappeared_induction env name ⟨rfl, rfl, rfl⟩ fun a c ha =>
    ha.trans (keepsDrivers_releaseProfileHold env a c)

theorem keepsDrivers_setActiveProfile (env : Env) (app : PpdApp) (value : String) :
    KeepsDrivers app (setActiveProfile env app value).1 := by
  rcases setActiveProfile_frame env app value with h | ⟨app1, sel, h1, h2⟩
  · rw [h]
    exact ⟨rfl, rfl, rfl⟩
  · have hrel : KeepsDrivers app (releaseAllProfileHolds app) := by
      rw [releaseAllProfileHolds_eq]
      exact ⟨rfl, rfl, rfl⟩
    exact hrel.trans ((KeepsDrivers.of_transacts h1).trans
      ((⟨rfl, rfl, rfl⟩ : KeepsDrivers app1 { app1 with selectedProfile := sel }).trans
        (.of_transacts h2)))

/-- Client requests and disappearances leave the drivers and the loop alone. -/
theorem keepsDrivers_step_peer (env : Env) (app : PpdApp) (e : Event) (he : e.peer ≠ none) :
    KeepsDrivers app (step env app e) := by
  have hs := stepCase env app e
  generalize step env app e = s at hs
  cases hs with
  | same => exact ⟨rfl, rfl, rfl⟩
  | refuse => exact ⟨rfl, rfl, rfl⟩
  | set sender value => exact (keepsDrivers_setActiveProfile env app value).trans ⟨rfl, rfl, rfl⟩
  | hold sender iface profileName reason applicationId watchId =>
    rcases holdProfile_cases env app sender iface profileName reason applicationId watchId with
      ⟨err, h⟩ | ⟨-, -, ht⟩
    · rw [h]
      exact ⟨rfl, rfl, rfl⟩
    · exact ⟨ht.cpuDriver, ht.platformDriver, ht.loopRunning⟩
  | release sender iface cookie auth =>
    exact (keepsDrivers_releaseProfileHold env app cookie).trans ⟨rfl, rfl, rfl⟩
  | vanish name => exact keepsDrivers_holderDisappeared env app name
  | _ => exact absurd rfl he

theorem setActiveProfile_issued (env : Env) (app : PpdApp) (value : String) :
    (setActiveProfile env app value).1.issued = app.issued := by
  rcases setActiveProfile_frame env app value with h | ⟨app1, sel, h1, h2⟩
  · rw [h]
  · rw [h2.issued]
    exact h1.issued.trans (by rw [releaseAllProfileHolds_eq])

theorem releaseProfileHold_issued (env : Env) (app : PpdApp) (cookie : Nat) :
    (releaseProfileHold env app cookie).issued = app.issued := by
  by_cases hc : cookie ∈ app.profileHolds.keys
  · obtain ⟨hold, hmem⟩ := HoldTable.mem_keys.mp hc
    exact (releaseProfileHold_of_lookup (HoldTable.lookup_eq_some.mpr hmem)).issued
  · rw [releaseProfileHold_of_not_mem hc]

theorem holderDisappeared_issued (env : Env) (app : PpdApp) (name : String) :
    (holderDisappeared env app name).issued = app.issued :=
  holderDisappeared_induction env name (P := fun a => a.issued = app.issued) rfl fun a c ha =>
    (releaseProfileHold_issued env a c).trans ha

/-- The ghost log grows only by the hold of a `HoldProfile` call. -/
theorem step_issued_subset (env : Env) (app : PpdApp) (e : Event) :
    ∀ x ∈ (step env app e).issued, x ∈ app.issued ∨ x.1 ∈ e.watchIds := by
  suffices h : (step env app e).issued = app.issued ∨
      ∃ x, x.1 ∈ e.watchIds ∧ (step env app e).issued = app.issued ++ [x] by
    intro y hy
    rcases h with h | ⟨x, hx, h⟩
    · exact .inl (h ▸ hy)
    · rw [h, List.mem_append, List.mem_singleton] at hy
      rcases hy with hy | rfl
      exacts [.inl hy, .inr hx]
  have hs := stepCase env app e
  generalize step env app e = s at hs ⊢
  cases hs with
  | same => exact .inl rfl
  | refuse => exact .inl rfl
  | set sender value => exact .inl (setActiveProfile_issued env app value)
  | hold sender iface profileName reason applicationId watchId =>
    rcases holdProfile_cases env app sender iface profileName reason applicationId watchId with
      ⟨err, h⟩ | ⟨-, -, ht⟩
    · exact .inl (by rw [h]; rfl)
    · exact .inr ⟨_, by simp [Event.watchIds], ht.issued⟩
  | release sender iface cookie auth => exact .inl (releaseProfileHold_issued env app cookie)
  | vanish name => exact .inl (holderDisappeared_issued env app name)
  | profileChanged => exact .inl (transacts_driverProfileChangedCb ..).issued
  | degraded => exact .inl (keepsHolds_setPerformanceDegraded ..).issued
  | restart backends =>
    refine .inl ((keepsHolds_startProfileDrivers ..).issued.trans ?_)
    simp [stopProfileDrivers, releaseAllProfileHolds_eq]
  | uevent => exact .inl (keepsHolds_foldl_actionUevent ..).issued
  | quit => exact .inl (by simp [stopProfileDrivers, releaseAllProfileHolds_eq])

/-! ### One peer's holds -/

/-- The holds of a peer in a registry, in iteration order. -/
def holdsOf (l : List (Nat × ProfileHold)) (peer : String) : List (Nat × ProfileHold) :=
  l.filter (·.2.requester = peer)

/-- An event that is not an `ActiveProfile` set. -/
def Event.NotProfileSet (e : Event) : Prop :=
  ∀ sender value auth, e ≠ .setProperty sender "ActiveProfile" value auth

theorem getProfileAvailable_congr {app app' : PpdApp} (h : KeepsDrivers app app')
    (m : ProfileMask) : getProfileAvailable app' m = getProfileAvailable app m := by
  simp only [getProfileAvailable, h.cpuDriver, h.platformDriver]

/-- On client events other than profile sets, the update reads the state only through
the drivers. -/
theorem registryUpdate_congr {app app' : PpdApp} (h : KeepsDrivers app app') {e : Event}
    (he : e.peer ≠ none) (hset : e.NotProfileSet) : registryUpdate app' e = registryUpdate app e := by
  cases e with
  | setProperty sender name value auth =>
    have hne : name ≠ "ActiveProfile" := fun hn => hset sender value auth (by rw [hn])
    funext l
    simp [registryUpdate, setReleases, hne]
  | methodCall sender iface call auth =>
    funext l
    cases call with
    | holdProfile profileName reason applicationId watchId =>
      simp only [registryUpdate, holdAccepted, getProfileAvailable_congr h]
    | _ => rfl
  | nameVanished name => rfl
  | _ => exact absurd rfl he

/-- A peer's own events act on its holds as on the whole registry. -/
theorem holdsOf_registryUpdate_own (app : PpdApp) {a : String} {e : Event} (he : e.peer = some a)
    (hset : e.NotProfileSet) (l : List (Nat × ProfileHold)) :
    holdsOf (registryUpdate app e l) a = registryUpdate app e (holdsOf l a) := by
  cases e with
  | setProperty sender name value auth =>
    have hne : name ≠ "ActiveProfile" := fun hn => hset sender value auth (by rw [hn])
    simp [registryUpdate, setReleases, hne]
  | methodCall sender iface call auth =>
    cases he
    cases call with
    | holdProfile profileName reason applicationId watchId =>
      simp only [registryUpdate]
      split_ifs <;> simp [holdsOf, List.filter_append]
    | releaseProfile cookie =>
      simp only [registryUpdate]
      split_ifs
      · simp only [holdsOf, List.filter_filter, Bool.and_comm]
      · rfl
    | other methodName => rfl
  | nameVanished name =>
    cases he
    simp [registryUpdate, holdsOf, List.filter_filter, Bool.and_comm]
  | _ => cases he

/-- Another peer's events leave a peer's holds alone, unless they release one of its
cookies. -/
theorem holdsOf_registryUpdate_other (app : PpdApp) {a b : String} (hab : a ≠ b) {e : Event}
    (he : e.peer = some b) (hset : e.NotProfileSet) (l : List (Nat × ProfileHold))
    (hsteal : ∀ iface cookie auth, e = .methodCall b iface (.releaseProfile cookie) auth →
      cookie ∉ (holdsOf l a).map Prod.fst) :
    holdsOf (registryUpdate app e l) a = holdsOf l a := by
  cases e with
  | setProperty sender name value auth =>
    have hne : name ≠ "ActiveProfile" := fun hn => hset sender value auth (by rw [hn])
    simp [registryUpdate, setReleases, hne]
  | methodCall sender iface call auth =>
    cases he
    cases call with
    | holdProfile profileName reason applicationId watchId =>
      simp only [registryUpdate]
      split_ifs <;> simp [holdsOf, List.filter_append, Ne.symm hab]
    | releaseProfile cookie =>
      simp only [registryUpdate]
      split_ifs
      · have hc := hsteal iface cookie auth rfl
        simp only [holdsOf, List.filter_filter]
        refine List.filter_congr fun x hx => ?_
        by_cases hreq : x.2.requester = a
        · have : x.1 ≠ cookie := fun h => hc (List.mem_map.mpr ⟨x, by simp [holdsOf, hx, hreq], h⟩)
          simp [hreq, this]
        · simp [hreq]
      · rfl
    | other methodName => rfl
  | nameVanished name =>
    cases he
    simp only [registryUpdate, holdsOf, List.filter_filter]
    refine List.filter_congr fun x _ => ?_
    by_cases hreq : x.2.requester = a <;> simp [hreq, hab]
  | _ => cases he

/-- A registry update adds only the event's own watch id. -/
theorem registryUpdate_keys_subset (app : PpdApp) (e : Event) (l : List (Nat × ProfileHold)) :
    ∀ x ∈ registryUpdate app e l, x ∈ l ∨ x.1 ∈ e.watchIds := by
  intro x hx
  cases e with
  | methodCall sender iface call auth =>
    cases call with
    | holdProfile profileName reason applicationId watchId =>
      simp only [registryUpdate] at hx
      split_ifs at hx
      · rcases List.mem_append.mp hx with hx | hx
        · exact .inl hx
        · simp at hx
          simp [hx, Event.watchIds]
      · exact .inl hx
    | releaseProfile cookie =>
      simp only [registryUpdate] at hx
      split_ifs at hx
      exacts [.inl (List.mem_of_mem_filter hx), .inl hx]
    | other methodName => exact .inl hx
  | setProperty sender name value auth =>
    simp only [registryUpdate] at hx
    split_ifs at hx
    exacts [absurd hx (List.not_mem_nil _), .inl hx]
  | nameVanished name => exact .inl (List.mem_of_mem_filter hx)
  | probeRequest backends =>
    simp only [registryUpdate] at hx
    split_ifs at hx
    exacts [.inl hx, absurd hx (List.not_mem_nil _)]
  | quit => exact absurd hx (List.not_mem_nil _)
  | profileChanged _ _ | performanceDegradedChanged _ _ | drmUevent _ _ => exact .inl hx

/-- An entry leaves the registry only through a release of its cookie, its requester's
disappearance, an authorized `ActiveProfile` set, a restart or the end of the loop. -/
theorem registryUpdate_removes (app : PpdApp) {e : Event} {l : List (Nat × ProfileHold)}
    {c : Nat} {hold : ProfileHold} (hmem : (c, hold) ∈ l)
    (hgone : (c, hold) ∉ registryUpdate app e l) :
    (∃ sender iface auth, e = .methodCall sender iface (.releaseProfile c) auth) ∨
      e = .nameVanished hold.requester ∨
      (∃ sender value, e = .setProperty sender "ActiveProfile" value .authorized) ∨
      (∃ backends, e = .probeRequest backends) ∨ e = .quit := by
  cases e with
  | setProperty sender name value auth =>
    simp only [registryUpdate] at hgone
    split_ifs at hgone with hs
    · obtain ⟨rfl, rfl, -⟩ := hs
      exact .inr (.inr (.inl ⟨sender, value, rfl⟩))
    · exact absurd hmem hgone
  | methodCall sender iface call auth =>
    cases call with
    | holdProfile profileName reason applicationId watchId =>
      simp only [registryUpdate] at hgone
      split_ifs at hgone
      exacts [absurd (List.mem_append_left _ hmem) hgone, absurd hmem hgone]
    | releaseProfile cookie =>
      simp only [registryUpdate] at hgone
      split_ifs at hgone
      · obtain rfl : c = cookie := by
          by_contra hne
          exact hgone (List.mem_filter.mpr ⟨hmem, by simpa using hne⟩)
        exact .inl ⟨sender, iface, auth, rfl⟩
      · exact absurd hmem hgone
    | other methodName => exact absurd hmem hgone
  | nameVanished name =>
    obtain rfl : hold.requester = name := by
      by_contra hne
      exact hgone (List.mem_filter.mpr ⟨hmem, by simpa using hne⟩)
    exact .inr (.inl rfl)
  | probeRequest backends => exact .inr (.inr (.inr (.inl ⟨backends, rfl⟩)))
  | quit => exact .inr (.inr (.inr (.inr rfl)))
  | profileChanged _ _ | performanceDegradedChanged _ _ | drmUevent _ _ => exact absurd hmem hgone

theorem Event.FreshWatchId.not_mem {app : PpdApp} {e : Event} (h : e.FreshWatchId app) {w : Nat}
    (hw : w ∈ e.watchIds) : w ∉ app.issued.map Prod.fst := by
  cases e with
  | methodCall sender iface call auth =>
    cases call with
    | holdProfile profileName reason applicationId watchId =>
      rw [List.mem_singleton.mp hw]
      exact h
    | _ => cases hw
  | _ => cases hw

/-- In every reachable state the registry's cookies are exactly the live watches, each
on its hold's requester; a cookie still in the registry has never been released, and
every issued cookie that has left it was released exactly once, with the
`ProfileReleased` of its own hold, to its requester on the path of its interface. A
cookie that has left never comes back. -/
theorem reachable_cookie_accounting (env : Env) (app : PpdApp) (h : Reachable env app) :
    CookieInv app ∧ ∀ e, e.FreshWatchId app → ∀ c ∈ app.issued.map Prod.fst,
      c ∉ app.profileHolds.keys → c ∉ (step env app e).profileHolds.keys := by
  refine ⟨h.cookieInv, fun e hfresh c hc hout hin => ?_⟩
  obtain ⟨x, hx, rfl⟩ := List.mem_map.mp hin
  rw [step_entries env app e h.cookieInv hfresh] at hx
  split_ifs at hx
  · rcases registryUpdate_keys_subset app e _ x hx with hx | hx
    · exact hout (List.mem_map.mpr ⟨x, hx, rfl⟩)
    · exact hfresh.not_mem hx hc
  · exact hout (List.mem_map.mpr ⟨x, hx, rfl⟩)

theorem reachable_cookie_accounting_performanceHeld :
    Reachable (Env.allSucceed "") performanceHeld ∧
      (CookieInv performanceHeld ∧ ∀ e, e.FreshWatchId performanceHeld →
        ∀ c ∈ performanceHeld.issued.map Prod.fst, c ∉ performanceHeld.profileHolds.keys →
          c ∉ (step (Env.allSucceed "") performanceHeld e).profileHolds.keys) :=
  have h : Reachable (Env.allSucceed "") performanceHeld :=
    .step (.methodCall ":1.5" powerProfilesIfaceName (.holdProfile "performance" "video" "vlc" 1)
      .authorized) (.start ⟨none, none, none⟩ [] [] [.driver .cpu ppdDriverIntelPstate .success])
      (by decide)
  ⟨h, reachable_cookie_accounting _ _ h⟩

/-! ### Two peers -/

/-- The watch ids of a run's `HoldProfile` calls are distinct and were never issued. -/
def FreshIds (app : PpdApp) (events : List Event) : Prop :=
  (events.flatMap Event.watchIds).Nodup ∧
    ∀ w ∈ events.flatMap Event.watchIds, w ∉ app.issued.map Prod.fst

theorem FreshIds.head {app : PpdApp} {e : Event} {rest : List Event}
    (h : FreshIds app (e :: rest)) : e.FreshWatchId app := by
  cases e with
  | methodCall sender iface call auth =>
    cases call with
    | holdProfile profileName reason applicationId watchId =>
      exact h.2 watchId (by simp [Event.watchIds])
    | _ => trivial
  | _ => trivial

theorem FreshIds.tail {env : Env} {app : PpdApp} {e : Event} {rest : List Event}
    (h : FreshIds app (e :: rest)) : FreshIds (step env app e) rest := by
  obtain ⟨hnd, hfr⟩ := h
  rw [List.flatMap_cons, List.nodup_append] at hnd
  refine ⟨hnd.2.1, fun w hw hmem => ?_⟩
  obtain ⟨x, hx, rfl⟩ := List.mem_map.mp hmem
  rcases step_issued_subset env app e x hx with h | h
  · exact hfr x.1 (by simp [hw]) (List.mem_map.mpr ⟨x, h, rfl⟩)
  · exact hnd.2.2 h hw

theorem flatMap_watchIds_filter_sublist (events : List Event) (p : Event → Bool) :
    List.Sublist ((events.filter p).flatMap Event.watchIds) (events.flatMap Event.watchIds) := by
  induction events with
  | nil => exact .slnil
  | cons e rest ih =>
    by_cases hp : p e
    · simp only [List.filter_cons_of_pos hp, List.flatMap_cons]
      exact ih.append_left _
    · simp only [List.filter_cons_of_neg hp, List.flatMap_cons]
      exact ih.trans (List.sublist_append_right _ _)

theorem FreshIds.filter {app : PpdApp} {events : List Event} (h : FreshIds app events)
    (p : Event → Bool) : FreshIds app (events.filter p) :=
  ⟨h.1.sublist (flatMap_watchIds_filter_sublist events p),
    fun w hw => h.2 w ((flatMap_watchIds_filter_sublist events p).subset hw)⟩

/-- Two runs that agree on the holds of peer `a`, with the cookie bookkeeping and the
same drivers and loop state. -/
structure PeerSim (a : String) (r r' : PpdApp) : Prop where
  holds : holdsOf r.profileHolds.entries a = holdsOf r'.profileHolds.entries a
  inv : CookieInv r
  inv' : CookieInv r'
  drivers : KeepsDrivers r r'

/-- An event of `a` taken by both runs keeps them in step. -/
theorem PeerSim.step_both {env : Env} {a : String} {r r' : PpdApp} (hs : PeerSim a r r')
    {e : Event} (he : e.peer = some a) (hset : e.NotProfileSet) (hfresh : e.FreshWatchId r)
    (hfresh' : e.FreshWatchId r') : PeerSim a (step env r e) (step env r' e) := by
  have hpeer : e.peer ≠ none := by simp [he]
  refine ⟨?_, cookieInv_step hs.inv e hfresh, cookieInv_step hs.inv' e hfresh',
    (keepsDrivers_step_peer env r e hpeer).symm.trans
      (hs.drivers.trans (keepsDrivers_step_peer env r' e hpeer))⟩
  rw [step_entries env r e hs.inv hfresh, step_entries env r' e hs.inv' hfresh',
    hs.drivers.loopRunning]
  split_ifs
  · rw [holdsOf_registryUpdate_own r he hset, holdsOf_registryUpdate_own r' he hset, hs.holds,
      registryUpdate_congr hs.drivers hpeer hset]
  · exact hs.holds

/-- An event of another peer taken by the first run only keeps the runs in step, unless
it releases one of `a`'s cookies. -/
theorem PeerSim.step_left {env : Env} {a b : String} {r r' : PpdApp} (hs : PeerSim a r r')
    (hab : a ≠ b) {e : Event} (he : e.peer = some b) (hset : e.NotProfileSet)
    (hfresh : e.FreshWatchId r)
    (hsteal : ∀ iface cookie auth, e = .methodCall b iface (.releaseProfile cookie) auth →
      cookie ∉ (holdsOf r.profileHolds.entries a).map Prod.fst) :
    PeerSim a (step env r e) r' := by
  have hpeer : e.peer ≠ none := by simp [he]
  refine ⟨?_, cookieInv_step hs.inv e hfresh, hs.inv',
    (keepsDrivers_step_peer env r e hpeer).symm.trans hs.drivers⟩
  rw [step_entries env r e hs.inv hfresh]
  split_ifs
  · rw [holdsOf_registryUpdate_other r hab he hset _ hsteal, hs.holds]
  · exact hs.holds

/-- The runs with and without the events of `b` stay in step on the holds of `a`, while
`b` releases no cookie in `cookies`, which holds every cookie `a` has or is given. -/
theorem PeerSim.run {env : Env} {a b : String} (hab : a ≠ b) (cookies : List Nat) :
    ∀ (events : List Event) (r r' : PpdApp), PeerSim a r r' → FreshIds r events →
    FreshIds r' (events.filter (·.peer ≠ some b)) →
    (∀ e ∈ events, e.peer = some a ∨ e.peer = some b) → (∀ e ∈ events, e.NotProfileSet) →
    (∀ iface cookie auth, Event.methodCall b iface (.releaseProfile cookie) auth ∈ events →
      cookie ∉ cookies) →
    (∀ e ∈ events, e.peer = some a → ∀ w ∈ e.watchIds, w ∈ cookies) →
    (∀ x ∈ holdsOf r.profileHolds.entries a, x.1 ∈ cookies) →
    PeerSim a (run env r events) (run env r' (events.filter (·.peer ≠ some b))) := by
  intro events
  induction events with
  | nil => exact fun r r' hs _ _ _ _ _ _ _ => hs
  | cons e rest ih =>
    intro r r' hs hfr hfr' hpeers hset hsteal hown hcookies
    rw [List.forall_mem_cons] at hpeers hset hown
    have hsteal' : ∀ iface cookie auth, Event.methodCall b iface (.releaseProfile cookie) auth ∈ rest →
        cookie ∉ cookies := fun i c au h => hsteal i c au (.tail _ h)
    rcases hpeers.1 with ha | hb
    · have hne : decide (e.peer ≠ some b) = true := by simp [ha, hab]
      rw [List.filter_cons, if_pos hne] at hfr' ⊢
      refine ih _ _ (hs.step_both ha hset.1 hfr.head hfr'.head) hfr.tail hfr'.tail
        hpeers.2 hset.2 hsteal' hown.2 fun x hx => ?_
      rw [holdsOf, step_entries env r e hs.inv hfr.head] at hx
      split_ifs at hx
      · rw [← holdsOf, holdsOf_registryUpdate_own r ha hset.1] at hx
        rcases registryUpdate_keys_subset r e _ x hx with hx | hx
        exacts [hcookies x hx, hown.1 ha x.1 hx]
      · exact hcookies x hx
    · have hne : ¬ decide (e.peer ≠ some b) = true := by simp [hb]
      rw [List.filter_cons, if_neg hne] at hfr' ⊢
      have hsteal_e : ∀ iface cookie auth, e = .methodCall b iface (.releaseProfile cookie) auth →
          cookie ∉ (holdsOf r.profileHolds.entries a).map Prod.fst := by
        rintro iface cookie auth rfl hc
        obtain ⟨x, hx, rfl⟩ := List.mem_map.mp hc
        exact hsteal iface x.1 auth (.head _) (hcookies x hx)
      have hs' : PeerSim a (step env r e) r' := hs.step_left hab hb hset.1 hfr.head hsteal_e
      refine ih _ _ hs' hfr.tail hfr' hpeers.2 hset.2 hsteal' hown.2 fun x hx => ?_
      rw [hs'.holds, ← hs.holds] at hx
      exact hcookies x hx

/-- A hold leaves the registry only through a `ReleaseProfile` of its cookie, from any
peer, its requester's disappearance, an authorized `ActiveProfile` set, a restart or
the end of the loop. Hence, from any reachable state, when neither of two peers sets
the profile and the second never releases a cookie of the first's holds, the first
peer's holds at the end are those of the run without the second peer's events. -/
theorem peer_holds_frame_and_independence (env : Env) (app : PpdApp) (hreach : Reachable env app) :
    (∀ e, e.FreshWatchId app → ∀ c hold, (c, hold) ∈ app.profileHolds.entries →
      (c, hold) ∉ (step env app e).profileHolds.entries →
      (∃ sender iface auth, e = .methodCall sender iface (.releaseProfile c) auth) ∨
      e = .nameVanished hold.requester ∨
      (∃ sender value, e = .setProperty sender "ActiveProfile" value .authorized) ∨
      (∃ backends, e = .probeRequest backends) ∨ e = .quit) ∧
    (∀ (a b : String) (events : List Event), a ≠ b →
      (∀ e ∈ events, e.peer = some a ∨ e.peer = some b) →
      (∀ e ∈ events, e.NotProfileSet) → FreshIds app events →
      (∀ iface cookie auth, Event.methodCall b iface (.releaseProfile cookie) auth ∈ events →
        cookie ∉ (holdsOf app.profileHolds.entries a).map Prod.fst ∧
          ∀ e ∈ events, e.peer = some a → cookie ∉ e.watchIds) →
      holdsOf (run env app events).profileHolds.entries a =
        holdsOf (run env app (events.filter (·.peer ≠ some b))).profileHolds.entries a) := by
  have hinv := hreach.cookieInv
  refine ⟨fun e hfresh c hold hmem hgone => ?_,
    fun a b events hab hpeers hset hfr hsteal => ?_⟩
  · rw [step_entries env app e hinv hfresh] at hgone
    split_ifs at hgone
    exacts [registryUpdate_removes app hmem hgone, absurd hmem hgone]
  · let cookies := (holdsOf app.profileHolds.entries a).map Prod.fst ++
      (events.filter (·.peer = some a)).flatMap Event.watchIds
    refine (PeerSim.run hab cookies events app app ⟨rfl, hinv, hinv, ⟨rfl, rfl, rfl⟩⟩ hfr
      (hfr.filter _) hpeers hset (fun iface c auth hm => ?_) (fun e he hea w hw => ?_)
      (fun x hx => List.mem_append_left _ (List.mem_map.mpr ⟨x, hx, rfl⟩))).holds
    · obtain ⟨h1, h2⟩ := hsteal iface c auth hm
      simp only [cookies, List.mem_append, List.mem_flatMap, List.mem_filter, not_or, not_exists,
        not_and]
      exact ⟨h1, fun e he hc => h2 e he.1 (by simpa using he.2) hc⟩
    · exact List.mem_append_right _ (List.mem_flatMap.mpr ⟨e, List.mem_filter.mpr ⟨he, by simpa using hea⟩, hw⟩)

theorem peer_holds_frame_and_independence_intelStarted :
    Reachable (Env.allSucceed "") intelStarted ∧
    ((∀ e, e.FreshWatchId intelStarted → ∀ c hold, (c, hold) ∈ intelStarted.profileHolds.entries →
      (c, hold) ∉ (step (Env.allSucceed "") intelStarted e).profileHolds.entries →
      (∃ sender iface auth, e = .methodCall sender iface (.releaseProfile c) auth) ∨
      e = .nameVanished hold.requester ∨
      (∃ sender value, e = .setProperty sender "ActiveProfile" value .authorized) ∨
      (∃ backends, e = .probeRequest backends) ∨ e = .quit) ∧
    (∀ (a b : String) (events : List Event), a ≠ b →
      (∀ e ∈ events, e.peer = some a ∨ e.peer = some b) →
      (∀ e ∈ events, e.NotProfileSet) → FreshIds intelStarted events →
      (∀ iface cookie auth, Event.methodCall b iface (.releaseProfile cookie) auth ∈ events →
        cookie ∉ (holdsOf intelStarted.profileHolds.entries a).map Prod.fst ∧
          ∀ e ∈ events, e.peer = some a → cookie ∉ e.watchIds) →
      holdsOf (run (Env.allSucceed "") intelStarted events).profileHolds.entries a =
        holdsOf (run (Env.allSucceed "") intelStarted
          (events.filter (·.peer ≠ some b))).profileHolds.entries a)) :=
  have h : Reachable (Env.allSucceed "") intelStarted :=
    .start ⟨none, none, none⟩ [] [] [.driver .cpu ppdDriverIntelPstate .success]
  ⟨h, peer_holds_frame_and_independence _ _ h⟩

/-- Peer `:1.6` changes the holds of `:1.5`: by releasing its cookie, and by holding
power-saver, which makes a later set of power-saver by `:1.5` return at once, so that
the hold of `:1.5` survives it. -/
theorem other_peer_changes_holds :
    holdsOf (run (Env.allSucceed "") intelStarted
        [.methodCall ":1.5" powerProfilesIfaceName (.holdProfile "performance" "video" "vlc" 1)
          .authorized,
         .methodCall ":1.6" powerProfilesIfaceName (.releaseProfile 1) .authorized]).profileHolds.entries
        ":1.5" ≠
      holdsOf (run (Env.allSucceed "") intelStarted
        ([.methodCall ":1.5" powerProfilesIfaceName (.holdProfile "performance" "video" "vlc" 1)
            .authorized,
          .methodCall ":1.6" powerProfilesIfaceName (.releaseProfile 1) .authorized].filter
          (·.peer ≠ some ":1.6"))).profileHolds.entries ":1.5" ∧
    holdsOf (run (Env.allSucceed "") intelStarted
        [.methodCall ":1.5" powerProfilesIfaceName (.holdProfile "performance" "video" "vlc" 1)
          .authorized,
         .methodCall ":1.6" powerProfilesIfaceName (.holdProfile "power-saver" "battery" "gnome" 2)
          .authorized,
         .setProperty ":1.5" "ActiveProfile" "power-saver" .authorized]).profileHolds.entries
        ":1.5" ≠
      holdsOf (run (Env.allSucceed "") intelStarted
        ([.methodCall ":1.5" powerProfilesIfaceName (.holdProfile "performance" "video" "vlc" 1)
            .authorized,
          .methodCall ":1.6" powerProfilesIfaceName (.holdProfile "power-saver" "battery" "gnome" 2)
            .authorized,
          .setProperty ":1.5" "ActiveProfile" "power-saver" .authorized].filter
          (·.peer ≠ some ":1.6"))).profileHolds.entries ":1.5" := by
  decide

end PowerProfiles
