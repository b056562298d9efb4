import PowerProfiles.UserSet

/-!
# Cookie accounting

A hold's cookie is the id of the bus-name watch `hold_profile` starts on its requester.
Over every run the registry's cookies are exactly the live watches, each on its hold's
requester; a cookie in the registry has never been released, and one that has left it
was released exactly once, to its requester, on the path of the interface it used. The
ghost log `issued` names the hold each cookie was created for.
-/

namespace PowerProfiles

/-- The cookie bookkeeping of a state. -/
structure CookieInv (app : PpdApp) : Prop where
  /-- The live watches are the registry's cookies, each on its hold's requester. -/
  watches_iff : ∀ c n, (c, n) ∈ app.watches ↔
    ∃ hold, (c, hold) ∈ app.profileHolds.entries ∧ hold.requester = n
  /-- Every hold in the registry was issued. -/
  entries_issued : ∀ e ∈ app.profileHolds.entries, e ∈ app.issued
  /-- No cookie was issued twice. -/
  issued_nodup : (app.issued.map Prod.fst).Nodup
  /-- A cookie in the registry was never released; any other issued cookie was released
  once, with the signal of the hold it was issued for. -/
  releases : ∀ c, app.trace.filter (Emission.releasesCookie c) =
    if c ∈ app.profileHolds.keys then []
    else (app.issued.filter (·.1 = c)).map fun e => releaseSignal e.1 e.2

variable {env : Env} {app : PpdApp}

theorem CookieInv.of_keepsHolds {app' : PpdApp} (h : CookieInv app) (hk : KeepsHolds app app') :
    CookieInv app' := by
  obtain ⟨hh, hw, hi, hr⟩ := hk
  exact ⟨by rw [hw, hh]; exact h.1, by rw [hh, hi]; exact h.2, by rw [hi]; exact h.3,
    fun c => by rw [hr, hh, hi]; exact h.4 c⟩

theorem cookieInv_initialApp (config : KeyFile) (blockedDrivers blockedActions : List String) :
    CookieInv (initialApp config blockedDrivers blockedActions) :=
  ⟨by simp [initialApp], by simp [initialApp], by simp [initialApp],
    by simp [initialApp, HoldTable.keys]⟩

/-- A registry cookie is issued. -/
theorem CookieInv.mem_issued (h : CookieInv app) {c : Nat} (hc : c ∈ app.profileHolds.keys) :
    c ∈ app.issued.map Prod.fst := by
  obtain ⟨hold, hmem⟩ := HoldTable.mem_keys.mp hc
  exact List.mem_map.mpr ⟨_, h.entries_issued _ hmem, rfl⟩

theorem cookieInv_releaseAllProfileHolds (h : CookieInv app) :
    CookieInv (releaseAllProfileHolds app) := by
  rw [releaseAllProfileHolds_eq]
  refine ⟨fun c n => ?_, by simp, h.issued_nodup, fun c => ?_⟩
  · simp only [List.mem_filter, decide_eq_true_eq, HoldTable.empty_entries, List.not_mem_nil,
      false_and, exists_false, iff_false, not_and, not_not]
    intro hw
    obtain ⟨hold, hmem, -⟩ := (h.watches_iff c n).mp hw
    exact HoldTable.mem_keys.mpr ⟨hold, hmem⟩
  · have hnot : c ∉ HoldTable.empty.keys := by simp [HoldTable.keys]
    simp only [List.filter_append, filter_releaseSignals, h.releases c, if_neg hnot]
    by_cases hc : c ∈ app.profileHolds.keys
    · obtain ⟨hold, hmem⟩ := HoldTable.mem_keys.mp hc
      rw [if_pos hc, HoldTable.filter_key hmem,
        HoldTable.filter_fst_eq_singleton h.issued_nodup (h.entries_issued _ hmem)]
      rfl
    · rw [if_neg hc, HoldTable.filter_fst_eq_nil hc, List.map_nil, List.append_nil]

theorem cookieInv_releaseProfileHold (h : CookieInv app) (cookie : Nat) :
    CookieInv (releaseProfileHold env app cookie) := by
  by_cases hc : cookie ∈ app.profileHolds.keys
  swap
  · rwa [releaseProfileHold_of_not_mem hc]
  obtain ⟨hold, hmem⟩ := HoldTable.mem_keys.mp hc
  refine CookieInv.of_keepsHolds ?_
    (.of_transacts (releaseProfileHold_of_lookup (HoldTable.lookup_eq_some.mpr hmem)))
  refine ⟨fun c n => ?_, fun e he => h.entries_issued e (List.mem_of_mem_filter he),
    h.issued_nodup, fun c => ?_⟩
  · simp only [List.mem_filter, h.watches_iff, HoldTable.remove_entries, bne_iff_ne, ne_eq,
      decide_eq_true_eq]
    constructor
    · rintro ⟨⟨hold', hm, hr⟩, hne⟩
      exact ⟨hold', ⟨hm, hne⟩, hr⟩
    · rintro ⟨hold', ⟨hm, hne⟩, hr⟩
      exact ⟨⟨hold', hm, hr⟩, hne⟩
  · simp only [emit_trace, emit_issued, List.filter_append, h.releases c, HoldTable.mem_keys_remove]
    by_cases hcc : c = cookie
    · subst hcc
      rw [if_pos hc, if_neg (fun h => h.2 rfl),
        HoldTable.filter_fst_eq_singleton h.issued_nodup (h.entries_issued _ hmem)]
      simp [releaseSignal, Emission.releasesCookie]
    · have hrel : (releaseSignal cookie hold).releasesCookie c = false := by
        simp [releaseSignal, Emission.releasesCookie, Ne.symm hcc]
      simp [hrel, hcc]

/-- The registry, watches and ghost log after `hold_profile` accepts a fresh cookie. -/
theorem cookieInv_holdRecorded (h : CookieInv app) {watchId : Nat}
    (hfresh : watchId ∉ app.issued.map Prod.fst) (sender : String) (hold : ProfileHold)
    (hreq : hold.requester = sender) (r : Except GError (Option GVariant)) :
    CookieInv { app.reply sender r with
      watches := app.watches ++ [(watchId, sender)],
      profileHolds := app.profileHolds.insert watchId hold,
      issued := app.issued ++ [(watchId, hold)] } := by
  have hkey : watchId ∉ app.profileHolds.keys := fun hc => hfresh (h.mem_issued hc)
  refine ⟨fun c n => ?_, fun e he => ?_, ?_, fun c => ?_⟩
  · simp only [HoldTable.insert_of_not_mem hold hkey, List.mem_append, h.watches_iff,
      List.mem_singleton, Prod.mk.injEq]
    constructor
    · rintro (⟨hold', hm, hr⟩ | ⟨rfl, rfl⟩)
      exacts [⟨hold', .inl hm, hr⟩, ⟨hold, .inr ⟨rfl, rfl⟩, hreq⟩]
    · rintro ⟨hold', hm | ⟨rfl, rfl⟩, hr⟩
      exacts [.inl ⟨hold', hm, hr⟩, .inr ⟨rfl, by rw [← hr, hreq]⟩]
  · rw [HoldTable.insert_of_not_mem hold hkey] at he
    rcases List.mem_append.mp he with he | he
    · exact List.mem_append_left _ (h.entries_issued e he)
    · exact List.mem_append_right _ he
  · rw [List.map_append, List.nodup_append]
    exact ⟨h.issued_nodup, List.nodup_singleton _, by simpa [List.disjoint_singleton] using hfresh⟩
  · have hkeys : c ∈ (app.profileHolds.insert watchId hold).keys ↔
        c ∈ app.profileHolds.keys ∨ c = watchId := by
      simp [HoldTable.keys, HoldTable.insert_of_not_mem hold hkey]
    simp only [PpdApp.reply, emit_trace, List.filter_append, h.releases c, hkeys,
      List.filter_singleton, Emission.releasesCookie, List.filter_append]
    by_cases hcw : c = watchId
    · subst hcw
      simp [hkey, HoldTable.filter_fst_eq_nil hfresh]
    · simp [hcw, Ne.symm hcw]

theorem cookieInv_holderDisappeared (h : CookieInv app) (name : String) :
    CookieInv (holderDisappeared env app name) :=
  holderDisappeared_induction env name h fun _ c ha => cookieInv_releaseProfileHold ha c

theorem cookieInv_setActiveProfile (h : CookieInv app) (profile : String) :
    CookieInv (setActiveProfile env app profile).1 := by
  rcases setActiveProfile_frame env app profile with heq | ⟨app1, selected, h1, h2⟩
  · rwa [heq]
  · have hsel : KeepsHolds app1 { app1 with selectedProfile := selected } :=
      ⟨rfl, rfl, rfl, fun _ => rfl⟩
    exact (cookieInv_releaseAllProfileHolds h).of_keepsHolds
      ((KeepsHolds.of_transacts h1).trans (hsel.trans (.of_transacts h2)))

theorem cookieInv_stopProfileDrivers (h : CookieInv app) : CookieInv (stopProfileDrivers app) :=
  (cookieInv_releaseAllProfileHolds h).of_keepsHolds ⟨rfl, rfl, rfl, fun _ => rfl⟩

/-- Every event with a fresh watch id keeps the cookie bookkeeping. -/
theorem cookieInv_step (h : CookieInv app) (e : Event) (hfresh : e.FreshWatchId app) :
    CookieInv (step env app e) := by
  have hs := stepCase env app e
  generalize step env app e = s at hs
  cases hs with
  | same => exact h
  | refuse _ sender err => exact h.of_keepsHolds (.reply ..)
  | set sender value => exact (cookieInv_setActiveProfile h value).of_keepsHolds (.reply ..)
  | hold sender iface profileName reason applicationId watchId =>
    rcases holdProfile_cases env app sender iface profileName reason applicationId watchId with
      ⟨err, hr⟩ | ⟨-, -, ht⟩
    · rw [hr]
      exact h.of_keepsHolds (.reply ..)
    · exact (cookieInv_holdRecorded h hfresh sender _ rfl _).of_keepsHolds (.of_transacts ht)
  | release sender iface cookie auth =>
    exact (cookieInv_releaseProfileHold h cookie).of_keepsHolds (.reply ..)
  | vanish name => exact cookieInv_holderDisappeared h name
  | profileChanged kind profile =>
    exact h.of_keepsHolds (.of_transacts (transacts_driverProfileChangedCb ..))
  | degraded kind degraded => exact h.of_keepsHolds (keepsHolds_setPerformanceDegraded ..)
  | restart backends =>
    exact (cookieInv_stopProfileDrivers h).of_keepsHolds (keepsHolds_startProfileDrivers ..)
  | uevent action hasDpmAttr => exact h.of_keepsHolds (keepsHolds_foldl_actionUevent ..)
  | quit => exact (cookieInv_stopProfileDrivers h).of_keepsHolds ⟨rfl, rfl, rfl, fun _ => rfl⟩

/-- Every reachable state has the cookie bookkeeping. -/
theorem Reachable.cookieInv (h : Reachable env app) : CookieInv app := by
  induction h with
  | start config blockedDrivers blockedActions backends =>
    exact (cookieInv_initialApp config blockedDrivers blockedActions).of_keepsHolds
      (keepsHolds_startProfileDrivers ..)
  | step e _ hfresh ih => exact cookieInv_step ih e hfresh

end PowerProfiles
