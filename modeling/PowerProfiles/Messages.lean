import PowerProfiles.UserSet

/-!
# The order of a request's bus messages

A handler that changes state should emit its bus messages in three phases: the
`ProfileReleased` signals of the holds it drops, then the `PropertiesChanged`
notifications of what changed, and the method reply last. `Emission.messageRank`
numbers the phases; back-end calls and state-file writes are not bus messages and
have no rank.

`set_active_profile` releases, activates and announces, and `handle_set_property`'s
caller replies after it returns; `release_profile` does the same around
`release_profile_hold`. `hold_profile`, however, returns the cookie with
`g_dbus_method_invocation_return_value` before it activates and calls
`send_dbus_event`. So a request keeps the order exactly when it is not a `HoldProfile`
that the daemon accepts.
-/

namespace PowerProfiles

/-- The phase of a bus message: releases, then announcements, then the reply. -/
def Emission.messageRank : Emission → Option Nat
  | .profileReleased .. => some 0
  | .propertiesChanged .. => some 1
  | .methodReply .. => some 2
  | _ => none

/-- The phases of the bus messages among `es`, in emission order. -/
def messageRanks (es : List Emission) : List Nat := es.filterMap Emission.messageRank

/-- The bus messages among `es` come in phase order. -/
def InMessageOrder (es : List Emission) : Prop := (messageRanks es).Sorted (· ≤ ·)

instance : DecidablePred InMessageOrder := fun es => List.decidableSorted (messageRanks es)

/-- Every bus message among `es` is of phase `k`. -/
def OfRank (k : Nat) (es : List Emission) : Prop := ∀ r ∈ messageRanks es, r = k

@[simp] theorem messageRanks_append (xs ys : List Emission) :
    messageRanks (xs ++ ys) = messageRanks xs ++ messageRanks ys :=
  List.filterMap_append ..

theorem OfRank.append {k : Nat} {xs ys : List Emission} (hx : OfRank k xs) (hy : OfRank k ys) :
    OfRank k (xs ++ ys) := by
  intro r hr
  rcases List.mem_append.mp ((messageRanks_append xs ys) ▸ hr) with h | h
  exacts [hx r h, hy r h]

theorem OfRank.sorted {k : Nat} {es : List Emission} (h : OfRank k es) :
    (messageRanks es).Sorted (· ≤ ·) :=
  List.pairwise_of_forall_mem_list fun a ha b hb => (h a ha).trans (h b hb).symm ▸ le_rfl

/-- Releases, then announcements, then replies are in message order. -/
theorem inMessageOrder_of_phases {xs ys zs : List Emission} (hx : OfRank 0 xs) (hy : OfRank 1 ys)
    (hz : OfRank 2 zs) : InMessageOrder (xs ++ ys ++ zs) := by
  unfold InMessageOrder List.Sorted
  simp only [messageRanks_append, List.pairwise_append, List.mem_append]
  refine ⟨⟨hx.sorted, hy.sorted, ?_⟩, hz.sorted, ?_⟩
  · intro a ha b hb
    rw [hx a ha, hy b hb]
    decide
  · rintro a (ha | ha) b hb <;> rw [hz b hb]
    · rw [hx a ha]; decide
    · rw [hy a ha]; decide

@[simp] theorem inMessageOrder_nil : InMessageOrder [] := List.sorted_nil

/-- A reply first and an announcement after it are out of order. -/
theorem not_inMessageOrder_of_reply_first {dest : String} {r : Except GError (Option GVariant)}
    {es : List Emission} (hpc : 1 ∈ messageRanks es) : ¬ InMessageOrder (.methodReply dest r :: es) := by
  intro h
  have h2 := List.sorted_cons.mp h
  exact absurd (h2.1 1 hpc) (by decide)

/-! ### The phases of each building block -/

theorem ofRank_reply (dest : String) (r : Except GError (Option GVariant)) :
    OfRank 2 [.methodReply dest r] := by
  simp [OfRank, messageRanks, Emission.messageRank]

theorem ofRank_releaseSignals (l : List (Nat × ProfileHold)) :
    OfRank 0 (l.map fun e => releaseSignal e.1 e.2) := by
  intro r hr
  obtain ⟨m, hm, hr⟩ := List.mem_filterMap.mp hr
  obtain ⟨e, -, rfl⟩ := List.mem_map.mp hm
  simpa [releaseSignal, Emission.messageRank] using hr.symm

/-- A transaction emits back-end calls and announcements only. -/
theorem Transacts.ofRank {a b : PpdApp} (h : Transacts a b) :
    ∃ es, b.trace = a.trace ++ es ∧ OfRank 1 es := by
  obtain ⟨es, hes, hm⟩ := h.trace
  refine ⟨es, hes, fun r hr => ?_⟩
  obtain ⟨m, hm', hr⟩ := List.mem_filterMap.mp hr
  have := hm m hm'
  cases m <;> simp_all [Emission.isBackendCall, Emission.isPropertiesChanged, Emission.messageRank]

/-- The announcement that ends `hold_profile` and `release_profile_hold` follows the
transaction with at least one `PropertiesChanged`, since its mask holds
`PROP_ACTIVE_PROFILE_HOLDS`. -/
theorem sendDbusEvent_holds_ofRank {env : Env} {a b : PpdApp} (h : Transacts a b) (flag : Bool) :
    ∃ es, (sendDbusEvent env b { activeProfileHolds := true, activeProfile := flag }).trace =
      a.trace ++ es ∧ OfRank 1 es ∧ 1 ∈ messageRanks es := by
  obtain ⟨es, hes, hrank⟩ := h.ofRank
  have hpc : OfRank 1 [.propertiesChanged powerProfilesIfaceName powerProfilesDbusPath
      (changedProperties env b { activeProfileHolds := true, activeProfile := flag }),
    .propertiesChanged powerProfilesLegacyIfaceName powerProfilesLegacyDbusPath
      (changedProperties env b { activeProfileHolds := true, activeProfile := flag })] := by
    simp [OfRank, messageRanks, Emission.messageRank]
  refine ⟨es ++ _, ?_, hrank.append hpc, ?_⟩
  · simp [sendDbusEvent_eq, PropertiesMask.isEmpty, hes]
  · simp [messageRanks, Emission.messageRank]

/-- `set_active_profile` emits releases, then a transaction's back-end calls and
announcements. -/
theorem setActiveProfile_phases (env : Env) (app : PpdApp) (profile : String) :
    ∃ xs ys, (setActiveProfile env app profile).1.trace = app.trace ++ xs ++ ys ∧
      OfRank 0 xs ∧ OfRank 1 ys := by
  rcases setActiveProfile_frame env app profile with h | ⟨app1, sel, h1, h2⟩
  · exact ⟨[], [], by simp [h], by simp [OfRank, messageRanks], by simp [OfRank, messageRanks]⟩
  obtain ⟨es1, hes1, hm1⟩ := h1.ofRank
  obtain ⟨es2, hes2, hm2⟩ := h2.ofRank
  rw [releaseAllProfileHolds_eq] at hes1
  exact ⟨app.profileHolds.entries.map fun e => releaseSignal e.1 e.2, es1 ++ es2,
    by simp [hes2, hes1], ofRank_releaseSignals _, hm1.append hm2⟩

/-- `hold_profile` accepting a hold replies first, and announces after the reply. -/
theorem holdProfile_replies_first (env : Env) (app : PpdApp)
    (sender iface profileName reason applicationId : String) (watchId : Nat)
    (hp : ppdProfileFromStr profileName = .performance ∨ ppdProfileFromStr profileName = .powerSaver)
    (havail : getProfileAvailable app (ppdProfileFromStr profileName).mask) :
    ∃ es, (holdProfile env app sender iface profileName reason applicationId watchId).trace =
      app.trace ++ [.methodReply sender (.ok (some (.uint32 watchId)))] ++ es ∧
      OfRank 1 es ∧ 1 ∈ messageRanks es := by
  unfold holdProfile
  dsimp only
  rw [if_neg (by rcases hp with h | h <;> simp [h]), if_neg (by simpa using havail)]
  exact sendDbusEvent_holds_ofRank (transacts_holdProfileActivate ..) _

/-! ### Each request -/

section Requests

variable (env : Env) (app : PpdApp)

theorem inMessageOrder_reply (dest : String) (r : Except GError (Option GVariant)) :
    InMessageOrder ((app.reply dest r).trace.drop app.trace.length) := by
  simp [PpdApp.reply, InMessageOrder, messageRanks, Emission.messageRank]

/-- A property set releases, announces, and replies last. -/
theorem inMessageOrder_setProperty (sender name value : String) (auth : PolkitResult) :
    InMessageOrder ((dispatch env app (.setProperty sender name value auth)).trace.drop
      app.trace.length) := by
  rcases handleSetProperty_cases env app name value auth with ⟨-, err, hr⟩ | ⟨-, -, hr⟩ <;>
    simp only [dispatch, hr]
  · exact inMessageOrder_reply app sender _
  · obtain ⟨xs, ys, hes, hx, hy⟩ := setActiveProfile_phases env app value
    simp only [PpdApp.reply, emit_trace, hes, List.append_assoc, List.drop_left]
    rw [← List.append_assoc]
    exact inMessageOrder_of_phases hx hy (ofRank_reply _ _)

/-- `release_profile` signals the release, announces, and replies last. -/
theorem inMessageOrder_releaseProfile (sender : String) (cookie : Nat) :
    InMessageOrder ((releaseProfile env app sender cookie).trace.drop app.trace.length) := by
  rcases releaseProfile_cases env app sender cookie with ⟨-, err, h⟩ | ⟨hc, h⟩ <;> rw [h]
  · exact inMessageOrder_reply app sender _
  obtain ⟨hold, hmem⟩ := HoldTable.mem_keys.mp hc
  obtain ⟨es, hes, hm⟩ := (@releaseProfileHold_of_lookup env _ _ _
    (HoldTable.lookup_eq_some.mpr hmem)).ofRank
  simp only [PpdApp.reply, emit_trace, hes, List.append_assoc, List.drop_left]
  rw [← List.append_assoc]
  exact inMessageOrder_of_phases (ofRank_releaseSignals [(cookie, hold)]) hm (ofRank_reply _ _)

/-- `hold_profile` keeps the order exactly when it refuses the hold. -/
theorem holdProfile_inMessageOrder_iff (sender iface profileName reason applicationId : String)
    (watchId : Nat) :
    InMessageOrder ((holdProfile env app sender iface profileName reason applicationId watchId).trace.drop
      app.trace.length) ↔
      ¬ ((ppdProfileFromStr profileName = .performance ∨ ppdProfileFromStr profileName = .powerSaver) ∧
        getProfileAvailable app (ppdProfileFromStr profileName).mask) := by
  by_cases hacc : (ppdProfileFromStr profileName = .performance ∨
      ppdProfileFromStr profileName = .powerSaver) ∧
      getProfileAvailable app (ppdProfileFromStr profileName).mask
  · refine iff_of_false ?_ (not_not.mpr hacc)
    obtain ⟨es, hes, -, hpc⟩ := holdProfile_replies_first env app sender iface profileName reason
      applicationId watchId hacc.1 hacc.2
    rw [hes, List.append_assoc, List.drop_left]
    exact not_inMessageOrder_of_reply_first hpc
  · refine iff_of_true ?_ hacc
    rcases holdProfile_cases env app sender iface profileName reason applicationId watchId with
      ⟨err, h⟩ | ⟨hp, havail, -⟩
    · rw [h]
      exact inMessageOrder_reply app sender _
    · exact absurd ⟨hp, havail⟩ hacc

end Requests

/-- A `HoldProfile` call that `hold_profile` accepts: the main loop runs, the interface
is known, polkit authorizes it, and the profile is performance or power-saver and
available. -/
def Event.AcceptedHold (app : PpdApp) : Event → Prop
  | .methodCall _ iface (.holdProfile profileName ..) .authorized =>
    app.loopRunning ∧ (iface = powerProfilesIfaceName ∨ iface = powerProfilesLegacyIfaceName) ∧
      (ppdProfileFromStr profileName = .performance ∨ ppdProfileFromStr profileName = .powerSaver) ∧
      getProfileAvailable app (ppdProfileFromStr profileName).mask
  | _ => False

/-- In every state, a request emits its `ProfileReleased` signals, then its
`PropertiesChanged` notifications, then its reply, unless it is a `HoldProfile` the
daemon accepts: that one replies before it announces. -/
theorem request_inMessageOrder_iff (env : Env) (app : PpdApp) (e : Event) (hreq : e.IsRequest) :
    InMessageOrder ((step env app e).trace.drop app.trace.length) ↔ ¬ e.AcceptedHold app := by
  cases e with
  | setProperty sender name value auth =>
    simp only [Event.AcceptedHold, not_false_eq_true, iff_true, step]
    split_ifs
    exacts [inMessageOrder_setProperty env app sender name value auth, by simp]
  | methodCall sender iface call auth =>
    simp only [step, dispatch, handleMethodCall]
    by_cases hrun : app.loopRunning
    swap
    · cases call <;> cases auth <;> simp [hrun, Event.AcceptedHold]
    simp only [hrun, if_true]
    split_ifs with hiface
    · have hnot : ¬ Event.AcceptedHold app (.methodCall sender iface call auth) := by
        intro h
        cases call <;> cases auth <;> simp only [Event.AcceptedHold] at h
        exact h.2.1.elim hiface.1 hiface.2
      simpa [hnot] using inMessageOrder_reply app sender _
    cases call with
    | holdProfile profileName reason applicationId watchId =>
      cases auth with
      | authorized =>
        have hknown : iface = powerProfilesIfaceName ∨ iface = powerProfilesLegacyIfaceName := by
          by_contra h
          exact hiface (not_or.mp h)
        simp only [checkActionPermission, holdProfile_inMessageOrder_iff, Event.AcceptedHold, hrun,
          hknown, true_and]
      | _ => simpa [checkActionPermission, Event.AcceptedHold] using inMessageOrder_reply app sender _
    | releaseProfile cookie =>
      simpa [Event.AcceptedHold] using inMessageOrder_releaseProfile env app sender cookie
    | other methodName => simpa [Event.AcceptedHold] using inMessageOrder_reply app sender _
  | _ => exact hreq.elim

/-- Right after the start on intel_pstate, a client's hold of performance is answered
before the daemon announces the new hold and profile on either interface. -/
theorem hold_replies_before_announcing :
    Reachable (Env.allSucceed "") intelStarted ∧
    messageRanks (performanceHeld.trace.drop intelStarted.trace.length) = [2, 1, 1] ∧
    ¬ InMessageOrder (performanceHeld.trace.drop intelStarted.trace.length) :=
  ⟨.start ⟨none, none, none⟩ [] [] [.driver .cpu ppdDriverIntelPstate .success], by decide, by decide⟩

end PowerProfiles
