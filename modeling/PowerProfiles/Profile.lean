import Mathlib.Tactic.DeriveFintype

/-!
# Profiles, activation reasons and probe results

The enumerations the daemon passes between its core and its back-ends. Their
declarations (`ppd-profile.h`, `ppd-driver.h`) are not among the sources, so the types
follow the spec's data model: three independent profile bits and the `unset`
sentinel. Their strings are those of `ppd-profile.c` and `ppd-driver.c`.
-/

namespace PowerProfiles

/-- Modelled from the spec: `PpdProfile` of `ppd-profile.h`, not among the sources.
A profile value the core stores or passes: one of the three flags, or
`PPD_PROFILE_UNSET`, the flags value `0`. -/
inductive PpdProfile
  | unset
  | powerSaver
  | balanced
  | performance
  deriving DecidableEq, Repr, Fintype

/-- Modelled from the spec: a `PpdProfile` bitmask such as a driver's `profiles`
property, with the bits `1 << 0` (power-saver), `1 << 1` (balanced) and `1 << 2`
(performance). -/
structure ProfileMask where
  /-- Bit `PPD_PROFILE_POWER_SAVER`. -/
  powerSaver : Bool
  /-- Bit `PPD_PROFILE_BALANCED`. -/
  balanced : Bool
  /-- Bit `PPD_PROFILE_PERFORMANCE`. -/
  performance : Bool
  deriving DecidableEq, Repr, Fintype

/-- The bit of a single profile; `PPD_PROFILE_UNSET` is the empty mask. -/
def PpdProfile.mask : PpdProfile → ProfileMask
  | .unset => ⟨false, false, false⟩
  | .powerSaver => ⟨true, false, false⟩
  | .balanced => ⟨false, true, false⟩
  | .performance => ⟨false, false, true⟩

/-- `a | b` on profile masks. -/
def ProfileMask.or (a b : ProfileMask) : ProfileMask :=
  ⟨a.powerSaver || b.powerSaver, a.balanced || b.balanced, a.performance || b.performance⟩

/-- `(a & b) != 0`, the test `driver_profile_support` makes. -/
def ProfileMask.meets (a b : ProfileMask) : Bool :=
  a.powerSaver && b.powerSaver || a.balanced && b.balanced || a.performance && b.performance

/-- `PPD_PROFILE_ALL`, the three profile bits. -/
def ppdProfileAll : ProfileMask := ⟨true, true, true⟩

/-- A mask meets the bit of a single profile exactly when that bit is set. -/
def ProfileMask.has (m : ProfileMask) : PpdProfile → Bool
  | .unset => false
  | .powerSaver => m.powerSaver
  | .balanced => m.balanced
  | .performance => m.performance

@[simp] theorem ProfileMask.meets_mask (m : ProfileMask) (p : PpdProfile) :
    m.meets p.mask = m.has p := by
  cases p <;> simp [meets, has, PpdProfile.mask]

@[simp] theorem ProfileMask.has_unset (m : ProfileMask) : m.has .unset = false := rfl

/-- `ppd_profile_to_str`: the nick of the first flag set, `""` for `PPD_PROFILE_UNSET`. -/
def ppdProfileToStr : PpdProfile → String
  | .unset => ""
  | .powerSaver => "power-saver"
  | .balanced => "balanced"
  | .performance => "performance"

/-- `ppd_profile_from_str`: the flag whose nick is `str`, else `PPD_PROFILE_UNSET`. -/
def ppdProfileFromStr (str : String) : PpdProfile :=
  if str = "power-saver" then .powerSaver
  else if str = "balanced" then .balanced
  else if str = "performance" then .performance
  else .unset

/-- Parsing the string of any profile value gives it back. -/
@[simp] theorem ppdProfileFromStr_toStr (p : PpdProfile) :
    ppdProfileFromStr (ppdProfileToStr p) = p := by
  cases p <;> decide

/-- A string that parses to a profile is that profile's nick. -/
theorem ppdProfileToStr_fromStr {str : String} (h : ppdProfileFromStr str ≠ .unset) :
    ppdProfileToStr (ppdProfileFromStr str) = str := by
  unfold ppdProfileFromStr at *
  split_ifs at * <;> first | subst_vars; rfl | exact absurd rfl h

/-- `ppd_profile_has_single_flag`. -/
def PpdProfile.hasSingleFlag (p : PpdProfile) : Bool := p != .unset

/-- Modelled from the spec: `PpdProfileActivationReason` of `ppd-driver.h`, with the
values `ppd_profile_activation_reason_to_str` names. -/
inductive PpdProfileActivationReason
  | internal
  | reset
  | user
  | resume
  | programHold
  deriving DecidableEq, Repr, Fintype

/-- `ppd_profile_activation_reason_to_str`. -/
def ppdProfileActivationReasonToStr : PpdProfileActivationReason → String
  | .internal => "internal"
  | .reset => "reset"
  | .user => "user"
  | .resume => "resume"
  | .programHold => "program-hold"

/-- Modelled from the spec: `PpdProbeResult`, the outcome of a back-end's `probe ()`. -/
inductive PpdProbeResult
  | success
  | fail
  | defer
  deriving DecidableEq, Repr

/-- Modelled from the spec: `PpdPowerChangedReason` of `ppd-driver.h` (not among the
sources), the power source `{ac, battery, unknown}` that `power_changed` hands on. -/
inductive PpdPowerChangedReason
  | unknown
  | ac
  | battery
  deriving DecidableEq, Repr

end PowerProfiles
