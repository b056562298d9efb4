import PowerProfiles.Activation

/-!
# Writing sysfs files

`ppd_utils_write` opens the file and calls `write (fd, value, size)` until `size`
reaches zero, subtracting each count `write` returns. The buffer it hands `write` is
always `value` from its first byte, so after a short write the next call sends the
beginning of the string again instead of its rest; and a call that returns 0 leaves
`size` as it was, so the loop never ends. The loop is modelled with fuel that counts
`write` calls, `write` being any sequence of results, one per call. The string is the
list of its bytes and `strlen` its length; nothing here depends on what a byte is.

The CPU drivers write sysfs attributes, whose stores take a whole buffer in one `write`
or fail. `SysfsState.write` is `ppd_utils_write` on such a file, and
`ppdUtilsWrite_sysfsStore` shows that it is the loop above run on a store's results.
-/

namespace PowerProfiles

/-- What one `write (fd, value, size)` returns. -/
inductive WriteResult
  /-- `-1`; `strerror` is `g_strerror (errno)`. -/
  | failed (strerror : String)
  /-- A count of bytes written. -/
  | wrote (count : Nat)
  deriving DecidableEq, Repr

/-- One `write` call: the bytes it was handed and what it returned. -/
structure WriteCall (α : Type) where
  /-- The first `size` bytes of `value`. -/
  buffer : List α
  /-- What `write` returned. -/
  result : WriteResult
  deriving DecidableEq, Repr

/-- The count a call returned; a failed call counts 0. -/
def WriteCall.count {α : Type} (c : WriteCall α) : Nat :=
  match c.result with
  | .failed _ => 0
  | .wrote count => count

/-- The bytes a call put in the file: the first `count` bytes of its buffer. -/
def WriteCall.written {α : Type} (c : WriteCall α) : List α := c.buffer.take c.count

theorem WriteCall.written_isPrefix_buffer {α : Type} (c : WriteCall α) : c.written <+: c.buffer :=
  List.take_prefix _ _

section Loop

variable {α : Type} (filename : String) (value : List α) (write : Nat → WriteResult)

/-- The loop of `ppd_utils_write` from call number `call` with `size` bytes left, for at
most `fuel` more calls: the verdict and the calls made, or `none` if the fuel runs out
first. A count above `size` fails `g_return_val_if_fail` with no error set. -/
def ppdUtilsWriteLoop : (fuel call size : Nat) → Option (Except GError Unit × List (WriteCall α))
  | _, _, 0 => some (.ok (), [])
  | 0, _, _ + 1 => none
  | fuel + 1, call, size + 1 =>
    let buffer := value.take (size + 1)
    match write call with
    | .failed strerror =>
      some (.error ⟨.unmapped, "Error writing " ++ quoted filename ++ ": " ++ strerror⟩,
        [⟨buffer, .failed strerror⟩])
    | .wrote written =>
      if written ≤ size + 1 then
        (ppdUtilsWriteLoop fuel (call + 1) (size + 1 - written)).map
          fun r => (r.1, ⟨buffer, .wrote written⟩ :: r.2)
      else some (.error ⟨.failed, ""⟩, [⟨buffer, .wrote written⟩])

@[simp] theorem ppdUtilsWriteLoop_done (fuel call : Nat) :
    ppdUtilsWriteLoop filename value write fuel call 0 = some (.ok (), []) := by
  cases fuel <;> rfl

@[simp] theorem ppdUtilsWriteLoop_out_of_fuel (call size : Nat) :
    ppdUtilsWriteLoop filename value write 0 call (size + 1) = none := rfl

/-- `ppd_utils_write`; `opened` says whether `g_open` succeeds. -/
def ppdUtilsWrite (opened : Bool) (fuel : Nat) : Option (Except GError Unit × List (WriteCall α)) :=
  if !opened then
    some (.error ⟨.unmapped, "Could not open " ++ quoted filename ++ " for writing"⟩, [])
  else ppdUtilsWriteLoop filename value write fuel 0 value.length

/-- Every buffer the loop hands `write` starts at the first byte of `value`. -/
theorem ppdUtilsWriteLoop_buffer_from_start :
    ∀ fuel call size r, ppdUtilsWriteLoop filename value write fuel call size = some r →
      ∀ c ∈ r.2, c.buffer <+: value := by
  have htake (n : Nat) : value.take n <+: value := List.take_prefix n value
  intro fuel
  induction fuel with
  | zero => rintro call (_ | size) r h <;> simp at h; simp [← h]
  | succ fuel ih =>
    rintro call (_ | size) r h
    · simp at h; simp [← h]
    simp only [ppdUtilsWriteLoop] at h
    split at h
    · simp only [Option.some.injEq] at h
      subst h
      simpa using htake _
    · split_ifs at h
      · obtain ⟨r', hr', rfl⟩ := Option.map_eq_some'.mp h
        rintro c (_ | ⟨_, hc⟩)
        exacts [htake _, ih _ _ r' hr' c hc]
      · simp only [Option.some.injEq] at h
        subst h
        simpa using htake _

/-- When the loop returns TRUE, the counts `write` returned add up to the bytes that
were left. -/
theorem ppdUtilsWriteLoop_ok_counts :
    ∀ fuel call size calls, ppdUtilsWriteLoop filename value write fuel call size = some (.ok (), calls) →
      (calls.map WriteCall.count).foldr (· + ·) 0 = size := by
  intro fuel
  induction fuel with
  | zero => rintro call (_ | size) calls h <;> simp at h; subst h; rfl
  | succ fuel ih =>
    rintro call (_ | size) calls h
    · simp at h; subst h; rfl
    simp only [ppdUtilsWriteLoop] at h
    split at h
    · simp at h
    · rename_i written _
      split_ifs at h with hle
      · obtain ⟨⟨v, calls'⟩, hr', heq⟩ := Option.map_eq_some'.mp h
        simp only [Prod.mk.injEq] at heq
        obtain ⟨rfl, rfl⟩ := heq
        have := ih _ _ calls' hr'
        simp only [List.map_cons, List.foldr_cons, this, WriteCall.count]
        omega
      · simp at h

/-- If no `write` returns 0, the loop ends within `size` calls. -/
theorem ppdUtilsWriteLoop_isSome_of_progress (hprogress : ∀ call, write call ≠ .wrote 0) :
    ∀ fuel call size, size ≤ fuel → (ppdUtilsWriteLoop filename value write fuel call size).isSome := by
  intro fuel
  induction fuel with
  | zero => rintro call (_ | size) h <;> simp_all
  | succ fuel ih =>
    rintro call (_ | size) h
    · simp
    simp only [ppdUtilsWriteLoop]
    split
    · rfl
    · rename_i written hw
      have hpos : written ≠ 0 := fun h0 => hprogress call (h0 ▸ hw)
      split_ifs
      · simpa using ih (call + 1) (size + 1 - written) (by omega)
      · rfl

/-- If every `write` returns 0, the loop runs out of any fuel while bytes are left. -/
theorem ppdUtilsWriteLoop_eq_none_of_zero (hzero : ∀ call, write call = .wrote 0) :
    ∀ fuel call size, 0 < size → ppdUtilsWriteLoop filename value write fuel call size = none := by
  intro fuel
  induction fuel with
  | zero => rintro call (_ | size) h <;> simp_all
  | succ fuel ih =>
    rintro call (_ | size) h
    · omega
    simp [ppdUtilsWriteLoop, hzero, ih (call + 1) (size + 1) h]

/-- So every call puts a prefix of `value` in the file. -/
theorem ppdUtilsWrite_written_from_start (opened : Bool) (fuel : Nat) (r : Except GError Unit × List (WriteCall α))
    (h : ppdUtilsWrite filename value write opened fuel = some r) : ∀ c ∈ r.2, c.written <+: value := by
  intro c hc
  unfold ppdUtilsWrite at h
  split_ifs at h
  · simp only [Option.some.injEq] at h
    subst h
    simp at hc
  · exact c.written_isPrefix_buffer.trans (ppdUtilsWriteLoop_buffer_from_start _ _ _ _ _ _ _ h c hc)

end Loop

/-- `ppd_utils_write` of `"abc"` to an `energy_performance_preference` file. If every
`write` returns 0, it never returns, for any fuel. If the first `write` takes one byte
and the second two, it returns TRUE, and having handed `write` `"abc"` and then `"ab"`
it has put `"aab"` in the file. -/
theorem ppdUtilsWrite_resends_start :
    (∀ fuel, ppdUtilsWrite "/sys/devices/system/cpu/cpufreq/policy0/energy_performance_preference"
      ['a', 'b', 'c'] (fun _ => .wrote 0) true fuel = none) ∧
    ppdUtilsWrite "/sys/devices/system/cpu/cpufreq/policy0/energy_performance_preference"
        ['a', 'b', 'c'] (fun call => .wrote (call + 1)) true 2 =
      some (.ok (), [⟨['a', 'b', 'c'], .wrote 1⟩, ⟨['a', 'b'], .wrote 2⟩]) ∧
    [(⟨['a', 'b', 'c'], .wrote 1⟩ : WriteCall Char), ⟨['a', 'b'], .wrote 2⟩].flatMap WriteCall.written =
      ['a', 'a', 'b'] :=
  ⟨fun fuel => ppdUtilsWriteLoop_eq_none_of_zero _ _ _ (fun _ => rfl) fuel 0 3 (by decide),
    by decide, by decide⟩

/-! ### Sysfs attributes -/

/-- The `write` results of a sysfs attribute's store: it takes the whole buffer, or fails
with `strerror`. -/
def sysfsStore (failure : Option String) (size : Nat) : Nat → WriteResult := fun _ =>
  match failure with
  | some strerror => .failed strerror
  | none => .wrote size

/-- The sysfs files the CPU drivers use, and the count of `write` calls so far. -/
structure SysfsState where
  /-- The contents of each file that exists. -/
  tree : String → Option String
  /-- The `write` calls made so far; failures are numbered by them. -/
  calls : Nat

/-- `ppd_utils_write` on a sysfs attribute. `g_open` without `O_CREAT` fails on a file that
does not exist; an empty value makes no `write`; otherwise one `write` stores the whole
value, unless `fails` gives the `strerror` of that call. -/
def SysfsState.write (fails : Nat → Option String) (s : SysfsState) (filename value : String) :
    SysfsState × Except GError Unit :=
  if (s.tree filename).isNone then
    (s, .error ⟨.unmapped, "Could not open " ++ quoted filename ++ " for writing"⟩)
  else if value.length = 0 then (s, .ok ())
  else match fails s.calls with
    | some strerror =>
      ({ s with calls := s.calls + 1 },
        .error ⟨.unmapped, "Error writing " ++ quoted filename ++ ": " ++ strerror⟩)
    | none => ({ tree := Function.update s.tree filename (some value), calls := s.calls + 1 }, .ok ())

/-- `SysfsState.write` is the loop of `ppd_utils_write` run on a store's results: the same
verdict, and a single call that puts the whole value in the file unless the file is
missing or the value empty. -/
theorem ppdUtilsWrite_sysfsStore (fails : Nat → Option String) (s : SysfsState)
    (filename value : String) :
    ppdUtilsWrite filename value.data (sysfsStore (fails s.calls) value.length) (s.tree filename).isSome 1 =
      some ((s.write fails filename value).2,
        if (s.tree filename).isNone ∨ value.length = 0 then []
        else [⟨value.data, sysfsStore (fails s.calls) value.length 0⟩]) := by
  obtain ⟨data⟩ := value
  cases ht : s.tree filename <;> cases data <;> cases hf : fails s.calls <;>
    simp [ppdUtilsWrite, ppdUtilsWriteLoop, SysfsState.write, sysfsStore, ht, hf, String.length]

/-- A write changes at most its own file, to the value, and only when it succeeds with a
value that is not empty. -/
theorem SysfsState.write_tree (fails : Nat → Option String) (s : SysfsState) (filename value p : String) :
    (s.write fails filename value).1.tree p =
      if p = filename ∧ (s.write fails filename value).2 = .ok () ∧ value.length ≠ 0 then some value
      else s.tree p := by
  unfold SysfsState.write
  cases fails s.calls <;> by_cases hp : p = filename <;> split_ifs <;> simp_all [Function.update]

theorem SysfsState.write_tree_of_ne (fails : Nat → Option String) (s : SysfsState)
    {filename p : String} (value : String) (hp : p ≠ filename) :
    (s.write fails filename value).1.tree p = s.tree p := by
  simp [SysfsState.write_tree, hp]

/-- A write that succeeds was made to a file that exists. -/
theorem SysfsState.write_ok_isSome (fails : Nat → Option String) (s : SysfsState)
    {filename value : String} (h : (s.write fails filename value).2 = .ok ()) :
    (s.tree filename).isSome := by
  unfold SysfsState.write at h
  cases ht : s.tree filename
  · simp [ht] at h
  · rfl

/-- No write creates or removes a file. -/
theorem SysfsState.write_isSome (fails : Nat → Option String) (s : SysfsState)
    (filename value p : String) :
    ((s.write fails filename value).1.tree p).isSome = (s.tree p).isSome := by
  rw [SysfsState.write_tree]
  split_ifs with h
  · obtain ⟨rfl, hok, -⟩ := h
    simpa using (SysfsState.write_ok_isSome fails s hok).symm
  · rfl

/-- `ppd_utils_write_files`: write `value` to each file in order, stopping at the first
failure. -/
def ppdUtilsWriteFiles (fails : Nat → Option String) (s : SysfsState) :
    List String → String → SysfsState × Except GError Unit
  | [], _ => (s, .ok ())
  | file :: rest, value =>
    match s.write fails file value with
    | (s, .error e) => (s, .error e)
    | (s, .ok ()) => ppdUtilsWriteFiles fails s rest value

/-- `ppd_utils_write_files` writes `value` to a prefix of the files: to all of them exactly
when it returns TRUE, and on a failure to those before the failing one, with every other
file as it was. -/
theorem ppdUtilsWriteFiles_tree (fails : Nat → Option String) (value : String) :
    ∀ (filenames : List String) (s : SysfsState), ∃ k ≤ filenames.length,
      ((ppdUtilsWriteFiles fails s filenames value).2 = .ok () ↔ k = filenames.length) ∧
      ∀ p, (ppdUtilsWriteFiles fails s filenames value).1.tree p =
        if p ∈ filenames.take k ∧ value.length ≠ 0 then some value else s.tree p := by
  intro filenames
  induction filenames with
  | nil => exact fun s => ⟨0, le_rfl, by simp [ppdUtilsWriteFiles], by simp [ppdUtilsWriteFiles]⟩
  | cons file rest ih =>
    intro s
    have htree := SysfsState.write_tree fails s file value
    simp only [ppdUtilsWriteFiles]
    generalize s.write fails file value = w at htree ⊢
    obtain ⟨s1, r⟩ := w
    cases r with
    | error e =>
      exact ⟨0, Nat.zero_le _, by simp, fun p => by simpa using htree p⟩
    | ok u =>
      cases u
      simp only [true_and] at htree
      obtain ⟨k, hk, hok, hrest⟩ := ih s1
      refine ⟨k + 1, by simpa using hk, by simpa using hok, fun p => ?_⟩
      simp only [hrest, htree, List.take_succ_cons, List.mem_cons]
      by_cases hp : p = file <;> by_cases hv : value.length = 0 <;> simp [hp, hv]

/-- `ppd_utils_write_files` leaves every file outside its list as it was. -/
theorem ppdUtilsWriteFiles_frame (fails : Nat → Option String) (s : SysfsState)
    (filenames : List String) (value : String) {p : String} (hp : p ∉ filenames) :
    (ppdUtilsWriteFiles fails s filenames value).1.tree p = s.tree p := by
  obtain ⟨k, -, -, htree⟩ := ppdUtilsWriteFiles_tree fails value filenames s
  rw [htree, if_neg fun h => hp (List.mem_of_mem_take h.1)]

/-- A call of `ppd_utils_write_files` that returns TRUE leaves every listed file holding
the value, unless the value is empty. -/
theorem ppdUtilsWriteFiles_ok_tree (fails : Nat → Option String) (s : SysfsState)
    (filenames : List String) (value : String)
    (h : (ppdUtilsWriteFiles fails s filenames value).2 = .ok ()) (p : String) :
    (ppdUtilsWriteFiles fails s filenames value).1.tree p =
      if p ∈ filenames ∧ value.length ≠ 0 then some value else s.tree p := by
  obtain ⟨k, -, hok, htree⟩ := ppdUtilsWriteFiles_tree fails value filenames s
  rw [htree, hok.1 h, List.take_length]

/-- `ppd_utils_write_files` creates and removes no file. -/
theorem ppdUtilsWriteFiles_isSome (fails : Nat → Option String) (value p : String) :
    ∀ (filenames : List String) (s : SysfsState),
      ((ppdUtilsWriteFiles fails s filenames value).1.tree p).isSome = (s.tree p).isSome
  | [], _ => rfl
  | file :: rest, s => by
    have h1 := SysfsState.write_isSome fails s file value p
    simp only [ppdUtilsWriteFiles]
    generalize s.write fails file value = w at h1 ⊢
    obtain ⟨s1, _ | ⟨⟩⟩ := w
    · exact h1
    · exact (ppdUtilsWriteFiles_isSome fails value p rest s1).trans h1

end PowerProfiles
