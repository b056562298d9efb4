import PowerProfiles.Backend
import Mathlib.Data.List.Nodup

/-!
# The hold registry

`profile_holds` is a `GHashTable` from cookie to `ProfileHold`. The model keeps its
entries in iteration order; the structure carries the uniqueness of its keys, so every
operation has to keep it and no later proof re-derives it. Nothing in the daemon
depends on where an insertion lands in the iteration order.
-/

namespace PowerProfiles

/-- `ProfileHold`: one client's request to pin a profile. -/
structure ProfileHold where
  /-- The held profile; `hold_profile` admits only performance and power-saver. -/
  profile : PpdProfile
  /-- The client's free-text reason. -/
  reason : String
  /-- The client's application id. -/
  applicationId : String
  /-- The unique bus name of the caller. -/
  requester : String
  /-- The interface the hold was requested through. -/
  requesterIface : String
  deriving DecidableEq, Repr

/-- The `profile_holds` table: (cookie, hold) entries in iteration order, keys unique. -/
structure HoldTable where
  /-- The entries in iteration order. -/
  entries : List (Nat × ProfileHold)
  /-- A hash table holds each key once. -/
  keys_nodup : (entries.map Prod.fst).Nodup

namespace HoldTable

theorem ext {a b : HoldTable} (h : a.entries = b.entries) : a = b := by
  cases a; cases b; cases h; rfl

instance : DecidableEq HoldTable := fun a b =>
  decidable_of_iff (a.entries = b.entries) ⟨ext, fun h => h ▸ rfl⟩

/-- A table with no holds. -/
def empty : HoldTable := ⟨[], List.nodup_nil⟩

/-- The cookies of the table. -/
def keys (t : HoldTable) : List Nat := t.entries.map Prod.fst

/-- `g_hash_table_size`. -/
def size (t : HoldTable) : Nat := t.entries.length

/-- `g_hash_table_lookup`. -/
def lookup (t : HoldTable) (cookie : Nat) : Option ProfileHold := t.entries.lookup cookie

/-- `g_hash_table_contains`. -/
def contains (t : HoldTable) (cookie : Nat) : Bool := decide (cookie ∈ t.keys)

/-- `g_hash_table_remove`. -/
def remove (t : HoldTable) (cookie : Nat) : HoldTable :=
  ⟨t.entries.filter (·.1 != cookie),
    t.keys_nodup.sublist ((List.filter_sublist _).map _)⟩

private theorem keys_replace (l : List (Nat × ProfileHold)) (cookie : Nat) (hold : ProfileHold) :
    (l.map fun e => if e.1 = cookie then (cookie, hold) else e).map Prod.fst = l.map Prod.fst := by
  induction l with
  | nil => rfl
  | cons e l ih => by_cases h : e.1 = cookie <;> simp [h, ih]

/-- `g_hash_table_insert`: a present key keeps its place and takes the new value; a new
key is added. -/
def insert (t : HoldTable) (cookie : Nat) (hold : ProfileHold) : HoldTable :=
  if hc : cookie ∈ t.keys then
    ⟨t.entries.map fun e => if e.1 = cookie then (cookie, hold) else e, by
      rw [keys_replace]; exact t.keys_nodup⟩
  else
    ⟨t.entries ++ [(cookie, hold)], by
      rw [List.map_append, List.nodup_append]
      exact ⟨t.keys_nodup, List.nodup_singleton _, by simpa [List.disjoint_singleton, keys] using hc⟩⟩

@[simp] theorem empty_entries : empty.entries = [] := rfl

@[simp] theorem empty_size : empty.size = 0 := rfl

@[simp] theorem remove_entries (t : HoldTable) (cookie : Nat) :
    (t.remove cookie).entries = t.entries.filter (·.1 != cookie) := rfl

theorem mem_keys {t : HoldTable} {cookie : Nat} :
    cookie ∈ t.keys ↔ ∃ hold, (cookie, hold) ∈ t.entries := by
  simp [keys]

@[simp] theorem contains_iff {t : HoldTable} {cookie : Nat} :
    t.contains cookie = true ↔ cookie ∈ t.keys := by
  simp [contains]

@[simp] theorem contains_eq_false {t : HoldTable} {cookie : Nat} :
    t.contains cookie = false ↔ cookie ∉ t.keys := by
  simp [contains]

theorem size_eq_zero {t : HoldTable} : t.size = 0 ↔ t.entries = [] := by
  simp [size]

/-- With unique keys, a lookup finds exactly the stored entry. -/
theorem lookup_eq_some {t : HoldTable} {cookie : Nat} {hold : ProfileHold} :
    t.lookup cookie = some hold ↔ (cookie, hold) ∈ t.entries := by
  obtain ⟨l, hl⟩ := t
  simp only [lookup]
  induction l with
  | nil => simp
  | cons e l ih =>
    obtain ⟨c, h⟩ := e
    simp only [List.map_cons, List.nodup_cons, List.mem_map] at hl
    by_cases hc : cookie = c
    · subst hc
      have hnot : ∀ h', (cookie, h') ∉ l := fun h' hm => hl.1 ⟨_, hm, rfl⟩
      simp [List.lookup_cons, hnot, eq_comm]
    · simp only [List.lookup_cons, beq_false_of_ne hc]
      rw [ih hl.2]
      simp [hc]

theorem lookup_eq_none {t : HoldTable} {cookie : Nat} :
    t.lookup cookie = none ↔ cookie ∉ t.keys := by
  rw [mem_keys, not_exists]
  constructor
  · intro h hold hmem
    rw [← lookup_eq_some, h] at hmem
    cases hmem
  · intro h
    cases hl : t.lookup cookie with
    | none => rfl
    | some hold => exact absurd (lookup_eq_some.mp hl) (h hold)

theorem mem_keys_remove {t : HoldTable} {cookie c : Nat} :
    c ∈ (t.remove cookie).keys ↔ c ∈ t.keys ∧ c ≠ cookie := by
  simp only [mem_keys, remove_entries, List.mem_filter, bne_iff_ne, ne_eq]
  constructor
  · rintro ⟨hold, hmem, hne⟩
    exact ⟨⟨hold, hmem⟩, hne⟩
  · rintro ⟨⟨hold, hmem⟩, hne⟩
    exact ⟨hold, hmem, hne⟩

theorem lookup_remove {t : HoldTable} {cookie c : Nat} :
    (t.remove cookie).lookup c = if c = cookie then none else t.lookup c := by
  split_ifs with h
  · subst h
    exact lookup_eq_none.mpr fun hm => (mem_keys_remove.mp hm).2 rfl
  · cases hl : t.lookup c with
    | none =>
      exact lookup_eq_none.mpr fun hm => lookup_eq_none.mp hl (mem_keys_remove.mp hm).1
    | some hold =>
      rw [lookup_eq_some, remove_entries, List.mem_filter]
      exact ⟨lookup_eq_some.mp hl, by simpa using h⟩

theorem insert_of_not_mem {t : HoldTable} {cookie : Nat} (hold : ProfileHold)
    (hc : cookie ∉ t.keys) : (t.insert cookie hold).entries = t.entries ++ [(cookie, hold)] := by
  simp [insert, hc]

/-- In a list with unique keys, the entries with a present key are that one entry. -/
theorem filter_fst_eq_singleton {l : List (Nat × ProfileHold)} (hl : (l.map Prod.fst).Nodup)
    {cookie : Nat} {hold : ProfileHold} (h : (cookie, hold) ∈ l) :
    l.filter (·.1 = cookie) = [(cookie, hold)] := by
  induction l with
  | nil => cases h
  | cons e l ih =>
    simp only [List.map_cons, List.nodup_cons, List.mem_map] at hl
    rcases List.mem_cons.mp h with rfl | hmem
    · have hnone : l.filter (·.1 = cookie) = [] :=
        List.filter_eq_nil_iff.mpr fun a ha heq => hl.1 ⟨a, ha, by simpa using heq⟩
      simp [hnone]
    · have hne : e.1 ≠ cookie := fun heq => hl.1 ⟨_, hmem, heq.symm⟩
      simp [hne, ih hl.2 hmem]

theorem filter_fst_eq_nil {l : List (Nat × ProfileHold)} {cookie : Nat}
    (h : cookie ∉ l.map Prod.fst) : l.filter (·.1 = cookie) = [] :=
  List.filter_eq_nil_iff.mpr fun a ha heq => h (List.mem_map.mpr ⟨a, ha, by simpa using heq⟩)

/-- The entries with a present key are that one entry. -/
theorem filter_key {t : HoldTable} {cookie : Nat} {hold : ProfileHold}
    (h : (cookie, hold) ∈ t.entries) : t.entries.filter (·.1 = cookie) = [(cookie, hold)] :=
  filter_fst_eq_singleton t.keys_nodup h

/-- With unique keys, the entries are the one of a present key and those its removal
leaves. -/
theorem mem_iff_of_mem {t : HoldTable} {cookie : Nat} {hold : ProfileHold}
    (h : (cookie, hold) ∈ t.entries) {e : Nat × ProfileHold} :
    e ∈ t.entries ↔ e = (cookie, hold) ∨ e ∈ (t.remove cookie).entries := by
  constructor
  · intro he
    by_cases hc : e.1 = cookie
    · have hf : e ∈ t.entries.filter (·.1 = cookie) := List.mem_filter.mpr ⟨he, by simpa using hc⟩
      rw [filter_key h] at hf
      exact .inl (List.mem_singleton.mp hf)
    · exact .inr (List.mem_filter.mpr ⟨he, by simpa using hc⟩)
  · rintro (rfl | he)
    · exact h
    · exact (List.mem_filter.mp he).1

/-- An entry after an insertion is an old entry or the inserted one. -/
theorem mem_insert {t : HoldTable} {cookie : Nat} {hold : ProfileHold}
    {e : Nat × ProfileHold} (he : e ∈ (t.insert cookie hold).entries) :
    e ∈ t.entries ∨ e = (cookie, hold) := by
  unfold insert at he
  split_ifs at he
  · obtain ⟨e', he', rfl⟩ := List.mem_map.mp he
    split_ifs
    · exact .inr rfl
    · exact .inl he'
  · rcases List.mem_append.mp he with he | he
    · exact .inl he
    · exact .inr (List.mem_singleton.mp he)

end HoldTable

end PowerProfiles
