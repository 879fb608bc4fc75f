import NotebookSim.Entries
/-!
Look-up after a change of one key.
-/
namespace NotebookSim.Entries

variable {κ α : Type} [DecidableEq κ]

theorem lookup_cons (k wanted : κ) (v : α) (entries : List (κ × α)) :
    List.lookup wanted ((k, v) :: entries) =
      if k = wanted then some v else entries.lookup wanted := by
  rw [List.lookup_cons]
  by_cases h : k = wanted
  · simp [h]
  · have hne : (wanted == k) = false := beq_eq_false_iff_ne.mpr (Ne.symm h)
    simp [hne, h]

theorem lookup_assign (key wanted : κ) (value : α) (entries : List (κ × α)) :
    (assign key value entries).lookup wanted =
      if key = wanted then some value else entries.lookup wanted := by
  induction entries with
  | nil => simp [assign, lookup_cons]
  | cons entry entries ih =>
    obtain ⟨k, v⟩ := entry
    by_cases hk : k = key
    · by_cases h : key = wanted <;> simp [assign, lookup_cons, hk, h]
    · by_cases h : k = wanted
      · simp [assign, h ▸ hk, h, Ne.symm (h ▸ hk)]
      · simp [assign, lookup_cons, hk, h, ih]

theorem erase_cons (key k : κ) (v : α) (entries : List (κ × α)) :
    erase key ((k, v) :: entries) =
      if k = key then erase key entries else (k, v) :: erase key entries := by
  by_cases h : k = key <;> simp [erase, h]

theorem lookup_erase (key wanted : κ) (entries : List (κ × α)) :
    (erase key entries).lookup wanted =
      if key = wanted then none else entries.lookup wanted := by
  induction entries with
  | nil => simp [erase]
  | cons entry entries ih =>
    obtain ⟨k, v⟩ := entry
    rw [erase_cons, lookup_cons]
    by_cases hk : k = key
    · rw [if_pos hk, ih]
      by_cases h : key = wanted
      · rw [if_pos h, if_pos h]
      · rw [if_neg h, if_neg h, if_neg (hk ▸ h)]
    · rw [if_neg hk, lookup_cons, ih]
      by_cases h : k = wanted
      · rw [if_pos h, if_pos h, if_neg (fun e => hk (h.trans e.symm))]
      · rw [if_neg h, if_neg h]

theorem assign_of_absent {key : κ} {entries : List (κ × α)} (absent : entries.lookup key = none)
    (value : α) : assign key value entries = entries ++ [(key, value)] := by
  induction entries with
  | nil => rfl
  | cons entry entries ih =>
    obtain ⟨k, v⟩ := entry
    rw [lookup_cons] at absent
    by_cases hk : k = key
    · simp [hk] at absent
    · rw [if_neg hk] at absent
      simp [assign, hk, ih absent]

/-- Assigning the value that is there changes nothing. -/
theorem assign_of_found {key : κ} {value : α} {entries : List (κ × α)}
    (found : entries.lookup key = some value) : assign key value entries = entries := by
  induction entries with
  | nil => cases found
  | cons entry entries ih =>
    obtain ⟨k, v⟩ := entry
    rw [lookup_cons] at found
    by_cases hk : k = key
    · simp_all [assign]
    · rw [if_neg hk] at found
      simp [assign, hk, ih found]

/-- Of two values assigned to a key the later one counts. -/
theorem assign_assign (key : κ) (first second : α) (entries : List (κ × α)) :
    assign key second (assign key first entries) = assign key second entries := by
  induction entries with
  | nil => simp [assign]
  | cons entry entries ih =>
    obtain ⟨k, v⟩ := entry
    by_cases hk : k = key
    · simp [assign, hk]
    · simp [assign, hk, ih]

/-- A key that has a value keeps its place. -/
theorem keys_assign_of_found {key : κ} {old : α} {entries : List (κ × α)}
    (found : entries.lookup key = some old) (value : α) :
    (assign key value entries).map Prod.fst = entries.map Prod.fst := by
  induction entries with
  | nil => cases found
  | cons entry entries ih =>
    obtain ⟨k, v⟩ := entry
    rw [lookup_cons] at found
    by_cases hk : k = key
    · simp [assign, hk]
    · rw [if_neg hk] at found
      simp [assign, hk, ih found]

theorem length_assign_of_found {key : κ} {old : α} {entries : List (κ × α)}
    (found : entries.lookup key = some old) (value : α) :
    (assign key value entries).length = entries.length := by
  simpa using congrArg List.length (keys_assign_of_found found value)

/-! ## Distinct keys -/

def DistinctKeys (entries : List (κ × α)) : Prop := (entries.map Prod.fst).Nodup

theorem mem_keys_iff (key : κ) (entries : List (κ × α)) :
    key ∈ entries.map Prod.fst ↔ ∃ value, entries.lookup key = some value := by
  induction entries with
  | nil => simp
  | cons entry entries ih =>
    obtain ⟨k, v⟩ := entry
    rw [List.map_cons, List.mem_cons, ih, lookup_cons]
    by_cases hk : k = key
    · simp [hk]
    · simp [hk, Ne.symm hk]

theorem mem_of_lookup {key : κ} {value : α} {entries : List (κ × α)}
    (found : entries.lookup key = some value) : (key, value) ∈ entries := by
  obtain ⟨before, after, rfl, -⟩ := List.lookup_eq_some_iff.mp found
  simp

theorem DistinctKeys.lookup_of_mem {key : κ} {value : α} {entries : List (κ × α)}
    (distinct : DistinctKeys entries) (held : (key, value) ∈ entries) :
    entries.lookup key = some value := by
  obtain ⟨before, after, rfl⟩ := List.append_of_mem held
  refine List.lookup_eq_some_iff.mpr ⟨before, after, rfl, fun entry earlier => ?_⟩
  unfold DistinctKeys at distinct
  rw [List.map_append, List.nodup_append] at distinct
  exact bne_iff_ne.mpr (distinct.2.2 entry.1 (List.mem_map_of_mem earlier) key (by simp)).symm

theorem DistinctKeys.assign {entries : List (κ × α)} (distinct : DistinctKeys entries) (key : κ)
    (value : α) : DistinctKeys (assign key value entries) := by
  unfold DistinctKeys
  cases found : entries.lookup key with
  | some old =>
    rw [keys_assign_of_found found]
    exact distinct
  | none =>
    have fresh : key ∉ entries.map Prod.fst := by
      rw [mem_keys_iff, found]
      simp
    rw [assign_of_absent found, List.map_append]
    refine List.nodup_append.mpr ⟨distinct, by simp, ?_⟩
    rintro k held k' new rfl
    cases List.mem_singleton.mp new
    exact fresh held

theorem DistinctKeys.erase {entries : List (κ × α)} (distinct : DistinctKeys entries) (key : κ) :
    DistinctKeys (erase key entries) :=
  List.Nodup.sublist (List.filter_sublist.map Prod.fst) distinct

/-! ## Sums -/

/-- The sum over all values. -/
def sum (f : α → Nat) (entries : List (κ × α)) : Nat :=
  entries.foldr (fun entry rest => f entry.2 + rest) 0

omit [DecidableEq κ] in
@[simp] theorem sum_cons (f : α → Nat) (entry : κ × α) (entries : List (κ × α)) :
    sum f (entry :: entries) = f entry.2 + sum f entries := rfl

/-- What a key had before is taken out of a sum, and its new value put in. -/
theorem sum_assign (f : α → Nat) (key : κ) (value : α) (entries : List (κ × α)) :
    sum f (assign key value entries) + ((entries.lookup key).elim 0 f) =
      sum f entries + f value := by
  induction entries with
  | nil => simp [assign, sum]
  | cons entry entries ih =>
    obtain ⟨k, v⟩ := entry
    rw [lookup_cons]
    by_cases hk : k = key
    · simp only [assign, if_pos hk, sum_cons, Option.elim]
      omega
    · simp only [assign, if_neg hk, sum_cons]
      omega

end NotebookSim.Entries
