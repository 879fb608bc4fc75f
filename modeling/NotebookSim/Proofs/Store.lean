import NotebookSim.Store
/-!
The store as a map from names to records. A push appends, a modification keeps every place, and
an erasure keeps the order of the rest.
-/
namespace NotebookSim.Store

variable {R : Type} [Record R]

theorem hasName_iff (name : String) (r : R) : hasName name r = true ↔ Record.name r = name := by
  simp [hasName]

theorem name_of_find? {store : Store R} {name : String} {r : R} (h : store.find? name = some r) :
    Record.name r = name :=
  (hasName_iff name r).mp (List.find?_some h)

theorem mem_of_find? {store : Store R} {name : String} {r : R} (h : store.find? name = some r) :
    r ∈ store.records :=
  List.mem_of_find?_eq_some h

theorem contains_eq_isSome (store : Store R) (name : String) :
    store.contains name = (store.find? name).isSome :=
  List.isSome_find?.symm

theorem insert_eq (store : Store R) (r : R) : store.insert r =
    match store.find? (Record.name r) with
    | some _ => .error (.alreadyExists (Record.kind R) (Record.name r))
    | none => .ok (store.push r) := by
  unfold insert
  rw [contains_eq_isSome]
  cases store.find? (Record.name r) <;> rfl

theorem update_eq (store : Store R) (name : String) (f : R → R) : store.update name f =
    match store.find? name with
    | some _ => .ok (store.modify name f)
    | none => .error (.notFound (Record.kind R) name) := by
  unfold update get
  cases store.find? name <;> rfl

theorem remove_eq (store : Store R) (name : String) : store.remove name =
    match store.find? name with
    | some r => .ok (r, store.erase name)
    | none => .error (.notFound (Record.kind R) name) := by
  unfold remove get
  cases store.find? name <;> rfl

/-! ## Look-up after a change -/

theorem find?_push (store : Store R) (r : R) (name : String)
    (absent : store.find? (Record.name r) = none) :
    (store.push r).find? name = if Record.name r = name then some r else store.find? name := by
  simp only [find?, push, List.find?_append, List.find?_singleton, hasName_iff]
  by_cases h : Record.name r = name
  · subst h
    rw [show store.records.find? (hasName (Record.name r)) = none from absent]
    simp
  · simp [h]

theorem find?_updateFirst (name : String) (f : R → R)
    (keeps : ∀ r, Record.name (f r) = Record.name r) (wanted : String) (rs : List R) :
    (updateFirst (hasName name) f rs).find? (hasName wanted) =
      if name = wanted then (rs.find? (hasName wanted)).map f
      else rs.find? (hasName wanted) := by
  induction rs with
  | nil => simp [updateFirst]
  | cons r rs ih =>
    have hf : hasName wanted (f r) = hasName wanted r := by simp [hasName, keeps]
    by_cases hr : Record.name r = name
    · have hp : hasName name r = true := (hasName_iff name r).mpr hr
      by_cases hn : name = wanted
      · simp [updateFirst, hf, hn, (hasName_iff wanted r).mpr (hr.trans hn)]
      · have hw : hasName wanted r = false := by simpa [hasName] using hr ▸ hn
        simp [updateFirst, hp, hf, hn, hw]
    · have hp : hasName name r = false := by simpa [hasName] using hr
      cases hw : hasName wanted r with
      | true =>
        have hn : name ≠ wanted := fun e => hr (((hasName_iff wanted r).mp hw).trans e.symm)
        simp [updateFirst, hp, hw, hn]
      | false => simpa [updateFirst, hp, hw] using ih

theorem find?_modify (store : Store R) (name : String) (f : R → R)
    (keeps : ∀ r, Record.name (f r) = Record.name r) (wanted : String) :
    (store.modify name f).find? wanted =
      if name = wanted then (store.find? wanted).map f else store.find? wanted :=
  find?_updateFirst name f keeps wanted store.records

/-- A record that is about to be taken out may be changed first. -/
theorem erase_modify (store : Store R) (name : String) (f : R → R)
    (keeps : ∀ r, Record.name (f r) = Record.name r) :
    (store.modify name f).erase name = store.erase name := by
  have erased (rs : List R) :
      (updateFirst (hasName name) f rs).eraseP (hasName name) = rs.eraseP (hasName name) := by
    induction rs with
    | nil => rfl
    | cons r rs ih =>
      have hf : hasName name (f r) = hasName name r := by simp [hasName, keeps]
      cases hp : hasName name r <;> simp [updateFirst, hp, hf, ih]
  exact congrArg Store.mk (erased store.records)

/-! ## Size -/

omit [Record R] in
@[simp] theorem size_push (store : Store R) (r : R) : (store.push r).size = store.size + 1 :=
  List.length_append

@[simp] theorem size_modify (store : Store R) (name : String) (f : R → R) :
    (store.modify name f).size = store.size := by
  have kept (rs : List R) : (updateFirst (hasName name) f rs).length = rs.length := by
    induction rs with
    | nil => rfl
    | cons r rs ih => cases hp : hasName name r <;> simp [updateFirst, hp, ih]
  exact kept store.records

theorem size_erase {store : Store R} {name : String} {r : R}
    (found : store.find? name = some r) : (store.erase name).size + 1 = store.size := by
  have held := mem_of_find? found
  have shorter := List.length_eraseP_of_mem held ((hasName_iff name r).mpr (name_of_find? found))
  have some_held := List.length_pos_of_mem held
  change (store.records.eraseP (hasName name)).length + 1 = store.records.length
  omega

/-! ## Properties of all records -/

def All (store : Store R) (p : R → Prop) : Prop := ∀ r ∈ store.records, p r

section All

variable {store : Store R} {p : R → Prop}

omit [Record R] in
theorem all_empty (p : R → Prop) : (empty : Store R).All p := by
  intro r hr
  cases hr

omit [Record R] in
theorem All.push (all : store.All p) {r : R} (new : p r) : (store.push r).All p := by
  intro x hx
  obtain old | rfl := List.mem_append.mp hx |>.imp_right List.mem_singleton.mp
  · exact all x old
  · exact new

theorem All.modify (all : store.All p) (name : String) {f : R → R}
    (kept : ∀ r, p r → p (f r)) : (store.modify name f).All p := by
  have walk (rs : List R) (h : ∀ r ∈ rs, p r) : ∀ r ∈ updateFirst (hasName name) f rs, p r := by
    induction rs with
    | nil => exact h
    | cons r rs ih =>
      obtain ⟨first, rest⟩ := List.forall_mem_cons.mp h
      unfold updateFirst
      cases hasName name r with
      | true => exact List.forall_mem_cons.mpr ⟨kept r first, rest⟩
      | false => exact List.forall_mem_cons.mpr ⟨first, ih rest⟩
  exact walk store.records all

theorem All.erase (all : store.All p) (name : String) : (store.erase name).All p := by
  intro r hr
  exact all r (List.mem_of_mem_eraseP hr)

theorem All.of_find? (all : store.All p) {name : String} {r : R}
    (found : store.find? name = some r) : p r :=
  all r (mem_of_find? found)

end All

/-! ## Unique names -/

def names (store : Store R) : List String := store.records.map Record.name

/-- At most one record has a name. -/
def Unique (store : Store R) : Prop := store.names.Nodup

theorem find?_eq_none_iff (store : Store R) (name : String) :
    store.find? name = none ↔ name ∉ store.names := by
  simp [find?, names, hasName]

theorem Unique.nodup {store : Store R} (h : store.Unique) : store.records.Nodup :=
  List.Pairwise.of_map Record.name (fun _ _ other same => other (congrArg Record.name same)) h

theorem find?_of_mem {store : Store R} (h : store.Unique) {r : R} (held : r ∈ store.records) :
    store.find? (Record.name r) = some r := by
  have found (rs : List R) (distinct : (rs.map Record.name).Nodup) (held : r ∈ rs) :
      rs.find? (hasName (Record.name r)) = some r := by
    induction rs with
    | nil => cases held
    | cons x rs ih =>
      obtain ⟨fresh, distinct⟩ := List.nodup_cons.mp distinct
      obtain rfl | later := List.mem_cons.mp held
      · exact List.find?_cons_of_pos ((hasName_iff _ _).mpr rfl)
      · have other : ¬ hasName (Record.name r) x = true := by
          intro same
          exact fresh ((hasName_iff _ _).mp same ▸ List.mem_map_of_mem later)
        rw [List.find?_cons_of_neg other]
        exact ih distinct later
  exact found store.records h held

theorem unique_empty : (empty : Store R).Unique := List.nodup_nil

theorem unique_push {store : Store R} (h : store.Unique) (r : R)
    (absent : store.find? (Record.name r) = none) : (store.push r).Unique := by
  rw [find?_eq_none_iff] at absent
  simp only [Unique, names, push, List.map_append, List.map_cons, List.map_nil]
  refine List.nodup_append.mpr ⟨h, by simp, ?_⟩
  intro a ha b hb
  rw [List.mem_singleton.mp hb]
  exact fun e => absent (e ▸ ha)

/-- What a modification keeps of a record, it keeps of all. -/
theorem map_modify {α : Type} (store : Store R) (name : String) (f : R → R) (part : R → α)
    (keeps : ∀ r, part (f r) = part r) :
    (store.modify name f).records.map part = store.records.map part := by
  have kept (rs : List R) : (updateFirst (hasName name) f rs).map part = rs.map part := by
    induction rs with
    | nil => rfl
    | cons r rs ih => cases hp : hasName name r <;> simp [updateFirst, hp, keeps, ih]
  exact kept store.records

theorem names_modify (store : Store R) (name : String) (f : R → R)
    (keeps : ∀ r, Record.name (f r) = Record.name r) :
    (store.modify name f).names = store.names :=
  store.map_modify name f Record.name keeps

theorem unique_modify {store : Store R} (h : store.Unique) (name : String) (f : R → R)
    (keeps : ∀ r, Record.name (f r) = Record.name r) : (store.modify name f).Unique := by
  unfold Unique
  rw [names_modify store name f keeps]
  exact h

theorem unique_erase {store : Store R} (h : store.Unique) (name : String) :
    (store.erase name).Unique :=
  h.sublist ((List.eraseP_sublist ..).map Record.name)

/-- Without uniqueness a second record of the name would come to light. -/
theorem find?_erase {store : Store R} (h : store.Unique) (name wanted : String) :
    (store.erase name).find? wanted = if name = wanted then none else store.find? wanted := by
  have found (rs : List R) (distinct : (rs.map Record.name).Nodup) :
      (rs.eraseP (hasName name)).find? (hasName wanted) =
        if name = wanted then none else rs.find? (hasName wanted) := by
    induction rs with
    | nil => simp
    | cons r rs ih =>
      obtain ⟨fresh, distinct⟩ := List.nodup_cons.mp distinct
      cases hp : hasName name r with
      | true =>
        have hr := (hasName_iff name r).mp hp
        by_cases hn : name = wanted
        · have none_left : rs.find? (hasName wanted) = none := by
            rw [List.find?_eq_none]
            intro x hx hw
            apply fresh
            rw [hr, hn, ← (hasName_iff wanted x).mp hw]
            exact List.mem_map_of_mem hx
          rw [List.eraseP_cons_of_pos hp, if_pos hn, none_left]
        · have hw : hasName wanted r = false := by simpa [hasName] using hr ▸ hn
          simp [hp, hn, hw]
      | false =>
        cases hw : hasName wanted r with
        | true =>
          have hn : name ≠ wanted := by
            rintro rfl
            simp [hp] at hw
          simp [hp, hw, hn]
        | false => simpa [List.eraseP_cons, hp, hw] using ih distinct
  exact found store.records h

end NotebookSim.Store
