import NotebookSim.Proofs.Store
/-!
The store as a map that keeps the order of insertion. What it holds after any calls is read off the
accepted ones: a record for each insertion whose name no later insertion or removal is about, in the
order of these insertions, with the updates since. In every such state each call does what it does
to that map, and a refused call does nothing.
-/
namespace NotebookSim.Store

variable {R : Type} [Record R]

/-! ## Calls -/

/-- A change of a record that keeps its name. -/
structure Change (R : Type) [Record R] where
  apply : R → R
  keeps : ∀ r, Record.name (apply r) = Record.name r

inductive Call (R : Type) [Record R] where
  | insert (r : R)
  | get (name : String)
  | update (name : String) (change : Change R)
  | remove (name : String)
  | contains (name : String)

/-- The record that a call is about, as it is then, or whether there is one. -/
inductive Answer (R : Type) where
  | record (r : R)
  | found (here : Bool)
  deriving DecidableEq

/-- What a call is answered, and the store it leaves. -/
def perform (store : Store R) : Call R → Except StoreError (Answer R) × Store R
  | .insert r =>
    match store.insert r with
    | .ok left => (.ok (.record r), left)
    | .error e => (.error e, store)
  | .get name => ((store.get name).map .record, store)
  | .update name change =>
    match store.get name, store.update name change.apply with
    | .ok r, .ok left => (.ok (.record (change.apply r)), left)
    | .error e, _ => (.error e, store)
    | _, .error e => (.error e, store)
  | .remove name =>
    match store.remove name with
    | .ok (r, left) => (.ok (.record r), left)
    | .error e => (.error e, store)
  | .contains name => (.ok (.found (store.contains name)), store)

/-- The store after calls made one after the other. -/
def after (store : Store R) (calls : List (Call R)) : Store R :=
  calls.foldl (fun store call => (store.perform call).2) store

/-- The calls that are not refused. -/
def accepted (store : Store R) : List (Call R) → List (Call R)
  | [] => []
  | call :: calls =>
    match store.perform call with
    | (.ok _, left) => call :: left.accepted calls
    | (.error _, left) => left.accepted calls

/-! ## What calls leave -/

namespace Call

/-- The name that a call needs a record of. -/
def wanted : Call R → Option String
  | get name => some name
  | update name _ => some name
  | remove name => some name
  | _ => none

/-- Whether an accepted call decides if a name is taken. -/
def settles (name : String) : Call R → Bool
  | insert r => Record.name r == name
  | remove removed => removed == name
  | _ => false

/-- What a call makes of a record that is there. -/
def touch (r : R) : Call R → R
  | update name change => if Record.name r = name then change.apply r else r
  | _ => r

/-- A record after later calls. -/
def touched (r : R) (later : List (Call R)) : R := later.foldl touch r

/-- The records that accepted calls leave, in the order of their insertions. -/
def left : List (Call R) → List R
  | [] => []
  | insert r :: later =>
    if later.any (settles (Record.name r)) then left later else touched r later :: left later
  | _ :: later => left later

theorem name_touch (r : R) (call : Call R) : Record.name (call.touch r) = Record.name r := by
  cases call with
  | update name change =>
    by_cases own : Record.name r = name
    · simp [touch, own, change.keeps]
    · simp [touch, own]
  | _ => rfl

theorem name_touched (r : R) (later : List (Call R)) :
    Record.name (touched r later) = Record.name r := by
  unfold touched
  induction later generalizing r with
  | nil => rfl
  | cons call later ih => rw [List.foldl_cons, ih, name_touch]

theorem touched_snoc (r : R) (later : List (Call R)) (call : Call R) :
    touched r (later ++ [call]) = call.touch (touched r later) :=
  List.foldl_append

theorem any_settles_snoc (name : String) (later : List (Call R)) (call : Call R) :
    (later ++ [call]).any (settles name) = (later.any (settles name) || call.settles name) := by
  rw [List.any_append, List.any_cons, List.any_nil, Bool.or_false]

/-- A call that settles no name changes records in their places. -/
theorem left_snoc {call : Call R} (calm : ∀ name, call.settles name = false)
    (done : List (Call R)) : left (done ++ [call]) = (left done).map call.touch := by
  induction done with
  | nil =>
    cases call with
    | insert r => exact absurd (calm (Record.name r)) (by simp [settles])
    | _ => rfl
  | cons first done ih =>
    cases first with
    | insert r =>
      rw [List.cons_append, left, left, any_settles_snoc, calm, Bool.or_false, touched_snoc, ih]
      split <;> rfl
    | _ => exact ih

theorem left_snoc_remove (done : List (Call R)) (name : String) :
    left (done ++ [remove name]) = (left done).filter fun r => Record.name r ≠ name := by
  induction done with
  | nil => rfl
  | cons first done ih =>
    cases first with
    | insert r =>
      have named := name_touched r done
      rw [List.cons_append, left, left, any_settles_snoc, touched_snoc, ih]
      cases done.any (settles (Record.name r)) with
      | true => rfl
      | false =>
        by_cases own : Record.name r = name
        · simp [settles, own, named]
        · simp [settles, own, Ne.symm own, named, touch]
    | _ => exact ih

/-- An insertion under a name that is not taken settles no record that is left. -/
theorem left_snoc_insert {done : List (Call R)} {r : R}
    (absent : ∀ x ∈ left done, Record.name x ≠ Record.name r) :
    left (done ++ [insert r]) = left done ++ [r] := by
  induction done with
  | nil => rfl
  | cons first done ih =>
    cases first with
    | insert first =>
      rw [left] at absent
      rw [List.cons_append, left, left, any_settles_snoc, touched_snoc]
      cases settled : done.any (settles (Record.name first)) with
      | true =>
        rw [settled] at absent
        exact ih absent
      | false =>
        rw [settled] at absent
        obtain ⟨other, absent⟩ := List.forall_mem_cons.mp absent
        rw [name_touched] at other
        simp [settles, Ne.symm other, ih absent, touch]
    | _ => exact ih absent

/-- A record is left exactly by an insertion whose name no later call settles. -/
theorem mem_left_iff {done : List (Call R)} {r : R} :
    r ∈ left done ↔ ∃ before first later, done = before ++ insert first :: later ∧
      (∀ call ∈ later, call.settles (Record.name first) = false) ∧ r = touched first later := by
  constructor
  · intro held
    induction done with
    | nil => cases held
    | cons call done ih =>
      have later (held : r ∈ left done) : ∃ before first later,
          call :: done = before ++ insert first :: later ∧
          (∀ call ∈ later, call.settles (Record.name first) = false) ∧
          r = touched first later := by
        obtain ⟨before, first, later, rfl, calm, same⟩ := ih held
        exact ⟨call :: before, first, later, rfl, calm, same⟩
      cases call with
      | insert first =>
        rw [left] at held
        split at held
        · exact later held
        · next unsettled =>
          obtain rfl | held := List.mem_cons.mp held
          · exact ⟨[], first, done, rfl, by simpa using unsettled, rfl⟩
          · exact later held
      | _ => exact later held
  · rintro ⟨before, first, later, rfl, calm, rfl⟩
    induction before with
    | nil =>
      have unsettled : later.any (settles (Record.name first)) = false := by simpa using calm
      rw [List.nil_append, left, unsettled]
      exact List.mem_cons_self
    | cons call before ih =>
      cases call with
      | insert r =>
        rw [List.cons_append, left]
        split
        · exact ih
        · exact List.mem_cons_of_mem _ ih
      | _ => exact ih

end Call

/-! ## Records under unique names -/

/-- With the name at most once, to take out the first record of it is to take out all. -/
theorem records_erase {store : Store R} (unique : store.Unique) (name : String) :
    (store.erase name).records = store.records.filter fun r => Record.name r ≠ name := by
  have erased (rs : List R) (distinct : (rs.map Record.name).Nodup) :
      rs.eraseP (hasName name) = rs.filter fun r => Record.name r ≠ name := by
    induction rs with
    | nil => rfl
    | cons r rs ih =>
      obtain ⟨fresh, distinct⟩ := List.nodup_cons.mp distinct
      by_cases own : Record.name r = name
      · have rest (x : R) (held : x ∈ rs) : Record.name x ≠ name := by
          intro same
          exact fresh (own.trans same.symm ▸ List.mem_map_of_mem held)
        rw [List.eraseP_cons_of_pos ((hasName_iff name r).mpr own),
          List.filter_cons_of_neg (by simpa using own)]
        exact (List.filter_eq_self.mpr (by simpa using rest)).symm
      · rw [List.eraseP_cons_of_neg (mt (hasName_iff name r).mp own),
          List.filter_cons_of_pos (by simpa using own), ih distinct]
  exact erased store.records unique

/-- With the name at most once, to change the first record of it is to change all. -/
theorem records_modify {store : Store R} (unique : store.Unique) (name : String)
    (change : Change R) : (store.modify name change.apply).records =
      store.records.map (Call.touch · (.update name change)) := by
  have changed (rs : List R) (distinct : (rs.map Record.name).Nodup) :
      updateFirst (hasName name) change.apply rs = rs.map (Call.touch · (.update name change)) := by
    induction rs with
    | nil => rfl
    | cons r rs ih =>
      obtain ⟨fresh, distinct⟩ := List.nodup_cons.mp distinct
      by_cases own : Record.name r = name
      · have rest (x : R) (held : x ∈ rs) : Call.touch x (.update name change) = x := by
          refine if_neg fun same => ?_
          exact fresh (own.trans same.symm ▸ List.mem_map_of_mem held)
        rw [updateFirst, if_pos ((hasName_iff name r).mpr own), List.map_cons, Call.touch,
          if_pos own, List.map_congr_left rest, List.map_id']
      · rw [updateFirst, if_neg (mt (hasName_iff name r).mp own), List.map_cons, Call.touch,
          if_neg own, ih distinct]
  exact changed store.records unique

/-! ## One call -/

section Perform

variable {store : Store R} {name : String} {r : R}

theorem find?_of_mem_names (taken : name ∈ store.names) : ∃ r, store.find? name = some r := by
  cases found : store.find? name with
  | some r => exact ⟨r, rfl⟩
  | none => exact absurd taken ((find?_eq_none_iff store name).mp found)

theorem perform_insert (r : R) : store.perform (.insert r) =
    if Record.name r ∈ store.names then
      (.error (.alreadyExists (Record.kind R) (Record.name r)), store)
    else (.ok (.record r), store.push r) := by
  rw [perform, insert_eq]
  by_cases taken : Record.name r ∈ store.names
  · obtain ⟨held, found⟩ := find?_of_mem_names taken
    rw [found, if_pos taken]
  · rw [(find?_eq_none_iff store (Record.name r)).mpr taken, if_neg taken]

theorem perform_get_present (found : store.find? name = some r) :
    store.perform (.get name) = (.ok (.record r), store) := by
  rw [perform, get, found]
  rfl

theorem perform_update_present (change : Change R) (found : store.find? name = some r) :
    store.perform (.update name change) =
      (.ok (.record (change.apply r)), store.modify name change.apply) := by
  rw [perform, get, update_eq, found]

theorem perform_remove_present (found : store.find? name = some r) :
    store.perform (.remove name) = (.ok (.record r), store.erase name) := by
  rw [perform, remove_eq, found]

theorem perform_absent {call : Call R} (wants : call.wanted = some name)
    (absent : name ∉ store.names) :
    store.perform call = (.error (.notFound (Record.kind R) name), store) := by
  have missing := (find?_eq_none_iff store name).mpr absent
  cases call with
  | get wanted =>
    obtain rfl := Option.some.inj wants
    rw [perform, get, missing]
    rfl
  | update wanted change =>
    obtain rfl := Option.some.inj wants
    rw [perform, get, update_eq, missing]
  | remove wanted =>
    obtain rfl := Option.some.inj wants
    rw [perform, remove_eq, missing]
  | insert | contains => cases wants

theorem perform_contains (name : String) : store.perform (.contains name) =
    (.ok (.found (decide (name ∈ store.names))), store) := by
  have here : store.contains name = decide (name ∈ store.names) := by
    rw [Bool.eq_iff_iff]
    simp [contains, names, hasName]
  rw [perform, here]

end Perform

/-! ## Runs of calls -/

/-- The store holds what the accepted calls leave, no two records under one name. -/
structure Holds (store : Store R) (done : List (Call R)) : Prop where
  records : store.records = Call.left done
  unique : store.Unique

theorem Holds.names {store : Store R} {done : List (Call R)} (holds : store.Holds done) :
    store.names = (Call.left done).map Record.name :=
  congrArg (List.map Record.name) holds.records

/-- An accepted call goes to the history, a refused one changes nothing. -/
theorem Holds.perform {store : Store R} {done : List (Call R)} (holds : store.Holds done)
    (call : Call R) : match store.perform call with
      | (.ok _, left) => left.Holds (done ++ [call])
      | (.error _, left) => left = store := by
  have calm (call : Call R) (settles : ∀ name, call.settles name = false)
      (same : ∀ r, call.touch r = r) : store.Holds (done ++ [call]) := by
    refine ⟨?_, holds.unique⟩
    rw [Call.left_snoc settles, funext same, List.map_id', holds.records]
  cases call with
  | insert r =>
    rw [perform_insert]
    by_cases taken : Record.name r ∈ store.names
    · rw [if_pos taken]
    · rw [if_neg taken]
      refine ⟨?_, unique_push holds.unique r ((find?_eq_none_iff store _).mpr taken)⟩
      rw [holds.names] at taken
      rw [Call.left_snoc_insert fun x held same => taken (same ▸ List.mem_map_of_mem held),
        ← holds.records]
      rfl
  | contains name =>
    rw [perform_contains]
    exact calm (.contains name) (fun _ => rfl) fun _ => rfl
  | get name =>
    by_cases here : name ∈ store.names
    · obtain ⟨r, found⟩ := find?_of_mem_names here
      rw [perform_get_present found]
      exact calm (.get name) (fun _ => rfl) fun _ => rfl
    · rw [perform_absent rfl here]
  | update name change =>
    by_cases here : name ∈ store.names
    · obtain ⟨r, found⟩ := find?_of_mem_names here
      rw [perform_update_present change found]
      refine ⟨?_, unique_modify holds.unique name change.apply change.keeps⟩
      rw [records_modify holds.unique, Call.left_snoc fun _ => rfl, holds.records]
    · rw [perform_absent rfl here]
  | remove name =>
    by_cases here : name ∈ store.names
    · obtain ⟨r, found⟩ := find?_of_mem_names here
      rw [perform_remove_present found]
      refine ⟨?_, unique_erase holds.unique name⟩
      rw [records_erase holds.unique, Call.left_snoc_remove, holds.records]
    · rw [perform_absent rfl here]

theorem Holds.after {store : Store R} {done : List (Call R)} (holds : store.Holds done)
    (calls : List (Call R)) : (store.after calls).Holds (done ++ store.accepted calls) := by
  induction calls generalizing store done with
  | nil => simpa [Store.after, accepted] using holds
  | cons call calls ih =>
    have next := holds.perform call
    rw [Store.after, List.foldl_cons, accepted]
    generalize store.perform call = outcome at next
    obtain ⟨refusal | answer, left⟩ := outcome
    · obtain rfl := next
      exact ih holds
    · change (left.after calls).Holds (done ++ call :: left.accepted calls)
      rw [List.append_cons]
      exact ih next

/-- Each call does to a store what it does to a map that holds `held` in the order of insertion. -/
structure ActsAsMap (store : Store R) (held : List R) : Prop where
  records : store.records = held
  oncePerName : (held.map Record.name).Nodup
  size : store.size = held.length
  isEmpty : store.isEmpty = true ↔ held = []
  contains : ∀ name, store.perform (.contains name) =
    (.ok (.found (decide (name ∈ held.map Record.name))), store)
  insertAbsent : ∀ r, Record.name r ∉ held.map Record.name →
    store.perform (.insert r) = (.ok (.record r), ⟨held ++ [r]⟩)
  insertPresent : ∀ r, Record.name r ∈ held.map Record.name →
    store.perform (.insert r) = (.error (.alreadyExists (Record.kind R) (Record.name r)), store)
  absent : ∀ call name, call.wanted = some name → name ∉ held.map Record.name →
    store.perform call = (.error (.notFound (Record.kind R) name), store)
  get : ∀ r ∈ held, store.perform (.get (Record.name r)) = (.ok (.record r), store)
  update : ∀ r ∈ held, ∀ change : Change R, store.perform (.update (Record.name r) change) =
    (.ok (.record (change.apply r)), ⟨held.map fun x =>
      if Record.name x = Record.name r then change.apply x else x⟩)
  remove : ∀ r ∈ held, store.perform (.remove (Record.name r)) =
    (.ok (.record r), ⟨held.filter fun x => Record.name x ≠ Record.name r⟩)
  insertAgain : ∀ r ∈ held, ∀ again, Record.name again = Record.name r →
    store.after [.remove (Record.name r), .insert again] =
      ⟨held.filter (fun x => Record.name x ≠ Record.name r) ++ [again]⟩

theorem Holds.actsAsMap {store : Store R} {done : List (Call R)} (holds : store.Holds done) :
    store.ActsAsMap (Call.left done) := by
  have names := holds.names
  have found (r : R) (held : r ∈ Call.left done) : store.find? (Record.name r) = some r :=
    find?_of_mem holds.unique (holds.records ▸ held)
  have erased (name : String) : store.erase name =
      ⟨(Call.left done).filter fun x => Record.name x ≠ name⟩ :=
    congrArg Store.mk (holds.records ▸ records_erase holds.unique name)
  constructor
  case records => exact holds.records
  case oncePerName => exact names ▸ holds.unique
  case size => rw [size, holds.records]
  case isEmpty => rw [isEmpty, holds.records, List.isEmpty_iff]
  case contains =>
    intro name
    rw [perform_contains, names]
  case insertAbsent =>
    intro r absent
    rw [perform_insert, names, if_neg absent, push, holds.records]
  case insertPresent =>
    intro r present
    rw [perform_insert, names, if_pos present]
  case absent =>
    intro call name wants absent
    exact perform_absent wants (names ▸ absent)
  case get =>
    intro r held
    exact perform_get_present (found r held)
  case update =>
    intro r held change
    rw [perform_update_present change (found r held)]
    refine congrArg (Prod.mk _) (congrArg Store.mk ?_)
    exact holds.records ▸ records_modify holds.unique (Record.name r) change
  case remove =>
    intro r held
    rw [perform_remove_present (found r held), erased]
  case insertAgain =>
    intro r held again same
    have absent : Record.name again ∉ (store.erase (Record.name r)).names := by
      rw [erased, same]
      simp [Store.names]
    rw [Store.after, List.foldl_cons, List.foldl_cons, List.foldl_nil,
      perform_remove_present (found r held), perform_insert, if_neg absent, erased, push]

/-- After any calls the store is the map that the accepted ones leave: a record for each insertion
whose name no later insertion or removal is about, with the updates since. -/
theorem actsAsMap_after (calls : List (Call R)) :
    ((empty : Store R).after calls).ActsAsMap (Call.left (empty.accepted calls)) ∧
    ∀ r, r ∈ Call.left (empty.accepted calls) ↔ ∃ before first later,
      empty.accepted calls = before ++ .insert first :: later ∧
      (∀ call ∈ later, call.settles (Record.name first) = false) ∧
      r = Call.touched first later := by
  have start : (empty : Store R).Holds [] := ⟨rfl, unique_empty⟩
  exact ⟨(start.after calls).actsAsMap, fun _ => Call.mem_left_iff⟩

end NotebookSim.Store
