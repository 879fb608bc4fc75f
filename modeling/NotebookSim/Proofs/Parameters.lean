import NotebookSim.Proofs.HarmlessMembers
import NotebookSim.Proofs.Overflow
/-!
Requests with another value for one of their parameters. The parameters are the members of an
object or the elements of an array; an array is read as the object that has its elements under the
names of the fields, so both are told of at once.
-/
namespace NotebookSim

/-! ## Fields -/

/-- What a field is read as when it is given this value, or none. -/
def Field.value {α : Type} (field : Field α) (place : Place) : Option Json → Except Misfit α
  | some j => field.read place j
  | none =>
    match field.absent with
    | some x => .ok x
    | none => .error (.missing field.name)

namespace Fields

variable {α β : Type} {place : Place}

theorem assemble_and_eq_ok_iff {earlier : Fields (α → β)} {field : Field α}
    {value? : String → Option Json} {y : β} :
    (earlier.and field).assemble place value? = .ok y ↔
      ∃ f x, earlier.assemble place value? = .ok f ∧ field.value place (value? field.name) = .ok x ∧
        f x = y := by
  rw [assemble]
  cases earlier.assemble place value? with
  | error m => simp [bind, Except.bind]
  | ok f =>
    cases value? field.name with
    | none => cases absent : field.absent <;> simp [bind, Except.bind, Field.value, absent]
    | some j => simp [bind, Except.bind, Field.value, Reader.map_eq_ok_iff]

theorem assemble_congr {fields : Fields α} {value? with? : String → Option Json}
    (same : ∀ name ∈ fields.names, with? name = value? name) :
    fields.assemble place with? = fields.assemble place value? := by
  induction fields with
  | pure x => rfl
  | and earlier field ih =>
    obtain ⟨before, here⟩ := List.forall_mem_append.mp same
    rw [assemble, assemble, ih before, here field.name List.mem_cons_self]

/-! ## Arrays as objects -/

/-- Whether an array may leave out the same fields as an object, for the same values. -/
def Defaulted {α : Type} : Fields α → Prop
  | .pure _ => True
  | .and earlier field => earlier.Defaulted ∧ ∃ x, field.absent = some x ∧ field.short = some x

@[simp] theorem defaulted_pure (x : α) : (Fields.pure x).Defaulted := trivial

@[simp] theorem defaulted_and_omittable {earlier : Fields (Option α → β)} {name : String}
    {read : Reader α} :
    (earlier.and (.omittable name read)).Defaulted ↔ earlier.Defaulted :=
  and_iff_left ⟨none, rfl, rfl⟩

theorem Defaulted.omittable {fields : Fields α} (defaulted : fields.Defaulted) :
    fields.Omittable := by
  induction fields with
  | pure x => trivial
  | and earlier field ih =>
    obtain ⟨before, x, absent, -⟩ := defaulted
    exact ⟨ih before, by rw [absent]; rfl⟩

theorem ofMembers_of_misfit {fields : Fields α} {members : List (String × Json)} {m : Misfit}
    (first : fields.firstMisfit? place members = some m) :
    fields.ofMembers place members = .error m := by
  unfold firstMisfit? at first
  unfold ofMembers
  rw [first]

theorem ofMembers_of_fit {fields : Fields α} {members : List (String × Json)}
    (fit : fields.firstMisfit? place members = none) :
    fields.ofMembers place members = fields.assemble place fun name => members.lookup name := by
  unfold firstMisfit? at fit
  unfold ofMembers
  rw [fit]

theorem lookup_zip_and {earlier : Fields (α → β)} {field : Field α}
    (distinct : (earlier.and field).names.Nodup) (items : List Json) (name : String) :
    ((earlier.and field).names.zip items).lookup name =
      if name = field.name then (items.drop earlier.count).head?
      else (earlier.names.zip items).lookup name := by
  have fresh : (earlier.names.zip items).lookup field.name = none := by
    refine List.lookup_eq_none_iff.mpr fun member held => ?_
    have known : member.1 ∈ earlier.names := (List.of_mem_zip held).1
    refine bne_iff_ne.mpr fun same => name_notMem distinct ?_
    rwa [same]
  rw [names, zip_concat, length_names, List.lookup_append]
  split
  · next same =>
    rw [same, fresh, Option.none_or]
    cases (items.drop earlier.count).head? <;> simp
  · next other =>
    cases (items.drop earlier.count).head? <;> simp [List.lookup_cons, beq_false_of_ne other]

/-- The earlier fields are read from the earlier elements, whether or not there are more. -/
theorem assemble_zip_and {earlier : Fields (α → β)} {field : Field α}
    (distinct : (earlier.and field).names.Nodup) (items : List Json) :
    earlier.assemble place (fun name => ((earlier.and field).names.zip items).lookup name) =
      earlier.assemble place fun name => (earlier.names.zip items).lookup name := by
  refine assemble_congr fun name known => ?_
  rw [lookup_zip_and distinct, if_neg]
  rintro rfl
  exact name_notMem distinct known

/-- Elements are read as the members of an object that go by the names of the fields. -/
theorem takeElements_eq {fields : Fields α} (distinct : fields.names.Nodup)
    (defaulted : fields.Defaulted) (record : String) (size : Nat) (items : List Json) :
    fields.takeElements place record size items =
      (fields.ofMembers place (fields.names.zip items)).map
        fun x => (x, items.drop fields.count) := by
  induction fields with
  | pure x => rfl
  | @and _ _ earlier field ih =>
    obtain ⟨before, x, absent, short⟩ := defaulted
    unfold takeElements
    rw [ih (List.nodup_append.mp distinct).1 before]
    obtain ⟨m, first, fails⟩ | ⟨fit, ⟨f, done⟩ | ⟨needs, -⟩⟩ :=
      earlier.ofMembers_cases place (earlier.names.zip items)
    · have whole : (earlier.and field).firstMisfit? place ((earlier.and field).names.zip items) =
          some m := by
        rw [firstMisfit?_zip_and distinct, first, Option.some_or]
      rw [fails, ofMembers_of_misfit whole]
      rfl
    · rw [ofMembers_of_fit fit] at done
      have assembled := (assemble_zip_and distinct items).trans done
      have here := lookup_zip_and distinct items field.name
      have whole := firstMisfit?_zip_and distinct place items
      rw [if_pos rfl] at here
      rw [fit, Option.none_or] at whole
      rw [ofMembers_of_fit fit, done, count, ← List.drop_drop]
      cases left : items.drop earlier.count with
      | nil =>
        -- An array that ends early and an object without the member leave out the same value.
        rw [left] at here whole
        rw [ofMembers_of_fit whole, assemble, assembled, here]
        simp [bind, Except.bind, Except.map, absent, short]
      | cons j rest =>
        rw [left] at here whole
        cases read : field.read place j with
        | error m =>
          have misfit := whole.trans (Reader.misfit?_eq_some_iff.mpr read)
          rw [ofMembers_of_misfit misfit]
          simp [bind, Except.bind, Except.map, read]
        | ok y =>
          have fits := whole.trans (Reader.misfit?_eq_none_iff.mpr ⟨y, read⟩)
          rw [ofMembers_of_fit fits, assemble, assembled, here]
          simp [bind, Except.bind, Except.map, read]
    · exact absurd before.omittable needs

/-! ## Records -/

/-- Whether a value can be a record by its shape: an object, or an array with no element left
over. -/
def Shaped (fields : Fields α) : Json → Prop
  | .object _ => True
  | .array items => items.length ≤ fields.count
  | _ => False

theorem ofMembers_eq_ok_iff {fields : Fields α} {members : List (String × Json)} {x : α} :
    fields.ofMembers place members = .ok x ↔
      fields.firstMisfit? place members = none ∧
        fields.assemble place (fun name => members.lookup name) = .ok x := by
  cases first : fields.firstMisfit? place members with
  | some m => simp [ofMembers_of_misfit first]
  | none => simp [ofMembers_of_fit first]

theorem reader_eq_ok_iff {fields : Fields α} (distinct : fields.names.Nodup)
    (defaulted : fields.Defaulted) {record : String} {v : Json} {x : α} :
    fields.reader record place v = .ok x ↔
      fields.Shaped v ∧ fields.firstMisfit? place (fields.given v) = none ∧
        fields.assemble place (fun name => (fields.given v).lookup name) = .ok x := by
  cases v with
  | object members =>
    change fields.ofMembers place members = .ok x ↔ True ∧ _
    rw [true_and]
    exact ofMembers_eq_ok_iff
  | array items =>
    change fields.ofElements place record items = .ok x ↔ items.length ≤ fields.count ∧ _
    unfold ofElements
    rw [takeElements_eq distinct defaulted, given, ← ofMembers_eq_ok_iff, ← List.drop_eq_nil_iff]
    cases fields.ofMembers place (fields.names.zip items) with
    | error m => simp [Except.map, bind, Except.bind]
    | ok y =>
      cases items.drop fields.count with
      | nil => simp [Except.map, bind, Except.bind, Pure.pure, Except.pure]
      | cons j rest => simp [Except.map, bind, Except.bind]
  | _ => exact ⟨nofun, fun h => absurd h.1 id⟩

end Fields

/-! ## Another value -/

/-- The members with another value for the one of this name. -/
def Json.restateMember (name : String) (j : Json) (members : List (String × Json)) :
    List (String × Json) :=
  members.map fun m => if m.1 = name then (name, j) else m

theorem Json.lookup_restateMember (name : String) (j : Json) (members : List (String × Json))
    (other : String) :
    (restateMember name j members).lookup other =
      if other = name then (members.lookup name).map fun _ => j else members.lookup other := by
  induction members with
  | nil => simp [restateMember]
  | cons member members ih =>
    obtain ⟨k, v⟩ := member
    unfold restateMember at ih ⊢
    by_cases own : k = name
    · subst own
      by_cases same : other = k
      · subst same
        simp
      · simp [List.lookup_cons, beq_false_of_ne same, ih, same]
    · by_cases same : other = name
      · subst same
        simp [List.lookup_cons, beq_false_of_ne (Ne.symm own), own, ih]
      · by_cases here : other = k
        · subst here
          simp [own]
        · simp [List.lookup_cons, beq_false_of_ne here, own, ih, same]

theorem Json.zip_set_idxOf {names : List String} (distinct : names.Nodup) (name : String) (j : Json)
    (items : List Json) :
    names.zip (items.set (names.idxOf name) j) = restateMember name j (names.zip items) := by
  induction names generalizing items with
  | nil => rfl
  | cons n names ih =>
    obtain ⟨fresh, distinct⟩ := List.nodup_cons.mp distinct
    cases items with
    | nil => rfl
    | cons i items =>
      by_cases own : n = name
      · subst own
        have others : restateMember n j (names.zip items) = names.zip items := by
          refine (List.map_congr_left fun m held => if_neg ?_).trans (List.map_id _)
          rintro rfl
          exact fresh (List.of_mem_zip held).1
        rw [List.idxOf_cons_self, List.set_cons_zero, List.zip_cons_cons, List.zip_cons_cons,
          restateMember, List.map_cons, if_pos rfl]
        exact congrArg _ others.symm
      · have later := ih distinct items
        rw [List.idxOf_cons, beq_false_of_ne own, cond_false, List.set_cons_succ,
          List.zip_cons_cons, List.zip_cons_cons, restateMember, List.map_cons, if_neg own]
        exact congrArg _ later

namespace Fields

variable {α : Type} {fields : Fields α} {place : Place} {name : String} {j : Json}

/-- The value of a record with another value for the field of this name. -/
def restate (fields : Fields α) (name : String) (j : Json) : Json → Json
  | .object members => .object (Json.restateMember name j members)
  | .array items => .array (items.set (fields.names.idxOf name) j)
  | v => v

theorem shaped_restate {v : Json} (shaped : fields.Shaped v) :
    fields.Shaped (fields.restate name j v) := by
  cases v with
  | array items => simpa [Shaped, restate] using shaped
  | _ => exact shaped

theorem given_restate (distinct : fields.names.Nodup) (v : Json) :
    fields.given (fields.restate name j v) = Json.restateMember name j (fields.given v) := by
  cases v with
  | array items => exact Json.zip_set_idxOf distinct name j items
  | _ => rfl

theorem firstMisfit?_restateMember {values : List (String × Json)}
    (fit : fields.firstMisfit? place values = none)
    (fits : fields.misfit? place name j = none) :
    fields.firstMisfit? place (Json.restateMember name j values) = none := by
  refine List.findSome?_eq_none_iff.mpr fun m restated => ?_
  obtain ⟨old, held, rfl⟩ := List.mem_map.mp restated
  split
  · exact fits
  · exact List.findSome?_eq_none_iff.mp fit old held

/-- A record is accepted with another value that fits, and is read from its values with that one
among them. -/
theorem reader_restate (distinct : fields.names.Nodup) (defaulted : fields.Defaulted)
    {record : String} {v : Json} {x y : α} (accepted : fields.reader record place v = .ok x)
    (fits : fields.misfit? place name j = none)
    (assembled : fields.assemble place
      (fun other => (Json.restateMember name j (fields.given v)).lookup other) = .ok y) :
    fields.reader record place (fields.restate name j v) = .ok y := by
  obtain ⟨shaped, fit, -⟩ := (reader_eq_ok_iff distinct defaulted).mp accepted
  refine (reader_eq_ok_iff distinct defaulted).mpr ⟨shaped_restate shaped, ?_, ?_⟩
  · rw [given_restate distinct]
    exact firstMisfit?_restateMember fit fits
  · rwa [given_restate distinct]

end Fields

/-! ## Requests -/

theorem Action.nodup_parameterNames (action : Action) : action.parameterNames.Nodup := by
  cases action <;> decide

namespace Request

variable {action : Action} {name : String} {j request v : Json}

/-- The value that a request gives for a parameter of its action. -/
def parameter? (name : String) (request : Json) : Option Json :=
  match parts request with
  | .ok (action, v) => (action.parameters.2.given v).lookup name
  | .error _ => none

/-- The request with another value for a parameter of its action. -/
def restate (action : Action) (name : String) (j : Json) : Json → Json
  | .object members => .object (Json.restateMember name j members)
  | .array (named :: items) =>
    .array (named :: items.set (action.parameterNames.idxOf name) j)
  | request => request

theorem parameter?_of_parts (read : parts request = .ok (action, v)) :
    parameter? name request = (action.parameters.2.given v).lookup name := by
  unfold parameter?
  rw [read]

theorem filter_restateMember (members : List (String × Json)) :
    (Json.restateMember name j members).filter (fun m => m.1 ≠ actionMember) =
      Json.restateMember name j (members.filter fun m => m.1 ≠ actionMember) := by
  unfold Json.restateMember
  rw [List.filter_map]
  congr 1
  refine List.filter_congr fun m _ => ?_
  dsimp only [Function.comp]
  split
  · next same => rw [same]
  · rfl

theorem parts_restate (read : parts request = .ok (action, v)) (other : name ≠ actionMember) :
    parts (restate action name j request) =
      .ok (action, action.parameters.2.restate name j v) := by
  cases request with
  | object members =>
    unfold parts at read
    dsimp only at read
    cases named : members.lookup actionMember with
    | none =>
      rw [named] at read
      cases read
    | some a =>
      rw [named] at read
      obtain ⟨found, known, same⟩ := Reader.map_eq_ok_iff.mp read
      cases same
      unfold parts restate
      dsimp only
      rw [Json.lookup_restateMember, if_neg other.symm, named]
      dsimp only
      rw [known, filter_restateMember]
      rfl
  | array items =>
    cases items with
    | nil => cases read
    | cons a items =>
      obtain ⟨found, known, same⟩ := Reader.map_eq_ok_iff.mp read
      cases same
      exact Reader.map_eq_ok_iff.mpr ⟨_, known, rfl⟩
  | _ => cases read

theorem parameter?_restate (read : parts request = .ok (action, v)) (other : name ≠ actionMember)
    {i : Json} (given : parameter? name request = some i) (side : String) :
    parameter? side (restate action name j request) =
      if side = name then some j else parameter? side request := by
  rw [parameter?_of_parts read] at given
  rw [parameter?_of_parts (parts_restate read other), parameter?_of_parts read,
    Fields.given_restate action.nodup_parameterNames, Json.lookup_restateMember, given]
  rfl

end Request
end NotebookSim
