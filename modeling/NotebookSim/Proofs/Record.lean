import NotebookSim.Shape.Record
/-!
Reading records. The first value that does not fit is the misfit of the whole record, be it an
object's member or an array's element; a record whose values all fit can still lack one or have
too many.
-/
namespace NotebookSim

/-- Why a value does not fit, if it does not. -/
def Reader.misfit? {α : Type} (read : Reader α) (place : Place) (j : Json) : Option Misfit :=
  match read place j with
  | .error m => some m
  | .ok _ => none

theorem Reader.misfit?_eq_some_iff {α : Type} {read : Reader α} {place : Place} {j : Json}
    {m : Misfit} : read.misfit? place j = some m ↔ read place j = .error m := by
  unfold misfit?
  cases read place j <;> simp

theorem Reader.misfit?_eq_none_iff {α : Type} {read : Reader α} {place : Place} {j : Json} :
    read.misfit? place j = none ↔ ∃ x, read place j = .ok x := by
  unfold misfit?
  cases read place j <;> simp

namespace Fields

variable {α β : Type}

/-- The values that are given for the fields, by name and in the order in which they are read. -/
def given (fields : Fields α) : Json → List (String × Json)
  | .object members => members
  | .array items => fields.names.zip items
  | _ => []

/-- The misfit of the first value that does not fit. -/
def firstMisfit? (fields : Fields α) (place : Place) (values : List (String × Json)) :
    Option Misfit :=
  values.findSome? fun v => fields.misfit? place v.1 v.2

theorem misfit?_and (earlier : Fields (α → β)) (field : Field α) (place : Place) (name : String)
    (j : Json) :
    (earlier.and field).misfit? place name j =
      (earlier.misfit? place name j).or
        (if field.name = name then field.read.misfit? place j else none) := by
  rw [misfit?]
  cases earlier.misfit? place name j with
  | some m => rfl
  | none => rfl

theorem misfit?_of_notMem {fields : Fields α} {name : String} (unknown : name ∉ fields.names)
    (place : Place) (j : Json) : fields.misfit? place name j = none := by
  induction fields with
  | pure x => rfl
  | and earlier field ih =>
    obtain ⟨before, here⟩ : name ∉ earlier.names ∧ name ≠ field.name := by
      simpa [names] using unknown
    rw [misfit?_and, ih before, if_neg here.symm]
    rfl

section Distinct

variable {earlier : Fields (α → β)} {field : Field α}

theorem name_notMem (distinct : (earlier.and field).names.Nodup) : field.name ∉ earlier.names :=
  fun known => (List.nodup_append.mp distinct).2.2 _ known _ List.mem_cons_self rfl

theorem misfit?_and_of_mem (distinct : (earlier.and field).names.Nodup) {name : String}
    (known : name ∈ earlier.names) (place : Place) (j : Json) :
    (earlier.and field).misfit? place name j = earlier.misfit? place name j := by
  have other : field.name ≠ name := by
    rintro rfl
    exact name_notMem distinct known
  rw [misfit?_and, if_neg other, Option.or_none]

theorem misfit?_and_self (distinct : (earlier.and field).names.Nodup) (place : Place) (j : Json) :
    (earlier.and field).misfit? place field.name j = field.read.misfit? place j := by
  rw [misfit?_and, misfit?_of_notMem (name_notMem distinct), if_pos rfl]
  rfl

end Distinct

/-- Whether an object may leave all fields out. -/
def Omittable {α : Type} : Fields α → Prop
  | .pure _ => True
  | .and earlier field => earlier.Omittable ∧ field.absent.isSome

/-! ## Objects -/

theorem assemble_of_fit (fields : Fields α) {place : Place} {value? : String → Option Json}
    (fit : ∀ name j, value? name = some j → fields.misfit? place name j = none) :
    (∃ x, fields.assemble place value? = .ok x) ∨
      ¬ fields.Omittable ∧ ∃ name, fields.assemble place value? = .error (.missing name) := by
  induction fields with
  | pure x => exact .inl ⟨x, rfl⟩
  | and earlier field ih =>
    have before (name : String) (j : Json) (given : value? name = some j) :
        earlier.misfit? place name j = none := by
      have fits := fit name j given
      rw [misfit?_and] at fits
      exact (Option.or_eq_none_iff.mp fits).1
    unfold assemble
    obtain ⟨f, done⟩ | ⟨needs, name, lacks⟩ := ih before
    · rw [done]
      cases given : value? field.name with
      | none =>
        cases absent : field.absent with
        | none =>
          refine .inr ⟨fun omittable => ?_, field.name, by simp [bind, Except.bind]⟩
          simpa [absent] using omittable.2
        | some x => exact .inl ⟨f x, by simp [bind, Except.bind]⟩
      | some j =>
        have fits := fit _ j given
        rw [misfit?_and, if_pos rfl] at fits
        obtain ⟨x, read⟩ := Reader.misfit?_eq_none_iff.mp (Option.or_eq_none_iff.mp fits).2
        exact .inl ⟨f x, by simp [bind, Except.bind, Except.map, read]⟩
    · exact .inr ⟨fun omittable => needs omittable.1, name, by rw [lacks]; rfl⟩

theorem ofMembers_cases (fields : Fields α) (place : Place) (members : List (String × Json)) :
    (∃ m, fields.firstMisfit? place members = some m ∧
      fields.ofMembers place members = .error m) ∨
    (fields.firstMisfit? place members = none ∧
      ((∃ x, fields.ofMembers place members = .ok x) ∨
        ¬ fields.Omittable ∧ ∃ name, fields.ofMembers place members = .error (.missing name))) := by
  unfold ofMembers
  split
  · next m first => exact .inl ⟨m, first, rfl⟩
  · next first =>
    refine .inr ⟨first, fields.assemble_of_fit ?_⟩
    intro name j given
    obtain ⟨before, after, rfl, -⟩ := List.lookup_eq_some_iff.mp given
    exact List.findSome?_eq_none_iff.mp first (name, j) (by simp)

section Assembled

variable {place : Place} {value? : String → Option Json}

/-- A member that may be left out is read if it is given. -/
theorem exists_of_assemble_omittable {earlier : Fields (Option α → β)} {name : String}
    {read : Reader α} {y : β}
    (assembled : (earlier.and (.omittable name read)).assemble place value? = .ok y) :
    ∃ f x, earlier.assemble place value? = .ok f ∧ y = f x ∧
      ∀ j, value? name = some j → Reader.optional read place j = .ok x := by
  unfold assemble at assembled
  cases before : earlier.assemble place value? with
  | error m =>
    rw [before] at assembled
    cases assembled
  | ok f =>
    rw [before] at assembled
    cases given : value? name with
    | none =>
      simp only [bind, Except.bind, Field.omittable, Field.withDefault, given] at assembled
      exact ⟨f, none, rfl, (Except.ok.inj assembled).symm, nofun⟩
    | some j =>
      simp only [bind, Except.bind, Field.omittable, Field.withDefault, given] at assembled
      cases done : Reader.optional read place j with
      | error m =>
        rw [done] at assembled
        cases assembled
      | ok x =>
        rw [done] at assembled
        refine ⟨f, x, rfl, (Except.ok.inj assembled).symm, fun j' given' => ?_⟩
        cases given'
        exact done

theorem assemble_of_read {fields : Fields α} {record : String} {members : List (String × Json)}
    {x : α} (read : fields.reader record place (.object members) = .ok x) :
    fields.assemble place (fun name => members.lookup name) = .ok x := by
  change fields.ofMembers place members = .ok x at read
  unfold ofMembers at read
  split at read
  · cases read
  · exact read

end Assembled

/-! ## Arrays -/

theorem length_names (fields : Fields α) : fields.names.length = fields.count := by
  induction fields with
  | pure x => rfl
  | and earlier field ih => simp [names, count, ih]

/-- The last of the names goes with the element in its place, if there is one. -/
theorem zip_concat (names : List String) (name : String) (items : List Json) :
    (names ++ [name]).zip items =
      names.zip items ++ ((items.drop names.length).head?.map (name, ·)).toList := by
  induction names generalizing items with
  | nil => cases items <;> simp
  | cons n names ih =>
    cases items with
    | nil => simp
    | cons j items => simp [ih]

theorem firstMisfit?_and_of_mem {earlier : Fields (α → β)} {field : Field α}
    (distinct : (earlier.and field).names.Nodup) (place : Place) {values : List (String × Json)}
    (known : ∀ v ∈ values, v.1 ∈ earlier.names) :
    (earlier.and field).firstMisfit? place values = earlier.firstMisfit? place values := by
  induction values with
  | nil => rfl
  | cons v values ih =>
    obtain ⟨here, later⟩ := List.forall_mem_cons.mp known
    have rest := ih later
    unfold firstMisfit? at rest ⊢
    rw [List.findSome?_cons, List.findSome?_cons, misfit?_and_of_mem distinct here, rest]

theorem firstMisfit?_zip_and {earlier : Fields (α → β)} {field : Field α}
    (distinct : (earlier.and field).names.Nodup) (place : Place) (items : List Json) :
    (earlier.and field).firstMisfit? place ((earlier.and field).names.zip items) =
      (earlier.firstMisfit? place (earlier.names.zip items)).or
        ((items.drop earlier.count).head?.bind (field.read.misfit? place)) := by
  have before := firstMisfit?_and_of_mem distinct place
    fun v (member : v ∈ earlier.names.zip items) => (List.of_mem_zip member).1
  unfold firstMisfit? at before ⊢
  rw [names, zip_concat, List.findSome?_append, length_names, before]
  congr 1
  cases (items.drop earlier.count).head? with
  | none => rfl
  | some j => simp [misfit?_and_self distinct]

/-- Elements are taken one by one, up to the first that does not fit or to the first field without
one. -/
theorem takeElements_cases {fields : Fields α} (distinct : fields.names.Nodup) (place : Place)
    (record : String) (size : Nat) (items : List Json) :
    (∃ m, fields.firstMisfit? place (fields.names.zip items) = some m ∧
      fields.takeElements place record size items = .error m) ∨
    (fields.firstMisfit? place (fields.names.zip items) = none ∧
      ((∃ x, fields.takeElements place record size items = .ok (x, items.drop fields.count)) ∨
        items.drop fields.count = [] ∧ ∃ index, fields.takeElements place record size items =
          .error (.short index record size))) := by
  induction fields with
  | pure x => exact .inr ⟨rfl, .inl ⟨x, rfl⟩⟩
  | and earlier field ih =>
    rw [firstMisfit?_zip_and distinct]
    unfold takeElements
    obtain ⟨m, first, fails⟩ | ⟨fits, ⟨f, taken⟩ | ⟨nothing, index, ends⟩⟩ :=
      ih (List.nodup_append.mp distinct).1
    · exact .inl ⟨m, by rw [first]; rfl, by rw [fails]; rfl⟩
    · rw [fits, taken, Option.none_or, count, ← List.drop_drop]
      cases items.drop earlier.count with
      | nil =>
        cases short : field.short with
        | none => exact .inr ⟨rfl, .inr ⟨rfl, earlier.count, by simp [bind, Except.bind]⟩⟩
        | some x => exact .inr ⟨rfl, .inl ⟨f x, by simp [bind, Except.bind]⟩⟩
      | cons j rest =>
        cases read : field.read place j with
        | error m =>
          refine .inl ⟨m, Reader.misfit?_eq_some_iff.mpr read, ?_⟩
          simp [bind, Except.bind, Except.map, read]
        | ok x =>
          refine .inr ⟨Reader.misfit?_eq_none_iff.mpr ⟨x, read⟩, .inl ⟨f x, ?_⟩⟩
          simp [bind, Except.bind, Except.map, read]
    · rw [fits, count, ← List.drop_drop, nothing]
      exact .inr ⟨rfl, .inr ⟨rfl, index, by rw [ends]; rfl⟩⟩

theorem ofElements_cases {fields : Fields α} (distinct : fields.names.Nodup) (place : Place)
    (record : String) (items : List Json) :
    (∃ m, fields.firstMisfit? place (fields.names.zip items) = some m ∧
      fields.ofElements place record items = .error m) ∨
    (fields.firstMisfit? place (fields.names.zip items) = none ∧
      ((∃ x, fields.ofElements place record items = .ok x) ∨
        ∃ m, fields.ofElements place record items = .error m ∧ m ≠ .timeOverflow)) := by
  unfold ofElements
  obtain ⟨m, first, fails⟩ | ⟨fits, ⟨x, taken⟩ | ⟨-, index, ends⟩⟩ :=
    takeElements_cases distinct place record fields.count items
  · exact .inl ⟨m, first, by rw [fails]; rfl⟩
  · rw [taken]
    refine .inr ⟨fits, ?_⟩
    cases items.drop fields.count with
    | nil => exact .inl ⟨x, rfl⟩
    | cons j rest => exact .inr ⟨_, rfl, by simp⟩
  · rw [ends]
    exact .inr ⟨fits, .inr ⟨_, rfl, by simp⟩⟩

/-! ## Records -/

/-- A record is refused for the first value that does not fit. If all fit, it is refused only for
a value that is missing or left over; an object that may leave all fields out is not refused. -/
theorem reader_cases {fields : Fields α} (distinct : fields.names.Nodup) (record : String)
    (place : Place) (j : Json) :
    (∃ m, fields.firstMisfit? place (fields.given j) = some m ∧
      fields.reader record place j = .error m) ∨
    (fields.firstMisfit? place (fields.given j) = none ∧
      ((∃ x, fields.reader record place j = .ok x) ∨
        (∃ m, fields.reader record place j = .error m ∧ m ≠ .timeOverflow) ∧
          (fields.Omittable → ∀ members, j ≠ .object members))) := by
  cases j with
  | object members =>
    obtain fails | ⟨fits, done | ⟨needs, name, lacks⟩⟩ := fields.ofMembers_cases place members
    · exact .inl fails
    · exact .inr ⟨fits, .inl done⟩
    · exact .inr ⟨fits, .inr ⟨⟨_, lacks, by simp⟩, fun omittable => absurd omittable needs⟩⟩
  | array items =>
    obtain fails | ⟨fits, done | refused⟩ := ofElements_cases distinct place record items
    · exact .inl fails
    · exact .inr ⟨fits, .inl done⟩
    · exact .inr ⟨fits, .inr ⟨refused, by simp⟩⟩
  | _ => exact .inr ⟨rfl, .inr ⟨⟨_, rfl, by simp⟩, by simp⟩⟩

end Fields
end NotebookSim
