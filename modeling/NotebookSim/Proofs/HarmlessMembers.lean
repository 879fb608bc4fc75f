import NotebookSim.Proofs.Record
import NotebookSim.Proofs.Simulator
/-!
Members that make no difference. A record looks at the members of its fields only, and a field that
may be without a value takes `null` for none. So a request is answered as if it had no members
beyond those of its action, and no optional parameter that is `null`.
-/
namespace NotebookSim

/-! ## Members beside others -/

/-- A member is put between others, or in the place of the one that had its name. -/
theorem Json.insertMember_cases (name : String) (j : Json) (members : List (String × Json)) :
    ∃ before after, Json.insertMember name j members = before ++ (name, j) :: after ∧
      (members = before ++ after ∨ ∃ old, members = before ++ (name, old) :: after) := by
  induction members with
  | nil => exact ⟨[], [], rfl, .inl rfl⟩
  | cons member members ih =>
    obtain ⟨k, v⟩ := member
    rw [insertMember]
    split
    · exact ⟨[], (k, v) :: members, rfl, .inl rfl⟩
    · split
      · next same =>
        subst same
        exact ⟨[], members, rfl, .inr ⟨v, rfl⟩⟩
      · obtain ⟨before, after, inserted, rfl | ⟨old, rfl⟩⟩ := ih
        · exact ⟨(k, v) :: before, after, by rw [inserted]; rfl, .inl rfl⟩
        · exact ⟨(k, v) :: before, after, by rw [inserted]; rfl, .inr ⟨old, rfl⟩⟩

theorem lookup_beside {name other : String} (different : other ≠ name) (j : Json)
    (before after : List (String × Json)) :
    (before ++ (name, j) :: after).lookup other = (before ++ after).lookup other := by
  rw [List.lookup_append, List.lookup_append, List.lookup_cons, beq_false_of_ne different]

/-! ## Records -/

/-- The value stands for none. -/
def Field.Omits {α : Type} (field : Field α) (place : Place) (j : Json) : Prop :=
  ∃ x, field.read place j = .ok x ∧ field.absent = some x

@[simp] theorem Field.omits_optional {α : Type} (name : String) (read : Reader α) (place : Place) :
    (Field.optional name read).Omits place .null :=
  ⟨none, rfl, rfl⟩

@[simp] theorem Field.omits_omittable {α : Type} (name : String) (read : Reader α)
    (place : Place) : (Field.omittable name read).Omits place .null :=
  ⟨none, rfl, rfl⟩

@[simp] theorem Field.name_required {α : Type} (name : String) (read : Reader α) :
    (Field.required name read).name = name := rfl

@[simp] theorem Field.name_withDefault {α : Type} (name : String) (read : Reader α) (value : α) :
    (Field.withDefault name read value).name = name := rfl

namespace Fields

variable {α : Type} {place : Place} {name : String} {j : Json}

/-- Every field of the name, if there is one, takes the value for none. -/
def Omits {α : Type} (place : Place) (name : String) (j : Json) : Fields α → Prop
  | .pure _ => True
  | .and earlier field =>
    earlier.Omits place name j ∧ (field.name = name → field.Omits place j)

theorem omits_of_notMem {fields : Fields α} (unknown : name ∉ fields.names) (place : Place)
    (j : Json) : fields.Omits place name j := by
  induction fields with
  | pure x => trivial
  | and earlier field ih =>
    obtain ⟨before, here⟩ : name ∉ earlier.names ∧ name ≠ field.name := by
      simpa [names] using unknown
    exact ⟨ih before, fun same => absurd same.symm here⟩

theorem Omits.misfit?_eq_none {fields : Fields α} (omits : fields.Omits place name j) :
    fields.misfit? place name j = none := by
  induction fields with
  | pure x => rfl
  | and earlier field ih =>
    obtain ⟨before, here⟩ := omits
    rw [misfit?_and, ih before, Option.none_or]
    split
    · next same =>
      obtain ⟨x, read, -⟩ := here same
      exact Reader.misfit?_eq_none_iff.mpr ⟨x, read⟩
    · rfl

/-- A field that is given a value which stands for none reads what it would be without it. -/
theorem Omits.assemble_eq {fields : Fields α} (omits : fields.Omits place name j)
    {value? with? : String → Option Json}
    (known : name ∈ fields.names → value? name = none ∧ with? name = some j)
    (same : ∀ other, other ≠ name → with? other = value? other) :
    fields.assemble place with? = fields.assemble place value? := by
  induction fields with
  | pure x => rfl
  | and earlier field ih =>
    obtain ⟨before, here⟩ := omits
    rw [assemble, assemble, ih before fun mem => known (List.mem_append_left _ mem)]
    by_cases own : field.name = name
    · obtain ⟨x, read, absent⟩ := here own
      obtain ⟨fresh, given⟩ := known (List.mem_append_right _ (own ▸ List.mem_singleton_self _))
      simp only [own, given, fresh, read, absent]
      rfl
    · rw [same field.name own]

theorem Omits.ofMembers_eq {fields : Fields α} (omits : fields.Omits place name j)
    {before after : List (String × Json)}
    (fresh : name ∈ fields.names → (before ++ after).lookup name = none) :
    fields.ofMembers place (before ++ (name, j) :: after) =
      fields.ofMembers place (before ++ after) := by
  have misfits : fields.firstMisfit? place (before ++ (name, j) :: after) =
      fields.firstMisfit? place (before ++ after) := by
    rw [firstMisfit?, List.findSome?_append, List.findSome?_cons, omits.misfit?_eq_none,
      ← List.findSome?_append]
    rfl
  have known (mem : name ∈ fields.names) : (before ++ after).lookup name = none ∧
      (before ++ (name, j) :: after).lookup name = some j := by
    refine ⟨fresh mem, ?_⟩
    have fresh := fresh mem
    rw [List.lookup_append] at fresh ⊢
    rw [(Option.or_eq_none_iff.mp fresh).1, List.lookup_cons_self, Option.none_or]
  unfold firstMisfit? at misfits
  rw [ofMembers, ofMembers, misfits, omits.assemble_eq known fun other different =>
    lookup_beside different j before after]

end Fields

/-! ## Requests -/

namespace Action

/-- The parameters of an action. -/
def parameters : Action → (α : Type) × Fields α
  | createNotebookInstance => ⟨_, CreateNotebook.fields⟩
  | describeNotebookInstance | startNotebookInstance | stopNotebookInstance
  | deleteNotebookInstance => ⟨_, .ofText "NotebookInstanceName"⟩
  | listNotebookInstances => ⟨_, ListNotebooks.fields⟩
  | createLifecycleConfig => ⟨_, CreateLifecycleConfig.fields⟩
  | describeLifecycleConfig | deleteLifecycleConfig =>
    ⟨_, .ofText "NotebookInstanceLifecycleConfigName"⟩
  | updateLifecycleConfig => ⟨_, UpdateLifecycleConfig.fields⟩
  | listLifecycleConfigs => ⟨_, ListLifecycleConfigs.fields⟩
  | addTags => ⟨_, AddTags.fields⟩
  | listTags => ⟨_, ListTags.fields⟩
  | deleteTags => ⟨_, DeleteTags.fields⟩
  | createModel => ⟨_, CreateModel.fields⟩
  | describeModel | deleteModel => ⟨_, .ofText "ModelName"⟩
  | listModels => ⟨_, ListModels.fields⟩

def parameterNames (action : Action) : List String := action.parameters.2.names

/-- The parameters that may be without a value. -/
def optionalParameters : Action → List String
  | createNotebookInstance => ["SubnetId", "KmsKeyId", "LifecycleConfigName",
      "DirectInternetAccess", "VolumeSizeInGB", "DefaultCodeRepository", "RootAccess"]
  | listNotebookInstances => ["NextToken", "MaxResults", "SortBy", "SortOrder", "NameContains",
      "CreationTimeBefore", "CreationTimeAfter", "LastModifiedTimeBefore",
      "LastModifiedTimeAfter", "StatusEquals", "NotebookInstanceLifecycleConfigNameContains",
      "DefaultCodeRepositoryContains", "AdditionalCodeRepositoryEquals"]
  | updateLifecycleConfig => ["OnCreate", "OnStart"]
  | listLifecycleConfigs => ["NextToken", "MaxResults", "SortBy", "SortOrder", "NameContains",
      "CreationTimeBefore", "CreationTimeAfter", "LastModifiedTimeBefore",
      "LastModifiedTimeAfter"]
  | listTags => ["MaxResults", "NextToken"]
  | createModel => ["PrimaryContainer"]
  | listModels => ["NextToken", "MaxResults", "SortBy", "SortOrder", "NameContains",
      "CreationTimeBefore", "CreationTimeAfter"]
  | _ => []

theorem ofParameters_eq (action : Action) : ∃ build, ∀ members,
    Request.ofParameters action (.object members) =
      (action.parameters.2.ofMembers .request members).map build := by
  cases action <;> exact ⟨_, fun _ => rfl⟩

theorem omits_optionalParameters {action : Action} {name : String}
    (optional : name ∈ action.optionalParameters) :
    action.parameters.2.Omits .request name .null := by
  cases action with
  | createNotebookInstance =>
    simp only [optionalParameters, List.mem_cons, List.not_mem_nil, or_false] at optional
    obtain rfl | rfl | rfl | rfl | rfl | rfl | rfl := optional <;>
      simp [parameters, CreateNotebook.fields, Fields.Omits]
  | updateLifecycleConfig =>
    simp only [optionalParameters, List.mem_cons, List.not_mem_nil, or_false] at optional
    obtain rfl | rfl := optional <;> simp [parameters, UpdateLifecycleConfig.fields, Fields.Omits]
  | listTags =>
    simp only [optionalParameters, List.mem_cons, List.not_mem_nil, or_false] at optional
    obtain rfl | rfl := optional <;> simp [parameters, ListTags.fields, Fields.Omits]
  | createModel =>
    obtain rfl := List.mem_singleton.mp optional
    simp [parameters, CreateModel.fields, Fields.Omits]
  | listNotebookInstances =>
    simp [parameters, ListNotebooks.fields, ListRequest.fieldsWithModified,
      ListRequest.leadingFields, Fields.Omits]
  | listLifecycleConfigs =>
    simp [parameters, ListLifecycleConfigs.fields, ListRequest.fieldsWithModified,
      ListRequest.leadingFields, Fields.Omits]
  | listModels =>
    simp [parameters, ListModels.fields, ListRequest.fields, ListRequest.leadingFields,
      Fields.Omits]
  | _ => cases optional

/-- Every other parameter refuses `null`. -/
theorem misfit?_null_isSome (action : Action) :
    ∀ name ∈ action.parameterNames, name ∉ action.optionalParameters →
      (action.parameters.2.misfit? .request name .null).isSome = true := by
  cases action <;> decide

/-- No parameter has the name of a member that says what a request is or where it goes. -/
theorem notMem_optionalParameters (action : Action) :
    ∀ name ∈ ["Action", "AccountId", "Region"], name ∉ action.optionalParameters := by
  cases action <;> decide

end Action

namespace Request

/-- A member of a request that its parameters take for none can be left out. -/
theorem ofJson_beside {action : Action} {name : String} {j : Json}
    (omits : action.parameters.2.Omits .request name j) (other : name ≠ actionMember)
    {before after : List (String × Json)}
    (names : (before ++ after).lookup actionMember = some (.string action.name))
    (fresh : name ∈ action.parameterNames → (before ++ after).lookup name = none) :
    ofJson (.object (before ++ (name, j) :: after)) = ofJson (.object (before ++ after)) := by
  obtain ⟨build, parameters⟩ := action.ofParameters_eq
  have known : actionOf (.string action.name) = .ok action := by
    cases action <;> rfl
  have fresh (mem : name ∈ action.parameters.2.names) :
      (before.filter (·.1 ≠ actionMember) ++ after.filter (·.1 ≠ actionMember)).lookup name =
        none := by
    rw [← List.filter_append]
    refine List.lookup_eq_none_iff.mpr fun member held => ?_
    exact List.lookup_eq_none_iff.mp (fresh mem) member (List.mem_filter.mp held).1
  rw [ofJson, ofJson, lookup_beside (Ne.symm other), names]
  simp only [known, bind, Except.bind, parameters, List.filter_append]
  rw [List.filter_cons_of_pos (by simpa using other), omits.ofMembers_eq fresh]

end Request

namespace Simulator

theorem handle_beside (sim : Simulator) (fallback : Scope) (now : Timestamp) {name : String}
    {j : Json} {before after : List (String × Json)}
    (others : ∀ special ∈ ["Action", "AccountId", "Region"], special ≠ name)
    (parsed : Request.ofJson (.object (before ++ (name, j) :: after)) =
      Request.ofJson (.object (before ++ after))) :
    sim.handle fallback now (.object (before ++ (name, j) :: after)) =
      sim.handle fallback now (.object (before ++ after)) := by
  have member (special : String) (listed : special ∈ ["Action", "AccountId", "Region"]) :
      Json.stringMember? special (.object (before ++ (name, j) :: after)) =
        Json.stringMember? special (.object (before ++ after)) :=
    congrArg (Option.bind · Json.string?) (lookup_beside (others special listed) j before after)
  have scope : requestScope (.object (before ++ (name, j) :: after)) fallback =
      requestScope (.object (before ++ after)) fallback := by
    rw [requestScope, requestScope, member "AccountId" (by decide), member "Region" (by decide)]
  have refused (e : ServiceError) : sim.reject (.object (before ++ (name, j) :: after)) e =
      sim.reject (.object (before ++ after)) e := by
    rw [reject, reject, requestedAction, requestedAction, Request.actionMember,
      member "Action" (by decide)]
  unfold handle
  rw [scope, parsed]
  simp only [refused]

/-- A request for one of the actions is answered alike, and leaves the same simulator, with and
without a member that is neither a parameter of the action nor says where the request goes, and with
and without an optional parameter that is `null`. -/
theorem handle_insertMember (sim : Simulator) (fallback : Scope) (now : Timestamp)
    {action : Action} {members : List (String × Json)}
    (names : members.lookup "Action" = some (.string action.name)) (name : String) :
    (name ∉ ["Action", "AccountId", "Region"] → name ∉ action.parameterNames → ∀ j,
      sim.handle fallback now (.object (Json.insertMember name j members)) =
        sim.handle fallback now (.object members)) ∧
    (name ∈ action.optionalParameters → members.lookup name = none →
      sim.handle fallback now (.object (Json.insertMember name .null members)) =
        sim.handle fallback now (.object members)) := by
  constructor
  · intro plain unknown j
    have others (special : String) (listed : special ∈ ["Action", "AccountId", "Region"]) :
        special ≠ name := fun same => plain (same ▸ listed)
    have beside (j : Json) {before after : List (String × Json)}
        (names : (before ++ after).lookup "Action" = some (.string action.name)) :
        sim.handle fallback now (.object (before ++ (name, j) :: after)) =
          sim.handle fallback now (.object (before ++ after)) :=
      sim.handle_beside fallback now others <| Request.ofJson_beside
        (Fields.omits_of_notMem unknown .request j) (others "Action" (by decide)).symm names
        fun known => absurd known unknown
    obtain ⟨before, after, inserted, rfl | ⟨old, rfl⟩⟩ := Json.insertMember_cases name j members
    · rw [inserted, beside j names]
    · rw [lookup_beside (others "Action" (by decide))] at names
      rw [inserted, beside j names, beside old names]
  · intro optional fresh
    have others (special : String) (listed : special ∈ ["Action", "AccountId", "Region"]) :
        special ≠ name := by
      rintro rfl
      exact action.notMem_optionalParameters special listed optional
    obtain ⟨before, after, inserted, rfl | ⟨old, rfl⟩⟩ :=
      Json.insertMember_cases name .null members
    · rw [inserted]
      exact sim.handle_beside fallback now others <| Request.ofJson_beside
        (Action.omits_optionalParameters optional) (others "Action" (by decide)).symm names
        fun _ => fresh
    · have absent := List.lookup_eq_none_iff.mp fresh (name, old) (by simp)
      simp at absent

/-- A request without the container that a model may have. -/
def bareModel : List (String × Json) :=
  [("Action", .string "CreateModel"), ("ExecutionRoleArn", .string "role"),
    ("ModelName", .string "m")]

/-- A comment changes nothing, and neither does it to say that there is no container. -/
theorem handle_insertMember_bareModel :
    (empty .default).handle home .epoch
        (.object (Json.insertMember "Comment" (.array []) bareModel)) =
      (empty .default).handle home .epoch (.object bareModel) ∧
    (empty .default).handle home .epoch
        (.object (Json.insertMember "PrimaryContainer" .null bareModel)) =
      (empty .default).handle home .epoch (.object bareModel) ∧
    ∃ reply next, (empty .default).handle home .epoch (.object bareModel) = .ok (reply, next) ∧
      reply.statusCode = 200 := by
  have names : bareModel.lookup "Action" = some (.string Action.createModel.name) := rfl
  obtain ⟨commented, -⟩ := (empty .default).handle_insertMember home .epoch names "Comment"
  obtain ⟨-, contained⟩ :=
    (empty .default).handle_insertMember home .epoch names "PrimaryContainer"
  refine ⟨commented (by decide) (by decide) (.array []), contained (by decide) rfl, ?_⟩
  exact ⟨_, _, rfl, rfl⟩

end Simulator
end NotebookSim
