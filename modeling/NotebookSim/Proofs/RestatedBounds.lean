import NotebookSim.Proofs.Parameters
import NotebookSim.Proofs.ReportedBounds
/-!
List requests in which another time is given for one of the bounds. Such a request is accepted as
the first one was, and asks for the same but for the limit that it now sets.
-/
namespace NotebookSim

/-! ## Limits -/

namespace TimeBound

variable {Key : Type}

/-- The request with this limit for the bound. -/
def withLimit (limit : Timestamp) (p : ListRequest Key) : TimeBound → ListRequest Key
  | createdBefore => { p with created.before := some limit }
  | createdAfter => { p with created.after := some limit }
  | modifiedBefore => { p with modified.before := some limit }
  | modifiedAfter => { p with modified.after := some limit }

section WithLimit

variable (limit : Timestamp) (p : ListRequest Key) (bound : TimeBound)

theorem limit?_withLimit : bound.limit? (bound.withLimit limit p) = some limit := by
  cases bound <;> rfl

theorem lift_withLimit : bound.lift (bound.withLimit limit p) = bound.lift p := by
  cases bound <;> rfl

theorem sortBy_withLimit : (bound.withLimit limit p).sortBy = p.sortBy := by
  cases bound <;> rfl

theorem sortOrder_withLimit : (bound.withLimit limit p).sortOrder = p.sortOrder := by
  cases bound <;> rfl

end WithLimit

/-- What a bound is read as from the values of a record. -/
def stated (place : Place) (value? : String → Option Json) (bound : TimeBound) :
    Except Misfit (Option Timestamp) :=
  (Field.omittable bound.member Reader.timestamp).value place (value? bound.member)

/-- The second values are the first ones but for the bound, which is given as this limit. -/
structure Restates (bound : TimeBound) (place : Place) (value? with? : String → Option Json)
    (limit : Timestamp) : Prop where
  others : ∀ name, name ≠ bound.member → with? name = value? name
  stated : bound.stated place with? = .ok (some limit)

theorem Restates.keeps {bound side : TimeBound} {place : Place}
    {value? with? : String → Option Json} {limit : Timestamp} (restates : bound.Restates place value? with? limit)
    (other : side.member ≠ bound.member) {t : Option Timestamp}
    (read : side.stated place value? = .ok t) : side.stated place with? = .ok t := by
  unfold TimeBound.stated at read ⊢
  rwa [restates.others side.member other]

/-- Whoever gives another limit for the bound is read as `set` says. -/
def Sets {α : Type} (bound : TimeBound) (fields : Fields α) (set : Timestamp → α → α) : Prop :=
  ∀ place value? with? limit x, fields.assemble place value? = .ok x →
    bound.Restates place value? with? limit → fields.assemble place with? = .ok (set limit x)

end TimeBound

/-! ## Reading -/

namespace ListRequest

variable {Key β : Type} {place : Place} {key : Reader Key} {value? with? : String → Option Json}
  {bound : TimeBound} {limit : Timestamp}

theorem assemble_leadingFields_restated
    {next : Option String → Option Nat → Option Key → Option SortOrder → Option String → β}
    (restates : bound.Restates place value? with? limit) :
    (leadingFields key next).assemble place with? =
      (leadingFields key next).assemble place value? := by
  refine Fields.assemble_congr fun name known => restates.others name ?_
  rintro rfl
  change bound.member ∈ ["NextToken", "MaxResults", "SortBy", "SortOrder", "NameContains"] at known
  cases bound <;> exact absurd known (by decide)

theorem assemble_fields_eq_ok_iff {p : ListRequest Key} :
    (fields key).assemble place value? = .ok p ↔
      ∃ lead before after, (leadingFields key ofMembers).assemble place value? = .ok lead ∧
        TimeBound.createdBefore.stated place value? = .ok before ∧
        TimeBound.createdAfter.stated place value? = .ok after ∧ lead before after = p := by
  unfold fields
  rw [Fields.assemble_and_eq_ok_iff]
  constructor
  · rintro ⟨_, after, earlier, afterRead, rfl⟩
    obtain ⟨lead, before, leading, beforeRead, rfl⟩ := Fields.assemble_and_eq_ok_iff.mp earlier
    exact ⟨lead, before, after, leading, beforeRead, afterRead, rfl⟩
  · rintro ⟨lead, before, after, leading, beforeRead, afterRead, rfl⟩
    exact ⟨_, after, Fields.assemble_and_eq_ok_iff.mpr ⟨lead, before, leading, beforeRead, rfl⟩,
      afterRead, rfl⟩

theorem sets_fields (creation : bound ∈ [TimeBound.createdBefore, .createdAfter]) :
    bound.Sets (fields key) fun limit p => bound.withLimit limit p := by
  intro place value? with? limit p assembled restates
  obtain ⟨_, before, after, leading, beforeRead, afterRead, rfl⟩ :=
    assemble_fields_eq_ok_iff.mp assembled
  rw [← assemble_leadingFields_restated restates] at leading
  obtain ⟨token, size, sortBy, order, name, rfl⟩ := exists_of_assemble_leadingFields leading
  refine assemble_fields_eq_ok_iff.mpr ?_
  cases bound with
  | createdBefore =>
    exact ⟨_, some limit, after, leading, restates.stated,
      restates.keeps (by decide) afterRead, rfl⟩
  | createdAfter =>
    exact ⟨_, before, some limit, leading,
      restates.keeps (by decide) beforeRead, restates.stated, rfl⟩
  | modifiedBefore | modifiedAfter => exact absurd creation (by decide)

theorem assemble_fieldsWithModified_eq_ok_iff {next : ListRequest Key → β} {y : β} :
    (fieldsWithModified key next).assemble place value? = .ok y ↔
      ∃ lead cb ca mb ma, (leadingFields key fun token size sortBy order name cb ca mb ma =>
          next ((ofMembers token size sortBy order name cb ca).withModified mb ma)).assemble place
            value? = .ok lead ∧
        TimeBound.createdBefore.stated place value? = .ok cb ∧
        TimeBound.createdAfter.stated place value? = .ok ca ∧
        TimeBound.modifiedBefore.stated place value? = .ok mb ∧
        TimeBound.modifiedAfter.stated place value? = .ok ma ∧ lead cb ca mb ma = y := by
  unfold fieldsWithModified
  rw [Fields.assemble_and_eq_ok_iff]
  constructor
  · rintro ⟨_, ma, before₃, maRead, rfl⟩
    obtain ⟨_, mb, before₂, mbRead, rfl⟩ := Fields.assemble_and_eq_ok_iff.mp before₃
    obtain ⟨_, ca, before₁, caRead, rfl⟩ := Fields.assemble_and_eq_ok_iff.mp before₂
    obtain ⟨lead, cb, leading, cbRead, rfl⟩ := Fields.assemble_and_eq_ok_iff.mp before₁
    exact ⟨lead, cb, ca, mb, ma, leading, cbRead, caRead, mbRead, maRead, rfl⟩
  · rintro ⟨lead, cb, ca, mb, ma, leading, cbRead, caRead, mbRead, maRead, rfl⟩
    have before₁ := Fields.assemble_and_eq_ok_iff.mpr ⟨lead, cb, leading, cbRead, rfl⟩
    have before₂ := Fields.assemble_and_eq_ok_iff.mpr ⟨_, ca, before₁, caRead, rfl⟩
    have before₃ := Fields.assemble_and_eq_ok_iff.mpr ⟨_, mb, before₂, mbRead, rfl⟩
    exact ⟨_, ma, before₃, maRead, rfl⟩

theorem exists_of_assemble_fieldsWithModified {next : ListRequest Key → β} {y : β}
    (assembled : (fieldsWithModified key next).assemble place value? = .ok y) :
    ∃ p, y = next p ∧ ∀ (bound : TimeBound) with? limit, bound.Restates place value? with? limit →
      (fieldsWithModified key next).assemble place with? =
        .ok (next (bound.withLimit limit p)) := by
  obtain ⟨_, cb, ca, mb, ma, leading, cbRead, caRead, mbRead, maRead, rfl⟩ :=
    assemble_fieldsWithModified_eq_ok_iff.mp assembled
  obtain ⟨token, size, sortBy, order, name, rfl⟩ := exists_of_assemble_leadingFields leading
  refine ⟨_, rfl, fun bound with? limit restates => ?_⟩
  rw [← assemble_leadingFields_restated restates] at leading
  refine assemble_fieldsWithModified_eq_ok_iff.mpr ?_
  cases bound with
  | createdBefore =>
    exact ⟨_, some limit, ca, mb, ma, leading, restates.stated, restates.keeps (by decide) caRead,
      restates.keeps (by decide) mbRead, restates.keeps (by decide) maRead, rfl⟩
  | createdAfter =>
    exact ⟨_, cb, some limit, mb, ma, leading, restates.keeps (by decide) cbRead, restates.stated,
      restates.keeps (by decide) mbRead, restates.keeps (by decide) maRead, rfl⟩
  | modifiedBefore =>
    exact ⟨_, cb, ca, some limit, ma, leading, restates.keeps (by decide) cbRead,
      restates.keeps (by decide) caRead, restates.stated, restates.keeps (by decide) maRead, rfl⟩
  | modifiedAfter =>
    exact ⟨_, cb, ca, mb, some limit, leading, restates.keeps (by decide) cbRead,
      restates.keeps (by decide) caRead, restates.keeps (by decide) mbRead, restates.stated, rfl⟩

@[simp] theorem defaulted_leadingFields
    (next : Option String → Option Nat → Option Key → Option SortOrder → Option String → β) :
    (leadingFields key next).Defaulted := by
  simp [leadingFields]

@[simp] theorem defaulted_fields : (fields key).Defaulted := by
  simp [fields]

@[simp] theorem defaulted_fieldsWithModified (next : ListRequest Key → β) :
    (fieldsWithModified key next).Defaulted := by
  simp [fieldsWithModified]

end ListRequest

theorem ListLifecycleConfigs.sets (bound : TimeBound) :
    bound.Sets fields fun limit p => bound.withLimit limit p := by
  intro place value? with? limit p assembled restates
  obtain ⟨_, rfl, restated⟩ := ListRequest.exists_of_assemble_fieldsWithModified assembled
  exact restated bound with? limit restates

/-- The request with this limit for the bound, and with the filters of instances. -/
def ListNotebooks.withLimit (bound : TimeBound) (limit : Timestamp) (p : ListNotebooks) :
    ListNotebooks :=
  { p with toListRequest := bound.withLimit limit p.toListRequest }

theorem ListNotebooks.sets (bound : TimeBound) : bound.Sets fields (withLimit bound) := by
  intro place value? with? limit p assembled restates
  have kept := restates.others
  obtain ⟨_, additional, before₃, additionalValue, rfl⟩ :=
    Fields.assemble_and_eq_ok_iff.mp assembled
  obtain ⟨_, default, before₂, defaultValue, rfl⟩ := Fields.assemble_and_eq_ok_iff.mp before₃
  obtain ⟨_, config, before₁, configValue, rfl⟩ := Fields.assemble_and_eq_ok_iff.mp before₂
  obtain ⟨_, status, leading, statusValue, rfl⟩ := Fields.assemble_and_eq_ok_iff.mp before₁
  obtain ⟨_, rfl, restated⟩ := ListRequest.exists_of_assemble_fieldsWithModified leading
  rw [← kept _ (by cases bound <;> decide)] at additionalValue defaultValue configValue statusValue
  have statused := Fields.assemble_and_eq_ok_iff.mpr
    ⟨_, status, restated bound with? limit restates, statusValue, rfl⟩
  have configured := Fields.assemble_and_eq_ok_iff.mpr ⟨_, config, statused, configValue, rfl⟩
  have defaulted := Fields.assemble_and_eq_ok_iff.mpr ⟨_, default, configured, defaultValue, rfl⟩
  exact Fields.assemble_and_eq_ok_iff.mpr ⟨_, additional, defaulted, additionalValue, rfl⟩

/-! ## Times that fit -/

theorem Reader.optional_timestamp {place : Place} {j : Json} {t : Timestamp}
    (read : timestamp place j = .ok t) : optional timestamp place j = .ok (some t) := by
  cases j with
  | null => cases read
  | _ => exact map_eq_ok_iff.mpr ⟨t, read, rfl⟩

theorem TimeBound.stated_of_given {bound : TimeBound} {place : Place}
    {value? : String → Option Json} {j : Json} {t : Timestamp}
    (given : value? bound.member = some j) (read : Reader.timestamp place j = .ok t) :
    bound.stated place value? = .ok (some t) := by
  unfold stated
  rw [given]
  exact Reader.optional_timestamp read

namespace Fields.TimesAre

variable {α : Type} {fields : Fields α} {times : List String} {name : String}

theorem mem_names (are : fields.TimesAre times) (known : name ∈ times) : name ∈ fields.names := by
  induction are with
  | pure x => cases known
  | other _ _ ih => exact List.mem_append_left _ (ih known)
  | time bound _ ih =>
    obtain before | here := List.mem_append.mp known
    · exact List.mem_append_left _ (ih before)
    · exact List.mem_append_right _ here

theorem misfit?_eq_none (are : fields.TimesAre times) (distinct : fields.names.Nodup)
    (known : name ∈ times) {place : Place} {j : Json} {t : Option Timestamp}
    (read : Reader.optional Reader.timestamp place j = .ok t) :
    fields.misfit? place name j = none := by
  induction are with
  | pure x => cases known
  | other before _ ih =>
    rw [misfit?_and_of_mem distinct (before.mem_names known)]
    exact ih (List.nodup_append.mp distinct).1 known
  | time bound before ih =>
    obtain earlier | here := List.mem_append.mp known
    · rw [misfit?_and_of_mem distinct (before.mem_names earlier)]
      exact ih (List.nodup_append.mp distinct).1 earlier
    · cases List.mem_singleton.mp here
      exact (misfit?_and_self distinct place j).trans (Reader.misfit?_eq_none_iff.mpr ⟨t, read⟩)

end Fields.TimesAre

/-! ## Requests -/

namespace Request

theorem exists_parts_of_read {request : Json} {r : Request} (read : ofJson request = .ok r) :
    ∃ v, parts request = .ok (r.action, v) ∧ ofParameters r.action v = .ok r := by
  rw [ofJson_eq] at read
  cases given : parts request with
  | error m =>
    rw [given] at read
    cases read
  | ok pair =>
    obtain ⟨action, v⟩ := pair
    rw [given] at read
    have parameters : ofParameters action v = .ok r := read
    rw [action_of_ofParameters parameters]
    exact ⟨v, rfl, parameters⟩

theorem parameter?_restate_bound {request j j' : Json} {r : Request} {bound : TimeBound}
    (read : ofJson request = .ok r) (given : parameter? bound.member request = some j)
    (name : String) :
    parameter? name (restate r.action bound.member j' request) =
      if name = bound.member then some j' else parameter? name request := by
  obtain ⟨v, parts, -⟩ := exists_parts_of_read read
  exact parameter?_restate parts (by cases bound <;> decide) given name

/-- A request that gives a time for one of its bounds is accepted with any other time as well. -/
theorem ofJson_restate (action : Action) {bound : TimeBound} {record : String}
    {set : Timestamp → action.parameters.1 → action.parameters.1}
    {make : action.parameters.1 → Request}
    (reads : ∀ v, ofParameters action v =
      (action.parameters.2.reader record .request v).map make)
    (injective : ∀ x y, make x = make y → x = y) (named : ∀ x, (make x).action = action)
    (sets : bound.Sets action.parameters.2 set)
    (are : action.parameters.2.TimesAre action.timeBounds)
    (known : bound.member ∈ action.timeBounds) (defaulted : action.parameters.2.Defaulted)
    {request j j' : Json} {x : action.parameters.1} {t t' : Timestamp}
    (accepted : ofJson request = .ok (make x))
    (given : parameter? bound.member request = some j)
    (read : Reader.timestamp .request j = .ok t) (read' : Reader.timestamp .request j' = .ok t') :
    set t x = x ∧ ofJson (restate action bound.member j' request) = .ok (make (set t' x)) := by
  obtain ⟨v, parts, parameters⟩ := exists_parts_of_read accepted
  rw [named] at parts parameters
  rw [reads] at parameters
  obtain ⟨x', fits, made⟩ := Reader.map_eq_ok_iff.mp parameters
  cases injective x' x made
  rw [parameter?_of_parts parts] at given
  have distinct := action.nodup_parameterNames
  obtain ⟨-, -, assembled⟩ := (Fields.reader_eq_ok_iff distinct defaulted).mp fits
  constructor
  · -- Given the limit that it has, the request is read as what it was.
    have again := sets .request _ _ t x assembled
      ⟨fun _ _ => rfl, TimeBound.stated_of_given given read⟩
    exact Except.ok.inj (again.symm.trans assembled)
  · have other : bound.member ≠ actionMember := by cases bound <;> decide
    have optional := Reader.optional_timestamp read'
    have restates : bound.Restates .request (fun name => (action.parameters.2.given v).lookup name)
        (fun name => (Json.restateMember bound.member j'
          (action.parameters.2.given v)).lookup name) t' := by
      constructor
      · intro name different
        rw [Json.lookup_restateMember, if_neg different]
      · refine TimeBound.stated_of_given ?_ read'
        rw [Json.lookup_restateMember, if_pos rfl, given]
        rfl
    have restated := Fields.reader_restate distinct defaulted fits
      (are.misfit?_eq_none distinct known optional) (sets .request _ _ t' x assembled restates)
    rw [ofJson_eq, parts_restate parts other]
    change ofParameters action _ = _
    rw [reads, restated]
    rfl

section Kinds

variable {bound : TimeBound} {request j j' : Json} {t t' : Timestamp}
  (given : parameter? bound.member request = some j) (read : Reader.timestamp .request j = .ok t)
  (read' : Reader.timestamp .request j' = .ok t')
include given read read'

theorem restate_listNotebooks {p : ListNotebooks}
    (accepted : ofJson request = .ok (.listNotebooks p)) :
    bound.limit? p.toListRequest = some t ∧
      ofJson (restate .listNotebookInstances bound.member j' request) =
        .ok (.listNotebooks (p.withLimit bound t')) := by
  obtain ⟨same, restated⟩ := ofJson_restate .listNotebookInstances (fun _ => rfl)
    (fun _ _ => Request.listNotebooks.inj) (fun _ => rfl) (ListNotebooks.sets bound)
    ListNotebooks.timesAre_fields (by cases bound <;> decide)
    (by simp [Action.parameters, ListNotebooks.fields]) accepted given read read'
  refine ⟨?_, restated⟩
  rw [← same]
  exact TimeBound.limit?_withLimit ..

theorem restate_listLifecycleConfigs {p : ListLifecycleConfigs}
    (accepted : ofJson request = .ok (.listLifecycleConfigs p)) :
    bound.limit? p = some t ∧
      ofJson (restate .listLifecycleConfigs bound.member j' request) =
        .ok (.listLifecycleConfigs (bound.withLimit t' p)) := by
  obtain ⟨same, restated⟩ := ofJson_restate .listLifecycleConfigs (fun _ => rfl)
    (fun _ _ => Request.listLifecycleConfigs.inj) (fun _ => rfl) (ListLifecycleConfigs.sets bound)
    (ListRequest.timesAre_fieldsWithModified (Reader.steady_choice _) _)
    (by cases bound <;> decide)
    (by simp [Action.parameters, ListLifecycleConfigs.fields]) accepted given read read'
  refine ⟨?_, restated⟩
  rw [← same]
  exact TimeBound.limit?_withLimit ..

theorem restate_listModels (creation : bound ∈ [TimeBound.createdBefore, .createdAfter])
    {p : ListModels} (accepted : ofJson request = .ok (.listModels p)) :
    bound.limit? p = some t ∧
      ofJson (restate .listModels bound.member j' request) =
        .ok (.listModels (bound.withLimit t' p)) := by
  obtain ⟨same, restated⟩ := ofJson_restate .listModels (fun _ => rfl)
    (fun _ _ => Request.listModels.inj) (fun _ => rfl) (ListRequest.sets_fields creation)
    (ListRequest.timesAre_fields (Reader.steady_choice _))
    (by cases bound <;> first | decide | exact absurd creation (by decide))
    (by simp [Action.parameters, ListModels.fields]) accepted given read read'
  refine ⟨?_, restated⟩
  rw [← same]
  exact TimeBound.limit?_withLimit ..

end Kinds

end Request
end NotebookSim
