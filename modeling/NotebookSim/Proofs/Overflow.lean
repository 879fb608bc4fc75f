import NotebookSim.Proofs.Record
import NotebookSim.Request
/-!
Which requests stop the simulator. A number that bounds times in a list request may name an instant
past the last one that can be represented; nothing else that a request holds does.
-/
namespace NotebookSim

/-- A number of seconds that names no instant. -/
def Json.IsFar (j : Json) : Prop :=
  ∃ x, Reader.number .request j = .ok x ∧ (Timestamp.secondsLimit : Rat) ≤ x.toRat

/-- A reader that no value makes the simulator stop. -/
def Reader.Steady {α : Type} (read : Reader α) : Prop :=
  ∀ place j, read place j ≠ .error .timeOverflow

variable {α : Type}

namespace Reader

theorem timestamp_of_number {j : Json} {x : Binary64} (read : number .request j = .ok x)
    (place : Place) :
    timestamp place j =
      if x.toRat < (Timestamp.secondsLimit : Rat) then .ok (.ofExactSeconds x.toRat)
      else .error .timeOverflow := by
  have read' : number place j = .ok x := by cases j <;> exact read
  unfold timestamp Timestamp.ofSeconds?
  simp only [read', bind, Except.bind]
  by_cases near : x.toRat < (Timestamp.secondsLimit : Rat)
  · simp only [if_pos near]
  · simp only [if_neg near]

/-- A value is no number, or too far, or is turned into the time nearest to it. -/
theorem timestamp_cases (place : Place) (j : Json) :
    ((∀ x, number .request j ≠ .ok x) ∧ timestamp place j = .error (.kind j "f64")) ∨
    (j.IsFar ∧ timestamp place j = .error .timeOverflow) ∨
    ∃ x, number .request j = .ok x ∧ x.toRat < (Timestamp.secondsLimit : Rat) ∧
      timestamp place j = .ok (.ofExactSeconds x.toRat) := by
  cases read : number .request j with
  | error m =>
    refine .inl ⟨by simp, ?_⟩
    cases j with
    | integer i => cases read
    | float x => cases read
    | _ => rfl
  | ok x =>
    rw [timestamp_of_number read]
    by_cases near : x.toRat < (Timestamp.secondsLimit : Rat)
    · rw [if_pos near]
      exact .inr (.inr ⟨x, rfl, near, rfl⟩)
    · rw [if_neg near]
      exact .inr (.inl ⟨⟨x, read, Rat.not_lt.mp near⟩, rfl⟩)

theorem timestamp_eq_overflow_iff (place : Place) (j : Json) :
    timestamp place j = .error .timeOverflow ↔ j.IsFar := by
  obtain ⟨other, time⟩ | ⟨far, time⟩ | ⟨x, read, near, time⟩ := timestamp_cases place j
  · rw [time]
    exact ⟨nofun, fun ⟨x, read, _⟩ => absurd read (other x)⟩
  · exact ⟨fun _ => far, fun _ => time⟩
  · rw [time]
    refine ⟨nofun, fun ⟨x', read', far⟩ => ?_⟩
    cases read.symm.trans read'
    exact absurd near (Rat.not_lt.mpr far)

theorem map_eq_error_iff {β : Type} {result : Except Misfit α} {f : α → β} {m : Misfit} :
    result.map f = .error m ↔ result = .error m := by
  cases result <;> simp [Except.map]

theorem map_eq_ok_iff {β : Type} {result : Except Misfit α} {f : α → β} {y : β} :
    result.map f = .ok y ↔ ∃ x, result = .ok x ∧ f x = y := by
  cases result <;> simp [Except.map]

theorem optional_eq_error_iff {read : Reader α} {place : Place} {j : Json} {m : Misfit} :
    optional read place j = .error m ↔ j ≠ .null ∧ read place j = .error m := by
  cases j with
  | null => exact ⟨nofun, fun h => absurd rfl h.1⟩
  | _ => exact map_eq_error_iff.trans ⟨fun h => ⟨nofun, h⟩, And.right⟩

theorem optional_timestamp_misfit?_iff (place : Place) (j : Json) :
    (optional timestamp).misfit? place j = some .timeOverflow ↔ j.IsFar := by
  rw [misfit?_eq_some_iff, optional_eq_error_iff, timestamp_eq_overflow_iff,
    and_iff_right_iff_imp]
  rintro ⟨x, read, -⟩ rfl
  cases read

/-! ## Readers of everything else -/

@[simp] theorem steady_text : text.Steady := by
  intro place j
  cases j <;> nofun

@[simp] theorem steady_boolean : boolean.Steady := by
  intro place j
  cases j <;> nofun

@[simp] theorem steady_natural (limit : Nat) (name : String) : (natural limit name).Steady := by
  intro place j
  cases j with
  | integer i =>
    simp only [natural]
    split <;> nofun
  | _ => nofun

@[simp] theorem Steady.optional {read : Reader α} (steady : read.Steady) : (optional read).Steady :=
  fun place j stops => steady place j (optional_eq_error_iff.mp stops).2

theorem mapM_ne_overflow {β : Type} {read : α → Except Misfit β} {items : List α}
    (steady : ∀ x, read x ≠ .error .timeOverflow) :
    items.mapM read ≠ .error .timeOverflow := by
  induction items with
  | nil => nofun
  | cons x items ih =>
    rw [List.mapM_cons]
    cases first : read x with
    | error m =>
      intro stops
      cases stops
      exact steady x first
    | ok y =>
      cases rest : items.mapM read with
      | error m =>
        intro stops
        cases stops
        exact ih rest
      | ok ys => nofun

@[simp] theorem Steady.list {read : Reader α} (steady : read.Steady) : (list read).Steady := by
  intro place j
  cases j with
  | array items => exact mapM_ne_overflow (steady place)
  | _ => nofun

@[simp] theorem steady_dictionary : dictionary.Steady := by
  intro place j
  cases j with
  | object members =>
    exact mapM_ne_overflow fun member stops => steady_text place _ (map_eq_error_iff.mp stops)
  | _ => nofun

theorem named_ne_overflow (variants : List (String × α)) (name : String) :
    named variants name ≠ .error .timeOverflow := by
  unfold named
  split <;> nofun

theorem steady_payload : payload.Steady := by
  intro place j
  unfold payload
  split <;> nofun

@[simp] theorem steady_choice (variants : List (String × α)) : (choice variants).Steady := by
  intro place j
  unfold choice
  split
  · exact named_ne_overflow variants _
  · rename_i name j
    cases known : named variants name with
    | error m =>
      intro stops
      cases stops
      exact named_ne_overflow variants name known
    | ok x =>
      cases fits : payload place j with
      | error m =>
        intro stops
        cases stops
        exact steady_payload place j fits
      | ok u => nofun
  · nofun
  · nofun

end Reader

/-! ## Records -/

namespace Fields

/-- The times among the fields of a record are those of these names. -/
inductive TimesAre : {α : Type} → Fields α → List String → Prop
  | pure {α : Type} (x : α) : (Fields.pure x).TimesAre []
  | other {α β : Type} {earlier : Fields (α → β)} {field : Field α} {times : List String} :
    earlier.TimesAre times → field.read.Steady → (earlier.and field).TimesAre times
  | time {β : Type} {earlier : Fields (Option Timestamp → β)} {times : List String}
    (name : String) : earlier.TimesAre times →
    (earlier.and (.omittable name Reader.timestamp)).TimesAre (times ++ [name])

variable {fields : Fields α} {times : List String}

theorem TimesAre.misfit?_eq_overflow_iff (are : fields.TimesAre times)
    (distinct : fields.names.Nodup) (place : Place) (name : String) (j : Json) :
    fields.misfit? place name j = some .timeOverflow ↔ name ∈ times ∧ j.IsFar := by
  induction are with
  | pure x => simp [misfit?]
  | @other α β earlier field times _ steady ih =>
    have before := ih (List.nodup_append.mp distinct).1
    rw [misfit?_and, Option.or_eq_some_iff, before, or_iff_left_iff_imp]
    rintro ⟨-, stops⟩
    split at stops
    · exact absurd (Reader.misfit?_eq_some_iff.mp stops) (steady place j)
    · cases stops
  | @time β earlier times bound _ ih =>
    have before := ih (List.nodup_append.mp distinct).1
    by_cases here : bound = name
    · subst here
      have alone := misfit?_and_self distinct place j
      change (earlier.and _).misfit? place bound j = _ at alone
      rw [alone]
      simp [Field.omittable, Field.withDefault, Reader.optional_timestamp_misfit?_iff]
    · rw [misfit?_and, if_neg (show (Field.omittable bound _).name ≠ name from here),
        Option.or_none, before]
      simp [Ne.symm here]

theorem firstMisfit?_eq_overflow_iff (are : fields.TimesAre times)
    (distinct : fields.names.Nodup) (place : Place) (values : List (String × Json)) :
    fields.firstMisfit? place values = some .timeOverflow ↔
      ∃ earlier name far later, values = earlier ++ (name, far) :: later ∧
        fields.firstMisfit? place earlier = none ∧ name ∈ times ∧ far.IsFar := by
  simp only [firstMisfit?, List.findSome?_eq_some_iff, List.findSome?_eq_none_iff, Prod.exists,
    are.misfit?_eq_overflow_iff distinct]
  constructor
  · rintro ⟨earlier, name, far, later, rfl, stops, fit⟩
    exact ⟨earlier, name, far, later, rfl, fit, stops⟩
  · rintro ⟨earlier, name, far, later, rfl, fit, stops⟩
    exact ⟨earlier, name, far, later, rfl, stops, fit⟩

/-- A record stops the simulator exactly if the first of its values that does not fit is given for
a time and too far. -/
theorem reader_eq_overflow_iff (are : fields.TimesAre times) (distinct : fields.names.Nodup)
    (record : String) (place : Place) (j : Json) :
    fields.reader record place j = .error .timeOverflow ↔
      ∃ earlier name far later, fields.given j = earlier ++ (name, far) :: later ∧
        fields.firstMisfit? place earlier = none ∧ name ∈ times ∧ far.IsFar := by
  rw [← firstMisfit?_eq_overflow_iff are distinct]
  obtain ⟨m, first, fails⟩ | ⟨fits, ⟨x, done⟩ | ⟨⟨m, fails, stays⟩, -⟩⟩ :=
    reader_cases distinct record place j
  · rw [first, fails, Except.error.injEq, Option.some.injEq]
  · rw [fits, done]
    exact ⟨nofun, nofun⟩
  · rw [fits, fails]
    exact ⟨fun h => absurd (Except.error.inj h) stays, nofun⟩

/-- The values fit exactly if the object that has only them is accepted. -/
theorem firstMisfit?_eq_none_iff (distinct : fields.names.Nodup) (omittable : fields.Omittable)
    (record : String) (place : Place) (values : List (String × Json)) :
    fields.firstMisfit? place values = none ↔
      ∃ x, fields.reader record place (.object values) = .ok x := by
  obtain ⟨m, first, fails⟩ | ⟨fits, ⟨x, done⟩ | ⟨-, never⟩⟩ :=
    reader_cases distinct record place (.object values)
  · rw [fails]
    exact ⟨fun h => absurd (first.symm.trans h) nofun, nofun⟩
  · exact ⟨fun _ => ⟨x, done⟩, fun _ => fits⟩
  · exact absurd rfl (never omittable values)

end Fields

/-! ## Requests without times -/

@[simp] theorem Field.read_required (name : String) (read : Reader α) :
    (required name read).read = read := rfl

@[simp] theorem Field.read_optional (name : String) (read : Reader α) :
    (optional name read).read = Reader.optional read := rfl

@[simp] theorem Field.read_withDefault (name : String) (read : Reader α) (value : α) :
    (withDefault name read value).read = read := rfl

@[simp] theorem Field.read_omittable (name : String) (read : Reader α) :
    (omittable name read).read = Reader.optional read := rfl

namespace Fields

/-- No field of the record reads a time. -/
@[simp] def Steady {α : Type} : Fields α → Prop
  | .pure _ => True
  | .and earlier field => earlier.Steady ∧ field.read.Steady

theorem Steady.timesAre {fields : Fields α} (steady : fields.Steady) : fields.TimesAre [] := by
  induction fields with
  | pure x => exact .pure x
  | and earlier field ih => exact .other (ih steady.1) steady.2

theorem Steady.reader {fields : Fields α} (steady : fields.Steady) (distinct : fields.names.Nodup)
    (record : String) : (fields.reader record).Steady := by
  intro place j stops
  obtain ⟨_, _, _, _, -, -, none, -⟩ :=
    (reader_eq_overflow_iff steady.timesAre distinct record place j).mp stops
  cases none

theorem steady_ofText (name record : String) : ((ofText name).reader record).Steady :=
  Steady.reader (by simp [ofText]) (by simp [ofText, names]) record

end Fields

@[simp] theorem Tag.steady_reader : Tag.reader.Steady :=
  Fields.Steady.reader (by simp [fields]) (by decide) _

@[simp] theorem LifecycleHook.steady_reader : LifecycleHook.reader.Steady :=
  Fields.Steady.reader (by simp [fields]) (by decide) _

@[simp] theorem ContainerDefinition.steady_reader : ContainerDefinition.reader.Steady :=
  Fields.Steady.reader (by simp [fields]) (by decide) _

theorem CreateNotebook.steady_reader : CreateNotebook.reader.Steady :=
  Fields.Steady.reader (by simp [fields, Access.reader, Reader.volume]) (by decide) _

theorem CreateLifecycleConfig.steady_reader : CreateLifecycleConfig.reader.Steady :=
  Fields.Steady.reader (by simp [fields]) (by decide) _

theorem UpdateLifecycleConfig.steady_reader : UpdateLifecycleConfig.reader.Steady :=
  Fields.Steady.reader (by simp [fields]) (by decide) _

theorem AddTags.steady_reader : AddTags.reader.Steady :=
  Fields.Steady.reader (by simp [fields]) (by decide) _

theorem ListTags.steady_reader : ListTags.reader.Steady :=
  Fields.Steady.reader (by simp [fields, Reader.size]) (by decide) _

theorem DeleteTags.steady_reader : DeleteTags.reader.Steady :=
  Fields.Steady.reader (by simp [fields]) (by decide) _

theorem CreateModel.steady_reader : CreateModel.reader.Steady :=
  Fields.Steady.reader (by simp [fields]) (by decide) _

/-! ## The times of requests -/

/-- The members of a request that bound times. -/
def Action.timeBounds : Action → List String
  | .listNotebookInstances | .listLifecycleConfigs => ["CreationTimeBefore", "CreationTimeAfter",
      "LastModifiedTimeBefore", "LastModifiedTimeAfter"]
  | .listModels => ["CreationTimeBefore", "CreationTimeAfter"]
  | _ => []

namespace ListRequest

variable {Key β : Type} {key : Reader Key}

theorem steady_leadingFields (steady : key.Steady)
    (next : Option String → Option Nat → Option Key → Option SortOrder → Option String → β) :
    (leadingFields key next).Steady := by
  simp [leadingFields, SortOrder.reader, Reader.size, steady]

theorem timesAre_fields (steady : key.Steady) :
    (fields key).TimesAre Action.listModels.timeBounds :=
  .time _ (.time _ (steady_leadingFields steady _).timesAre)

theorem timesAre_fieldsWithModified (steady : key.Steady) (next : ListRequest Key → β) :
    (fieldsWithModified key next).TimesAre Action.listLifecycleConfigs.timeBounds :=
  .time _ (.time _ (.time _ (.time _ (steady_leadingFields steady _).timesAre)))

end ListRequest

theorem ListNotebooks.timesAre_fields :
    ListNotebooks.fields.TimesAre Action.listNotebookInstances.timeBounds := by
  refine .other (.other (.other (.other (ListRequest.timesAre_fieldsWithModified
    (Reader.steady_choice _) _) ?status) ?lifecycleConfig) ?defaultRepository) ?additionalRepository
  case status => exact (Reader.steady_choice _).optional
  case lifecycleConfig => exact Reader.steady_text.optional
  case defaultRepository => exact Reader.steady_text.optional
  case additionalRepository => exact Reader.steady_text.optional

namespace Request

/-- The action of a request and the value that has its parameters. -/
def parts : Json → Except Misfit (Action × Json)
  | .object members =>
    match members.lookup actionMember with
    | none => .error (.missing actionMember)
    | some j => (actionOf j).map fun action =>
      (action, .object (members.filter fun m => m.1 ≠ actionMember))
  | .array [] => .error (.missing actionMember)
  | .array (j :: items) => (actionOf j).map fun action => (action, .array items)
  | j => .error (.kind j "internally tagged enum Request")

theorem ofJson_eq (request : Json) :
    ofJson request = (parts request).bind fun (action, j) => ofParameters action j := by
  have bindMap (action : Except Misfit Action) (j : Json) :
      (do ofParameters (← action) j) =
        (action.map fun action => (action, j)).bind fun (action, j) => ofParameters action j := by
    cases action <;> rfl
  cases request with
  | object members =>
    simp only [ofJson, parts]
    cases members.lookup actionMember with
    | none => rfl
    | some j => exact bindMap (actionOf j) _
  | array items =>
    cases items with
    | nil => rfl
    | cons j items => exact bindMap (actionOf j) _
  | _ => rfl

/-- The parameters of a list request, by name and in the order in which they are read. -/
def listParameters : Action → Json → List (String × Json)
  | .listNotebookInstances => ListNotebooks.fields.given
  | .listLifecycleConfigs => ListLifecycleConfigs.fields.given
  | .listModels => ListModels.fields.given
  | _ => fun _ => []

/-- Of the parameters of a list request, the first that does not fit bounds a time, and it is a
number that is too far. -/
def ParametersOverflow (action : Action) (parameters : Json) : Prop :=
  ∃ earlier bound far later, listParameters action parameters = earlier ++ (bound, far) :: later ∧
    (∃ r, ofParameters action (.object earlier) = .ok r) ∧ bound ∈ action.timeBounds ∧ far.IsFar

def Overflows (request : Json) : Prop :=
  ∃ action parameters, parts request = .ok (action, parameters) ∧
    ParametersOverflow action parameters

theorem listReader_eq_overflow_iff {α : Type} {fields : Fields α} {times : List String}
    (are : fields.TimesAre times) (distinct : fields.names.Nodup) (omittable : fields.Omittable)
    (record : String) (make : α → Request) (parameters : Json) :
    (fields.reader record .request parameters).map make = .error .timeOverflow ↔
      ∃ earlier bound far later, fields.given parameters = earlier ++ (bound, far) :: later ∧
        (∃ r, (fields.reader record .request (.object earlier)).map make = .ok r) ∧
        bound ∈ times ∧ far.IsFar := by
  have accepted (earlier : List (String × Json)) :
      (∃ r, (fields.reader record .request (.object earlier)).map make = .ok r) ↔
        fields.firstMisfit? .request earlier = none := by
    rw [Fields.firstMisfit?_eq_none_iff distinct omittable record]
    cases fields.reader record .request (.object earlier) <;> simp [Except.map]
  rw [Reader.map_eq_error_iff, Fields.reader_eq_overflow_iff are distinct]
  simp only [accepted]

theorem ofParameters_eq_overflow_iff (action : Action) (parameters : Json) :
    ofParameters action parameters = .error .timeOverflow ↔
      ParametersOverflow action parameters := by
  have never {α : Type} {read : Reader α} (steady : read.Steady) (make : α → Request)
      (none : action.timeBounds = []) :
      (read .request parameters).map make = .error .timeOverflow ↔
        ParametersOverflow action parameters := by
    unfold ParametersOverflow
    rw [Reader.map_eq_error_iff, none]
    constructor
    · intro stops
      exact absurd stops (steady .request parameters)
    · rintro ⟨_, _, _, _, -, -, bound, -⟩
      cases bound
  cases action with
  | createNotebookInstance => exact never CreateNotebook.steady_reader _ rfl
  | describeNotebookInstance | startNotebookInstance | stopNotebookInstance
  | deleteNotebookInstance => exact never (Fields.steady_ofText _ _) _ rfl
  | createLifecycleConfig => exact never CreateLifecycleConfig.steady_reader _ rfl
  | updateLifecycleConfig => exact never UpdateLifecycleConfig.steady_reader _ rfl
  | describeLifecycleConfig | deleteLifecycleConfig =>
    exact never (Fields.steady_ofText _ _) _ rfl
  | addTags => exact never AddTags.steady_reader _ rfl
  | listTags => exact never ListTags.steady_reader _ rfl
  | deleteTags => exact never DeleteTags.steady_reader _ rfl
  | createModel => exact never CreateModel.steady_reader _ rfl
  | describeModel | deleteModel => exact never (Fields.steady_ofText _ _) _ rfl
  | listNotebookInstances =>
    exact listReader_eq_overflow_iff ListNotebooks.timesAre_fields (by decide) (by trivial) _ _
      parameters
  | listLifecycleConfigs =>
    exact listReader_eq_overflow_iff
      (ListRequest.timesAre_fieldsWithModified (Reader.steady_choice _) _) (by decide) (by trivial)
      _ _ parameters
  | listModels =>
    exact listReader_eq_overflow_iff (ListRequest.timesAre_fields (Reader.steady_choice _))
      (by decide) (by trivial) _ _ parameters

theorem parts_ne_overflow (request : Json) : parts request ≠ .error .timeOverflow := by
  have named (j : Json) : actionOf j ≠ .error .timeOverflow := by
    cases j with
    | string s => exact Reader.named_ne_overflow _ s
    | _ => nofun
  cases request with
  | object members =>
    simp only [parts]
    cases members.lookup actionMember with
    | none => nofun
    | some j => exact fun stops => named j (Reader.map_eq_error_iff.mp stops)
  | array items =>
    cases items with
    | nil => nofun
    | cons j items => exact fun stops => named j (Reader.map_eq_error_iff.mp stops)
  | _ => nofun

theorem ofJson_eq_overflow_iff (request : Json) :
    ofJson request = .error .timeOverflow ↔ Overflows request := by
  rw [ofJson_eq]
  unfold Overflows
  simp only [← ofParameters_eq_overflow_iff]
  cases read : parts request with
  | error m =>
    constructor
    · intro stops
      cases stops
      exact absurd read (parts_ne_overflow request)
    · rintro ⟨_, _, parts, -⟩
      cases parts
  | ok pair =>
    obtain ⟨action, parameters⟩ := pair
    constructor
    · intro stops
      exact ⟨action, parameters, rfl, stops⟩
    · rintro ⟨_, _, parts, stops⟩
      cases parts
      exact stops

end Request
end NotebookSim
