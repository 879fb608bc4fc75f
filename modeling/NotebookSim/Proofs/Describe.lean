import NotebookSim.Proofs.History
import NotebookSim.Proofs.Run
/-!
What Describe tells of a name after a run, in terms of the accepted requests about that name and
of nothing else.
-/
namespace NotebookSim

namespace Request

/-- The resource that a request would create, change or delete. -/
def target? : Request → Option (ResourceKind × String)
  | .createNotebook p => some (.notebookInstance, p.name)
  | .startNotebook name | .stopNotebook name | .deleteNotebook name =>
    some (.notebookInstance, name)
  | .createLifecycleConfig p => some (.lifecycleConfig, p.name)
  | .updateLifecycleConfig p => some (.lifecycleConfig, p.name)
  | .deleteLifecycleConfig name => some (.lifecycleConfig, name)
  | .createModel p => some (.model, p.name)
  | .deleteModel name => some (.model, name)
  | _ => none

theorem target?_ne_of_isLookup {request : Request} (looks : request.isLookup = true)
    {resource : ResourceKind × String} : request.target? ≠ some resource := by
  revert looks
  cases request <;> simp [isLookup, target?]

def describe (kind : ResourceKind) (name : String) : Request :=
  match kind with
  | .notebookInstance => .describeNotebook name
  | .lifecycleConfig => .describeLifecycleConfig name
  | .model => .describeModel name

/-- Which instance an accepted request does something to, and what; starting and stopping are
changes of its status. -/
def notebookDeed? : Request → Option (String × Deed CreateNotebook NotebookStatus)
  | .createNotebook p => some (p.name, .create p)
  | .startNotebook name => some (name, .change .inService)
  | .stopNotebook name => some (name, .change .stopped)
  | .deleteNotebook name => some (name, .delete)
  | _ => none

def configDeed? : Request → Option (String × Deed CreateLifecycleConfig UpdateLifecycleConfig)
  | .createLifecycleConfig p => some (p.name, .create p)
  | .updateLifecycleConfig p => some (p.name, .change p)
  | .deleteLifecycleConfig name => some (name, .delete)
  | _ => none

/-- Nothing changes a model. -/
def modelDeed? : Request → Option (String × Deed CreateModel Empty)
  | .createModel p => some (p.name, .create p)
  | .deleteModel name => some (name, .delete)
  | _ => none

end Request

/-! ## The records of a history -/

/-- What was asked for with the defaults filled in; status and time are those of the last start
or stop. -/
def notebookOf (scope : Scope) (settings : Settings) (born : Timestamp) (p : CreateNotebook)
    (changes : List (Timestamp × NotebookStatus)) : NotebookInstance where
  arn := scope.arn .notebookInstance p.name
  name := p.name
  status := (changes.getLast?.map Prod.snd).getD .inService
  url := notebookUrl p.name scope.region
  instanceType := p.instanceType
  subnetId := p.subnetId
  securityGroupIds := p.securityGroupIds
  roleArn := p.roleArn
  kmsKeyId := p.kmsKeyId
  lifecycleConfigName := p.lifecycleConfigName
  directInternetAccess := p.directInternetAccess.getD .enabled
  volumeSizeInGb := p.volumeSizeInGb.getD settings.defaultVolumeSizeGb
  acceleratorTypes := p.acceleratorTypes
  defaultCodeRepository := p.defaultCodeRepository
  additionalCodeRepositories := p.additionalCodeRepositories
  rootAccess := p.rootAccess.getD .enabled
  creationTime := born
  lastModifiedTime := (changes.getLast?.map Prod.fst).getD born

/-- Each script list is the one last given. -/
def configOf (scope : Scope) (born : Timestamp) (p : CreateLifecycleConfig)
    (changes : List (Timestamp × UpdateLifecycleConfig)) : LifecycleConfig where
  arn := scope.arn .lifecycleConfig p.name
  name := p.name
  onCreate := (changes.filterMap (·.2.onCreate)).getLast?.getD p.onCreate
  onStart := (changes.filterMap (·.2.onStart)).getLast?.getD p.onStart
  creationTime := born
  lastModifiedTime := (changes.getLast?.map Prod.fst).getD born

def modelOf (scope : Scope) (born : Timestamp) (p : CreateModel) : Model where
  arn := scope.arn .model p.name
  name := p.name
  primaryContainer := p.primaryContainer
  executionRoleArn := p.executionRoleArn
  enableNetworkIsolation := p.enableNetworkIsolation
  creationTime := born

theorem notebookOf_changes (scope : Scope) (settings : Settings) (born : Timestamp)
    (p : CreateNotebook) (changes : List (Timestamp × NotebookStatus)) :
    changes.foldl (fun r (now, next) => NotebookInstance.moved now next r)
      (notebookOf scope settings born p []) = notebookOf scope settings born p changes := by
  induction changes using List.reverseRecOn with
  | nil => rfl
  | append_singleton changes entry ih =>
    rw [List.foldl_append, ih]
    simp [NotebookInstance.moved, notebookOf]

theorem configOf_changes (scope : Scope) (born : Timestamp) (p : CreateLifecycleConfig)
    (changes : List (Timestamp × UpdateLifecycleConfig)) :
    changes.foldl (fun r (now, u) => u.apply now r) (configOf scope born p []) =
      configOf scope born p changes := by
  induction changes using List.reverseRecOn with
  | nil => rfl
  | append_singleton changes entry ih =>
    obtain ⟨now, u⟩ := entry
    rw [List.foldl_append, ih]
    cases hc : u.onCreate <;> cases hs : u.onStart <;>
      simp [UpdateLifecycleConfig.apply, configOf, hc, hs]

namespace Backend

variable {scope : Scope} {settings : Settings} {b b' : Backend} {now : Timestamp}
  {request : Request}

theorem Sound.newNotebook (sound : b.Sound scope settings) (now : Timestamp) (p : CreateNotebook) :
    b.newNotebook now p = notebookOf scope settings now p [] := by
  unfold Backend.newNotebook arn
  rw [sound.scope_eq, sound.settings_eq]
  rfl

theorem Sound.newLifecycleConfig (sound : b.Sound scope settings) (now : Timestamp)
    (p : CreateLifecycleConfig) : b.newLifecycleConfig now p = configOf scope now p [] := by
  unfold Backend.newLifecycleConfig arn
  rw [sound.scope_eq]
  rfl

theorem Sound.newModel (sound : b.Sound scope settings) (now : Timestamp) (p : CreateModel) :
    b.newModel now p = modelOf scope now p := by
  unfold Backend.newModel arn
  rw [sound.scope_eq]
  rfl

/-! ## One step -/

theorem notebook_unseen {α : Type} {name : String}
    (elsewhere : request.target? ≠ some (.notebookInstance, name))
    (act : Deed CreateNotebook NotebookStatus → α → α) (seen : α) :
    seenAfter request.notebookDeed? name act seen = seen := by
  cases request <;> simp_all [Request.target?, Request.notebookDeed?, seenAfter]

theorem config_unseen {α : Type} {name : String}
    (elsewhere : request.target? ≠ some (.lifecycleConfig, name))
    (act : Deed CreateLifecycleConfig UpdateLifecycleConfig → α → α) (seen : α) :
    seenAfter request.configDeed? name act seen = seen := by
  cases request <;> simp_all [Request.target?, Request.configDeed?, seenAfter]

theorem model_unseen {α : Type} {name : String}
    (elsewhere : request.target? ≠ some (.model, name))
    (act : Deed CreateModel Empty → α → α) (seen : α) :
    seenAfter request.modelDeed? name act seen = seen := by
  cases request <;> simp_all [Request.target?, Request.modelDeed?, seenAfter]

theorem find?_notebooks_step (sound : b.Sound scope settings) (h : Step b now request b')
    (name : String) :
    b'.notebooks.find? name =
      seenAfter request.notebookDeed? name
        (Deed.apply (notebookOf scope settings · · []) NotebookInstance.moved now)
        (b.notebooks.find? name) := by
  cases h with
  | lookup request looks => exact (notebook_unseen (Request.target?_ne_of_isLookup looks) ..).symm
  -- the other kinds and the tags are kept elsewhere
  | createLifecycleConfig | updateLifecycleConfig | deleteLifecycleConfig | createModel
  | deleteModel | addTags | deleteTags => rfl
  | createNotebook p fit absent =>
    have pushed := Store.find?_push b.notebooks (b.newNotebook now p) name absent
    rw [sound.newNotebook] at pushed ⊢
    exact pushed
  | startNotebook n =>
    exact b.notebooks.find?_modify n (.moved now .inService) (fun _ => rfl) name
  | stopNotebook n =>
    exact b.notebooks.find?_modify n (.moved now .stopped) (fun _ => rfl) name
  | deleteNotebook n =>
    exact Store.find?_erase sound.notebookNames n name

theorem find?_lifecycleConfigs_step (sound : b.Sound scope settings) (h : Step b now request b')
    (name : String) :
    b'.lifecycleConfigs.find? name =
      seenAfter request.configDeed? name
        (Deed.apply (configOf scope · · []) (fun now u r => u.apply now r) now)
        (b.lifecycleConfigs.find? name) := by
  cases h with
  | lookup request looks => exact (config_unseen (Request.target?_ne_of_isLookup looks) ..).symm
  | createNotebook | startNotebook | stopNotebook | deleteNotebook | createModel | deleteModel
  | addTags | deleteTags => rfl
  | createLifecycleConfig p fit absent =>
    have pushed := Store.find?_push b.lifecycleConfigs (b.newLifecycleConfig now p) name absent
    rw [sound.newLifecycleConfig] at pushed ⊢
    exact pushed
  | updateLifecycleConfig p =>
    exact b.lifecycleConfigs.find?_modify p.name (p.apply now) (fun _ => rfl) name
  | deleteLifecycleConfig n =>
    exact Store.find?_erase sound.configNames n name

theorem find?_models_step (sound : b.Sound scope settings) (h : Step b now request b')
    (name : String) :
    b'.models.find? name =
      seenAfter request.modelDeed? name (Deed.apply (modelOf scope) (fun _ u _ => u.elim) now)
        (b.models.find? name) := by
  cases h with
  | lookup request looks => exact (model_unseen (Request.target?_ne_of_isLookup looks) ..).symm
  | createNotebook | startNotebook | stopNotebook | deleteNotebook | createLifecycleConfig
  | updateLifecycleConfig | deleteLifecycleConfig | addTags | deleteTags => rfl
  | createModel p fit absent =>
    have pushed := Store.find?_push b.models (b.newModel now p) name absent
    rw [sound.newModel] at pushed ⊢
    exact pushed
  | deleteModel n =>
    exact Store.find?_erase sound.modelNames n name

/-! ## What Describe answers -/

theorem execute_describeNotebook (b : Backend) (now : Timestamp) (name : String) :
    (b.execute now (.describeNotebook name)).result =
      (b.notebooks.find? name).elim (.error .notebookNotFound) fun r => .ok (.notebook r) := by
  rw [execute_of_read rfl]
  unfold describeNotebook Store.get
  cases b.notebooks.find? name <;> rfl

theorem execute_describeLifecycleConfig (b : Backend) (now : Timestamp) (name : String) :
    (b.execute now (.describeLifecycleConfig name)).result =
      (b.lifecycleConfigs.find? name).elim
        (.error (.configNotFound .describe (b.scope.arn .lifecycleConfig name)))
        fun r => .ok (.lifecycleConfig r) := by
  rw [execute_of_read rfl]
  unfold describeLifecycleConfig Store.get
  cases b.lifecycleConfigs.find? name <;> rfl

theorem execute_describeModel (b : Backend) (now : Timestamp) (name : String) :
    (b.execute now (.describeModel name)).result =
      (b.models.find? name).elim (.error (.modelNotFound (b.scope.arn .model name)))
        fun r => .ok (.model r) := by
  rw [execute_of_read rfl]
  unfold describeModel Store.get
  cases b.models.find? name <;> rfl

/-! ## A whole run -/

theorem find?_notebooks_run (scope : Scope) (settings : Settings)
    (requests : List (Timestamp × Request)) (name : String) :
    ((fresh scope settings).run requests).notebooks.find? name =
      History.outcome (notebookOf scope settings · · []) NotebookInstance.moved
        (deedsOf Request.notebookDeed? name ((fresh scope settings).accepted requests)) :=
  view_run scope settings (·.notebooks.find? name)
    (fun sound h => find?_notebooks_step sound h name) requests

theorem find?_lifecycleConfigs_run (scope : Scope) (settings : Settings)
    (requests : List (Timestamp × Request)) (name : String) :
    ((fresh scope settings).run requests).lifecycleConfigs.find? name =
      History.outcome (configOf scope · · []) (fun now u r => u.apply now r)
        (deedsOf Request.configDeed? name ((fresh scope settings).accepted requests)) :=
  view_run scope settings (·.lifecycleConfigs.find? name)
    (fun sound h => find?_lifecycleConfigs_step sound h name) requests

theorem find?_models_run (scope : Scope) (settings : Settings)
    (requests : List (Timestamp × Request)) (name : String) :
    ((fresh scope settings).run requests).models.find? name =
      History.outcome (modelOf scope) (fun _ u _ => u.elim)
        (deedsOf Request.modelDeed? name ((fresh scope settings).accepted requests)) :=
  view_run scope settings (·.models.find? name)
    (fun sound h => find?_models_step sound h name) requests

/-- A step about another name or kind is not noticed. -/
theorem describe_step (sound : b.Sound scope settings) (h : Step b now request b')
    {kind : ResourceKind} {name : String} (elsewhere : request.target? ≠ some (kind, name))
    (later : Timestamp) :
    (b'.execute later (.describe kind name)).result =
      (b.execute later (.describe kind name)).result := by
  have same : b'.scope = b.scope := (sound.step h).scope_eq.trans sound.scope_eq.symm
  cases kind with
  | notebookInstance =>
    have kept := find?_notebooks_step sound h name
    rw [notebook_unseen elsewhere] at kept
    simp only [Request.describe, execute_describeNotebook, kept]
  | lifecycleConfig =>
    have kept := find?_lifecycleConfigs_step sound h name
    rw [config_unseen elsewhere] at kept
    simp only [Request.describe, execute_describeLifecycleConfig, kept, same]
  | model =>
    have kept := find?_models_step sound h name
    rw [model_unseen elsewhere] at kept
    simp only [Request.describe, execute_describeModel, kept, same]

/-- Describe tells of a name what the accepted requests about it make of it: its record while its
last creation or deletion is a creation, and otherwise that it is missing. A request about another
name or kind, or a refused one, does not change the answer. -/
theorem describe_run (scope : Scope) (settings : Settings)
    (requests : List (Timestamp × Request)) (name : String) (now : Timestamp) :
    let b := (fresh scope settings).run requests
    let done := (fresh scope settings).accepted requests
    (b.execute now (.describeNotebook name)).result =
      History.told (deedsOf Request.notebookDeed? name done)
        (fun born p changes => .notebook (notebookOf scope settings born p changes))
        .notebookNotFound ∧
    (b.execute now (.describeLifecycleConfig name)).result =
      History.told (deedsOf Request.configDeed? name done)
        (fun born p changes => .lifecycleConfig (configOf scope born p changes))
        (.configNotFound .describe (scope.arn .lifecycleConfig name)) ∧
    (b.execute now (.describeModel name)).result =
      History.told (deedsOf Request.modelDeed? name done)
        (fun born p _ => .model (modelOf scope born p))
        (.modelNotFound (scope.arn .model name)) ∧
    ∀ time request kind,
      (request.target? ≠ some (kind, name) ∨ ∃ e, (b.execute time request).result = .error e) →
      ((b.after time request).execute now (.describe kind name)).result =
        (b.execute now (.describe kind name)).result := by
  intro b done
  have sound : b.Sound scope settings := sound_run scope settings requests
  refine ⟨?_, ?_, ?_, ?_⟩
  · rw [execute_describeNotebook, find?_notebooks_run]
    symm
    apply History.told_of_outcome
    intro born p changes
    exact congrArg Response.notebook (notebookOf_changes scope settings born p changes)
  · rw [execute_describeLifecycleConfig, find?_lifecycleConfigs_run, sound.scope_eq]
    symm
    apply History.told_of_outcome
    intro born p changes
    exact congrArg Response.lifecycleConfig (configOf_changes scope born p changes)
  · rw [execute_describeModel, find?_models_run, sound.scope_eq]
    symm
    apply History.told_of_outcome
    intro born p changes
    obtain _ | ⟨⟨_, u⟩, _⟩ := changes
    · rfl
    · cases u
  · intro time request kind unconcerned
    cases h : (b.execute time request).result with
    | error e => rw [after_refused h]
    | ok response =>
      obtain elsewhere | ⟨e, refused⟩ := unconcerned
      · exact describe_step sound (step_of_accepted h) elsewhere now
      · rw [h] at refused
        cases refused

/-- A name is used twice; between the two instances nothing has it. -/
def recreation : List (Timestamp × Request) :=
  let p := CreateNotebook.minimal "n" "ml.t2.medium" "role"
  [(⟨1⟩, .createNotebook p), (⟨2⟩, .stopNotebook "n"), (⟨3⟩, .deleteNotebook "n"),
    (⟨4⟩, .startNotebook "n"), (⟨5⟩, .createNotebook { p with roleArn := "other" }),
    (⟨6⟩, .stopNotebook "n"), (⟨7⟩, .createNotebook p)]

theorem describe_run_recreation :
    let b := (fresh ⟨"123456789012", "us-east-1"⟩ .default).run recreation
    (b.execute ⟨8⟩ (.describeNotebook "n")).result =
      .ok (.notebook (notebookOf ⟨"123456789012", "us-east-1"⟩ .default ⟨5⟩
        (.minimal "n" "ml.t2.medium" "other") [(⟨6⟩, .stopped)])) ∧
    ((b.after ⟨8⟩ (.startNotebook "m")).execute ⟨9⟩ (.describeNotebook "n")).result =
      (b.execute ⟨9⟩ (.describeNotebook "n")).result := by
  obtain ⟨told, -, -, -⟩ :=
    describe_run ⟨"123456789012", "us-east-1"⟩ .default recreation "n" ⟨8⟩
  obtain ⟨-, -, -, unchanged⟩ :=
    describe_run ⟨"123456789012", "us-east-1"⟩ .default recreation "n" ⟨9⟩
  exact ⟨told.trans rfl, unchanged ⟨8⟩ (.startNotebook "m") .notebookInstance (.inl (by decide))⟩

end Backend
end NotebookSim
