import NotebookSim.Proofs.Operation
/-!
Everything a request can do to a backend. It is refused and leaves no trace, or it is one of the
steps below; what holds of every step holds of every run.
-/
namespace NotebookSim

/-- A request that only looks. -/
def Request.isLookup : Request → Bool
  | .describeNotebook _ | .listNotebooks _ | .describeLifecycleConfig _ | .listLifecycleConfigs _
  | .listTags _ | .describeModel _ | .listModels _ => true
  | _ => false

/-- What a request counts when it is accepted. -/
def Request.counters : Request → List Counter
  | .createNotebook _ => [.created .notebookInstance]
  | .startNotebook _ => [.transitions .startNotebookInstance]
  | .stopNotebook _ => [.transitions .stopNotebookInstance]
  | .deleteNotebook _ => [.deleted .notebookInstance]
  | .createLifecycleConfig _ => [.created .lifecycleConfig]
  | .deleteLifecycleConfig _ => [.deleted .lifecycleConfig]
  | .createModel _ => [.created .model]
  | .deleteModel _ => [.deleted .model]
  | _ => []

/-- An instance in another status since this instant. -/
def NotebookInstance.moved (now : Timestamp) (next : NotebookStatus) (r : NotebookInstance) :
    NotebookInstance := { r with status := next, lastModifiedTime := now }

namespace Backend

/-- An accepted request, and the backend it leaves. -/
inductive Step (b : Backend) (now : Timestamp) : Request → Backend → Prop
  | lookup (request : Request) (looks : request.isLookup = true) : Step b now request b
  | createNotebook (p : CreateNotebook) (fit : b.checkNotebook p = .ok ())
      (absent : b.notebooks.find? p.name = none) :
      Step b now (.createNotebook p)
        { b with
          notebooks := b.notebooks.push (b.newNotebook now p)
          tags := b.tagged (b.arn .notebookInstance p.name) p.tags }
  | startNotebook (name : String) (r : NotebookInstance)
      (found : b.notebooks.find? name = some r) (movable : r.status.canBecome .inService = true) :
      Step b now (.startNotebook name)
        { b with notebooks := b.notebooks.modify name (.moved now .inService) }
  | stopNotebook (name : String) (r : NotebookInstance)
      (found : b.notebooks.find? name = some r) (movable : r.status.canBecome .stopped = true) :
      Step b now (.stopNotebook name)
        { b with notebooks := b.notebooks.modify name (.moved now .stopped) }
  | deleteNotebook (name : String) (r : NotebookInstance)
      (found : b.notebooks.find? name = some r)
      (deletable : r.status.canBecome .deleting = true) :
      Step b now (.deleteNotebook name)
        { b with
          notebooks := b.notebooks.erase name
          tags := b.tags.removeResource r.arn }
  | createLifecycleConfig (p : CreateLifecycleConfig) (fit : Tag.validateAll p.tags = .ok ())
      (absent : b.lifecycleConfigs.find? p.name = none) :
      Step b now (.createLifecycleConfig p)
        { b with
          lifecycleConfigs := b.lifecycleConfigs.push (b.newLifecycleConfig now p)
          tags := b.tagged (b.arn .lifecycleConfig p.name) p.tags }
  | updateLifecycleConfig (p : UpdateLifecycleConfig) (r : LifecycleConfig)
      (found : b.lifecycleConfigs.find? p.name = some r) :
      Step b now (.updateLifecycleConfig p)
        { b with lifecycleConfigs := b.lifecycleConfigs.modify p.name (p.apply now) }
  | deleteLifecycleConfig (name : String) (r : LifecycleConfig)
      (found : b.lifecycleConfigs.find? name = some r) :
      Step b now (.deleteLifecycleConfig name)
        { b with
          lifecycleConfigs := b.lifecycleConfigs.erase name
          tags := b.tags.removeResource r.arn }
  | createModel (p : CreateModel) (fit : Tag.validateAll p.tags = .ok ())
      (absent : b.models.find? p.name = none) :
      Step b now (.createModel p)
        { b with
          models := b.models.push (b.newModel now p)
          tags := b.tagged (b.arn .model p.name) p.tags }
  | deleteModel (name : String) (r : Model) (found : b.models.find? name = some r) :
      Step b now (.deleteModel name)
        { b with
          models := b.models.erase name
          tags := b.tags.removeResource r.arn }
  | addTags (p : AddTags) (fit : Tag.validateAll p.tags = .ok ()) :
      Step b now (.addTags p) { b with tags := b.tags.add p.resourceArn p.tags }
  | deleteTags (p : DeleteTags) (named : p.tagKeys.contains "" = false) :
      Step b now (.deleteTags p) { b with tags := b.tags.delete p.resourceArn p.tagKeys }

/-- The two ways a request can end: refused without a trace, or accepted as a step. -/
inductive Ends (b : Backend) (now : Timestamp) (request : Request) : Completion → Prop
  | refused (e : ServiceError) : Ends b now request ⟨.error e, b, []⟩
  | accepted (response : Response) (b' : Backend) (step : Step b now request b') :
      Ends b now request ⟨.ok response, b', request.counters⟩

theorem execute_of_read {b : Backend} {now : Timestamp} {request : Request}
    {answer : Backend → Except ServiceError Response}
    (reads : request.operation now = .read answer) :
    b.execute now request = ⟨answer b, b, []⟩ := by
  unfold execute
  rw [reads, Operation.run_read]
  cases answer b <;> rfl

theorem ends_of_read {b : Backend} {now : Timestamp} {request : Request}
    {answer : Backend → Except ServiceError Response}
    (reads : request.operation now = .read answer) (looks : request.isLookup = true)
    (silent : request.counters = []) :
    Ends b now request (b.execute now request) := by
  rw [execute_of_read reads]
  cases answer b with
  | error e => exact .refused e
  | ok response => exact silent ▸ .accepted response b (.lookup request looks)

theorem execute_ends (b : Backend) (now : Timestamp) (request : Request) :
    Ends b now request (b.execute now request) := by
  cases request with
  | describeNotebook | listNotebooks | describeLifecycleConfig | listLifecycleConfigs | listTags
  | describeModel | listModels => exact ends_of_read rfl rfl rfl
  | createNotebook p =>
    simp only [execute, Request.operation, Operation.run_createNotebook]
    cases fit : b.checkNotebook p with
    | error e => exact .refused e
    | ok =>
      cases absent : b.notebooks.find? p.name with
      | some r => exact .refused _
      | none => exact .accepted _ _ (.createNotebook p fit absent)
  | startNotebook name =>
    simp only [execute, Request.operation, Operation.startNotebook,
      Operation.run_transitionNotebook]
    cases found : b.notebooks.find? name with
    | none => exact .refused _
    | some r =>
      dsimp only
      cases movable : r.status.canBecome .inService with
      | false => exact .refused _
      | true => exact .accepted _ _ (.startNotebook name r found movable)
  | stopNotebook name =>
    simp only [execute, Request.operation, Operation.stopNotebook,
      Operation.run_transitionNotebook]
    cases found : b.notebooks.find? name with
    | none => exact .refused _
    | some r =>
      dsimp only
      cases movable : r.status.canBecome .stopped with
      | false => exact .refused _
      | true => exact .accepted _ _ (.stopNotebook name r found movable)
  | deleteNotebook name =>
    simp only [execute, Request.operation, Operation.run_deleteNotebook]
    cases found : b.notebooks.find? name with
    | none => exact .refused _
    | some r =>
      dsimp only
      cases deletable : r.status.canBecome .deleting with
      | false => exact .refused _
      | true => exact .accepted _ _ (.deleteNotebook name r found deletable)
  | createLifecycleConfig p =>
    simp only [execute, Request.operation, Operation.run_createLifecycleConfig]
    cases fit : Tag.validateAll p.tags with
    | error e => exact .refused e
    | ok =>
      cases absent : b.lifecycleConfigs.find? p.name with
      | some r => exact .refused _
      | none => exact .accepted _ _ (.createLifecycleConfig p fit absent)
  | updateLifecycleConfig p =>
    simp only [execute, Request.operation, Operation.run_updateLifecycleConfig]
    cases found : b.lifecycleConfigs.find? p.name with
    | none => exact .refused _
    | some r => exact .accepted _ _ (.updateLifecycleConfig p r found)
  | deleteLifecycleConfig name =>
    simp only [execute, Request.operation, Operation.run_deleteLifecycleConfig]
    cases found : b.lifecycleConfigs.find? name with
    | none => exact .refused _
    | some r => exact .accepted _ _ (.deleteLifecycleConfig name r found)
  | createModel p =>
    simp only [execute, Request.operation, Operation.run_createModel]
    cases fit : Tag.validateAll p.tags with
    | error e => exact .refused e
    | ok =>
      cases absent : b.models.find? p.name with
      | some r => exact .refused _
      | none => exact .accepted _ _ (.createModel p fit absent)
  | deleteModel name =>
    simp only [execute, Request.operation, Operation.run_deleteModel]
    cases found : b.models.find? name with
    | none => exact .refused _
    | some r => exact .accepted _ _ (.deleteModel name r found)
  | addTags p =>
    simp only [execute, Request.operation, Operation.run_addTags]
    cases fit : Tag.validateAll p.tags with
    | error e => exact .refused e
    | ok => exact .accepted _ _ (.addTags p fit)
  | deleteTags p =>
    simp only [execute, Request.operation, Operation.run_deleteTags]
    cases named : p.tagKeys.contains "" with
    | true => exact .refused _
    | false => exact .accepted _ _ (.deleteTags p named)

theorem Ends.of_error {b : Backend} {now : Timestamp} {request : Request} {c : Completion}
    (ends : Ends b now request c) {e : ServiceError} (h : c.result = .error e) :
    c = ⟨.error e, b, []⟩ := by
  cases ends with
  | refused => cases h; rfl
  | accepted => cases h

theorem Ends.of_ok {b : Backend} {now : Timestamp} {request : Request} {c : Completion}
    (ends : Ends b now request c) {response : Response} (h : c.result = .ok response) :
    Step b now request c.backend ∧ c.counted = request.counters := by
  cases ends with
  | refused => cases h
  | accepted _ _ step => exact ⟨step, rfl⟩

/-- A refusal undoes nothing because nothing was done. -/
theorem after_refused {b : Backend} {now : Timestamp} {request : Request} {e : ServiceError}
    (h : (b.execute now request).result = .error e) : b.after now request = b :=
  congrArg Completion.backend ((execute_ends b now request).of_error h)

theorem step_of_accepted {b : Backend} {now : Timestamp} {request : Request} {response : Response}
    (h : (b.execute now request).result = .ok response) :
    Step b now request (b.after now request) :=
  ((execute_ends b now request).of_ok h).1

end Backend
end NotebookSim
