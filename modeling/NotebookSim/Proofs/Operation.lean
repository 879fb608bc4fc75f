import NotebookSim.Backend.Run
import NotebookSim.Proofs.Store
/-!
What each operation comes to. An operation is a sequence of steps in place; every lemma here says
in one case distinction when the operation refuses and what it leaves behind otherwise.
-/
namespace NotebookSim.Operation

open EStateM (run)

@[simp] theorem run_backend (w : Workspace) : run backend w = .ok w.backend w := rfl

@[simp] theorem run_change (f : Backend → Backend) (w : Workspace) :
    run (change f) w = .ok () { w with backend := f w.backend } := rfl

@[simp] theorem run_count (c : Counter) (w : Workspace) :
    run (count c) w = .ok () { w with counted := w.counted ++ [c] } := rfl

@[simp] theorem run_require_ok {α : Type} (x : α) (w : Workspace) :
    run (require (.ok x)) w = .ok x w := rfl

@[simp] theorem run_require_mapError_ok {ε α : Type} (f : ε → ServiceError) (x : α)
    (w : Workspace) : run (require ((Except.ok x).mapError f)) w = .ok x w := rfl

theorem run_read (answer : Backend → Except ServiceError Response) (w : Workspace) :
    run (read answer) w =
      match answer w.backend with
      | .ok response => .ok response w
      | .error e => .error e w := by
  simp only [read, EStateM.run_bind, run_backend]
  cases answer w.backend <;> rfl

/-! ## Notebook instances -/

theorem run_createNotebook (now : Timestamp) (p : CreateNotebook) (w : Workspace) :
    run (createNotebook now p) w =
      match w.backend.checkNotebook p, w.backend.notebooks.find? p.name with
      | .error e, _ => .error e w
      | .ok _, some _ => .error (.duplicateNotebook (w.backend.arn .notebookInstance p.name)) w
      | .ok _, none =>
        .ok (.created .notebookInstance (w.backend.arn .notebookInstance p.name))
          ⟨{ w.backend with
              notebooks := w.backend.notebooks.push (w.backend.newNotebook now p)
              tags := w.backend.tagged (w.backend.arn .notebookInstance p.name) p.tags },
            w.counted ++ [.created .notebookInstance]⟩ := by
  have named : Record.name (w.backend.newNotebook now p) = p.name := rfl
  simp only [createNotebook, EStateM.run_bind, run_backend]
  cases w.backend.checkNotebook p with
  | error e => rfl
  | ok _ =>
    simp only [run_require_ok, Store.insert_eq, named]
    cases w.backend.notebooks.find? p.name <;> rfl

theorem run_updateNotebook (name : String) (f : NotebookInstance → NotebookInstance)
    (w : Workspace) :
    run (updateNotebook name f) w =
      match w.backend.notebooks.find? name with
      | none => .error .notebookNotFound w
      | some _ =>
        .ok () { w with
          backend := { w.backend with notebooks := w.backend.notebooks.modify name f } } := by
  simp only [updateNotebook, EStateM.run_bind, run_backend, Store.update_eq]
  cases w.backend.notebooks.find? name <;> rfl

theorem run_transitionNotebook (now : Timestamp) (name : String) (next : NotebookStatus)
    (action : Action) (w : Workspace) :
    run (transitionNotebook now name next action) w =
      match w.backend.notebooks.find? name with
      | none => .error .notebookNotFound w
      | some r =>
        if r.status.canBecome next then
          .ok .done
            ⟨{ w.backend with
                notebooks := w.backend.notebooks.modify name
                  fun r => { r with status := next, lastModifiedTime := now } },
              w.counted ++ [.transitions action]⟩
        else .error (.transition r.status next (w.backend.arn .notebookInstance name)) w := by
  simp only [transitionNotebook, EStateM.run_bind, run_backend, Store.get]
  cases found : w.backend.notebooks.find? name with
  | none => rfl
  | some r =>
    cases movable : r.status.canBecome next <;>
      simp [movable, found, run_updateNotebook, -bind_pure_comp]

/-- The mark left on the record before it is taken out is never seen. -/
theorem run_deleteNotebook (name : String) (w : Workspace) :
    run (deleteNotebook name) w =
      match w.backend.notebooks.find? name with
      | none => .error .notebookNotFound w
      | some r =>
        if r.status.canBecome .deleting then
          .ok .done
            ⟨{ w.backend with
                notebooks := w.backend.notebooks.erase name
                tags := w.backend.tags.removeResource r.arn },
              w.counted ++ [.deleted .notebookInstance]⟩
        else .error (.notDeletable r.status r.arn) w := by
  simp only [deleteNotebook, EStateM.run_bind, run_backend, Store.get]
  cases found : w.backend.notebooks.find? name with
  | none => rfl
  | some r =>
    cases deletable : r.status.canBecome .deleting with
    | false => simp [deletable]
    | true =>
      have keeps (r : NotebookInstance) :
          Record.name { r with status := .deleting } = Record.name r := rfl
      simp [deletable, found, run_updateNotebook, Store.remove_eq,
        Store.find?_modify _ _ _ keeps, Store.erase_modify _ _ _ keeps, -bind_pure_comp]

/-! ## Lifecycle configurations -/

theorem run_createLifecycleConfig (now : Timestamp) (p : CreateLifecycleConfig) (w : Workspace) :
    run (createLifecycleConfig now p) w =
      match Tag.validateAll p.tags, w.backend.lifecycleConfigs.find? p.name with
      | .error e, _ => .error e w
      | .ok _, some _ => .error (.duplicateConfig (w.backend.arn .lifecycleConfig p.name)) w
      | .ok _, none =>
        .ok (.created .lifecycleConfig (w.backend.arn .lifecycleConfig p.name))
          ⟨{ w.backend with
              lifecycleConfigs :=
                w.backend.lifecycleConfigs.push (w.backend.newLifecycleConfig now p)
              tags := w.backend.tagged (w.backend.arn .lifecycleConfig p.name) p.tags },
            w.counted ++ [.created .lifecycleConfig]⟩ := by
  have named : Record.name (w.backend.newLifecycleConfig now p) = p.name := rfl
  simp only [createLifecycleConfig, EStateM.run_bind]
  cases Tag.validateAll p.tags with
  | error e => rfl
  | ok _ =>
    simp only [run_require_ok, run_backend, Store.insert_eq, named]
    cases w.backend.lifecycleConfigs.find? p.name <;> rfl

theorem run_updateLifecycleConfig (now : Timestamp) (p : UpdateLifecycleConfig) (w : Workspace) :
    run (updateLifecycleConfig now p) w =
      match w.backend.lifecycleConfigs.find? p.name with
      | none => .error (.configNotFound .update (w.backend.arn .lifecycleConfig p.name)) w
      | some _ =>
        .ok .done
          ⟨{ w.backend with
              lifecycleConfigs := w.backend.lifecycleConfigs.modify p.name (p.apply now) },
            w.counted⟩ := by
  simp only [updateLifecycleConfig, EStateM.run_bind, run_backend, Store.update_eq]
  cases w.backend.lifecycleConfigs.find? p.name <;> rfl

theorem run_deleteLifecycleConfig (name : String) (w : Workspace) :
    run (deleteLifecycleConfig name) w =
      match w.backend.lifecycleConfigs.find? name with
      | none => .error (.configNotFound .delete (w.backend.arn .lifecycleConfig name)) w
      | some r =>
        .ok .done
          ⟨{ w.backend with
              lifecycleConfigs := w.backend.lifecycleConfigs.erase name
              tags := w.backend.tags.removeResource r.arn },
            w.counted ++ [.deleted .lifecycleConfig]⟩ := by
  simp only [deleteLifecycleConfig, EStateM.run_bind, run_backend, Store.remove_eq]
  cases w.backend.lifecycleConfigs.find? name <;> rfl

/-! ## Models -/

theorem run_createModel (now : Timestamp) (p : CreateModel) (w : Workspace) :
    run (createModel now p) w =
      match Tag.validateAll p.tags, w.backend.models.find? p.name with
      | .error e, _ => .error e w
      | .ok _, some _ => .error (.duplicateModel (w.backend.arn .model p.name)) w
      | .ok _, none =>
        .ok (.created .model (w.backend.arn .model p.name))
          ⟨{ w.backend with
              models := w.backend.models.push (w.backend.newModel now p)
              tags := w.backend.tagged (w.backend.arn .model p.name) p.tags },
            w.counted ++ [.created .model]⟩ := by
  have named : Record.name (w.backend.newModel now p) = p.name := rfl
  simp only [createModel, EStateM.run_bind]
  cases Tag.validateAll p.tags with
  | error e => rfl
  | ok _ =>
    simp only [run_require_ok, run_backend, Store.insert_eq, named]
    cases w.backend.models.find? p.name <;> rfl

theorem run_deleteModel (name : String) (w : Workspace) :
    run (deleteModel name) w =
      match w.backend.models.find? name with
      | none => .error (.modelNotFound (w.backend.arn .model name)) w
      | some r =>
        .ok .done
          ⟨{ w.backend with
              models := w.backend.models.erase name
              tags := w.backend.tags.removeResource r.arn },
            w.counted ++ [.deleted .model]⟩ := by
  simp only [deleteModel, EStateM.run_bind, run_backend, Store.remove_eq]
  cases w.backend.models.find? name <;> rfl

/-! ## Tags -/

theorem run_addTags (p : AddTags) (w : Workspace) :
    run (addTags p) w =
      match Tag.validateAll p.tags with
      | .error e => .error e w
      | .ok _ =>
        .ok (.tagsAdded ((w.backend.tags.add p.resourceArn p.tags).list p.resourceArn))
          ⟨{ w.backend with tags := w.backend.tags.add p.resourceArn p.tags }, w.counted⟩ := by
  simp only [addTags, EStateM.run_bind]
  cases Tag.validateAll p.tags <;> rfl

theorem run_deleteTags (p : DeleteTags) (w : Workspace) :
    run (deleteTags p) w =
      if p.tagKeys.contains "" then .error .emptyTagKey w
      else .ok .done
        ⟨{ w.backend with tags := w.backend.tags.delete p.resourceArn p.tagKeys }, w.counted⟩ := by
  unfold deleteTags
  cases p.tagKeys.contains "" <;> rfl

end NotebookSim.Operation
