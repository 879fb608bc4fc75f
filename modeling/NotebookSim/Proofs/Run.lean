import NotebookSim.Proofs.Step
import NotebookSim.Proofs.Store
import NotebookSim.Proofs.TagIndex
/-!
Runs of requests on one backend. Only the accepted ones matter: what holds of a fresh backend and
is kept by every step holds after every run, beside the requests accepted so far.
-/
namespace NotebookSim.Backend

/-- The requests of a run that the backend accepts, in their order. -/
def accepted (b : Backend) : List (Timestamp × Request) → List (Timestamp × Request)
  | [] => []
  | (now, request) :: requests =>
    match (b.execute now request).result with
    | .ok _ => (now, request) :: (b.after now request).accepted requests
    | .error _ => (b.after now request).accepted requests

theorem run_cons (b : Backend) (now : Timestamp) (request : Request)
    (requests : List (Timestamp × Request)) :
    b.run ((now, request) :: requests) = (b.after now request).run requests := rfl

theorem accepted_append (b : Backend) (earlier later : List (Timestamp × Request)) :
    b.accepted (earlier ++ later) = b.accepted earlier ++ (b.run earlier).accepted later := by
  induction earlier generalizing b with
  | nil => rfl
  | cons entry earlier ih =>
    obtain ⟨now, request⟩ := entry
    rw [List.cons_append, run_cons]
    simp only [accepted]
    cases (b.execute now request).result with
    | error e => exact ih _
    | ok response => rw [ih, List.cons_append]

/-- What every step keeps is kept by a run. The requests accepted before are told apart from those
of the run so that a property may speak of both. -/
theorem run_induction {P : List (Timestamp × Request) → Backend → Prop}
    (step : ∀ {done b now request b'}, P done b → Step b now request b' →
      P (done ++ [(now, request)]) b')
    (done : List (Timestamp × Request)) {b : Backend} (start : P done b)
    (requests : List (Timestamp × Request)) :
    P (done ++ b.accepted requests) (b.run requests) := by
  induction requests generalizing done b with
  | nil => simpa [accepted, run] using start
  | cons entry requests ih =>
    obtain ⟨now, request⟩ := entry
    rw [run_cons]
    simp only [accepted]
    cases h : (b.execute now request).result with
    | error e =>
      -- a refusal changes neither the backend nor what was accepted
      rw [after_refused h]
      exact ih done start
    | ok response =>
      rw [List.append_cons]
      exact ih _ (step start (step_of_accepted h))

theorem distinct_tagged {b : Backend} (distinct : b.tags.Distinct) (arn : String)
    (tags : List Tag) : (b.tagged arn tags).Distinct := by
  unfold tagged
  cases tags.isEmpty with
  | true => exact distinct
  | false => exact distinct.add arn tags

/-- Names are unique within a kind and keys within the tags of an ARN, and every record carries
the ARN of its kind and name. -/
structure Sound (scope : Scope) (settings : Settings) (b : Backend) : Prop where
  scope_eq : b.scope = scope
  settings_eq : b.settings = settings
  notebookNames : b.notebooks.Unique
  configNames : b.lifecycleConfigs.Unique
  modelNames : b.models.Unique
  notebookArns : b.notebooks.All fun r => r.arn = scope.arn .notebookInstance r.name
  configArns : b.lifecycleConfigs.All fun r => r.arn = scope.arn .lifecycleConfig r.name
  modelArns : b.models.All fun r => r.arn = scope.arn .model r.name
  tagKeys : b.tags.Distinct

theorem sound_fresh (scope : Scope) (settings : Settings) :
    (fresh scope settings).Sound scope settings where
  scope_eq := rfl
  settings_eq := rfl
  notebookNames := Store.unique_empty
  configNames := Store.unique_empty
  modelNames := Store.unique_empty
  notebookArns := Store.all_empty _
  configArns := Store.all_empty _
  modelArns := Store.all_empty _
  tagKeys := TagIndex.distinct_empty

variable {scope : Scope} {settings : Settings} {b b' : Backend} {now : Timestamp}
  {request : Request}

theorem Sound.step (sound : b.Sound scope settings) (h : Step b now request b') :
    b'.Sound scope settings := by
  cases h with
  | lookup => exact sound
  | addTags p => exact { sound with tagKeys := sound.tagKeys.add p.resourceArn p.tags }
  | deleteTags p => exact { sound with tagKeys := sound.tagKeys.delete p.resourceArn p.tagKeys }
  | createNotebook p _ absent =>
    exact { sound with
      notebookNames := Store.unique_push sound.notebookNames _ absent
      notebookArns := sound.notebookArns.push (by rw [← sound.scope_eq]; rfl)
      tagKeys := distinct_tagged sound.tagKeys _ p.tags }
  | startNotebook name | stopNotebook name =>
    exact { sound with
      notebookNames := Store.unique_modify sound.notebookNames name _ fun _ => rfl
      notebookArns := sound.notebookArns.modify name fun _ kept => kept }
  | deleteNotebook name r =>
    exact { sound with
      notebookNames := Store.unique_erase sound.notebookNames name
      notebookArns := sound.notebookArns.erase name
      tagKeys := sound.tagKeys.removeResource r.arn }
  | createLifecycleConfig p _ absent =>
    exact { sound with
      configNames := Store.unique_push sound.configNames _ absent
      configArns := sound.configArns.push (by rw [← sound.scope_eq]; rfl)
      tagKeys := distinct_tagged sound.tagKeys _ p.tags }
  | updateLifecycleConfig p =>
    exact { sound with
      configNames := Store.unique_modify sound.configNames p.name _ fun _ => rfl
      configArns := sound.configArns.modify p.name fun _ kept => kept }
  | deleteLifecycleConfig name r =>
    exact { sound with
      configNames := Store.unique_erase sound.configNames name
      configArns := sound.configArns.erase name
      tagKeys := sound.tagKeys.removeResource r.arn }
  | createModel p _ absent =>
    exact { sound with
      modelNames := Store.unique_push sound.modelNames _ absent
      modelArns := sound.modelArns.push (by rw [← sound.scope_eq]; rfl)
      tagKeys := distinct_tagged sound.tagKeys _ p.tags }
  | deleteModel name r =>
    exact { sound with
      modelNames := Store.unique_erase sound.modelNames name
      modelArns := sound.modelArns.erase name
      tagKeys := sound.tagKeys.removeResource r.arn }

theorem Sound.run (sound : b.Sound scope settings) (requests : List (Timestamp × Request)) :
    (b.run requests).Sound scope settings :=
  run_induction (P := fun _ b => b.Sound scope settings) Sound.step [] sound requests

theorem sound_run (scope : Scope) (settings : Settings) (requests : List (Timestamp × Request)) :
    ((fresh scope settings).run requests).Sound scope settings :=
  (sound_fresh scope settings).run requests

/-! ## What a run does under one key -/

variable {D α : Type}

/-- The deeds of a run under a key; a request does at most one thing, under one key. -/
def deedsOf (deed? : Request → Option (String × D)) (key : String)
    (done : List (Timestamp × Request)) : List (Timestamp × D) :=
  done.filterMap fun (now, request) =>
    match deed? request with
    | some (k, deed) => if k = key then some (now, deed) else none
    | none => none

/-- What is seen under a key after a deed, which may be none or under another key. -/
def seenAfter (deed? : Option (String × D)) (key : String) (act : D → α → α) (seen : α) : α :=
  match deed? with
  | some (k, deed) => if k = key then act deed seen else seen
  | none => seen

theorem foldl_deedsOf_snoc (deed? : Request → Option (String × D)) (key : String)
    (act : Timestamp → D → α → α) (seen : α) (done : List (Timestamp × Request))
    (now : Timestamp) (request : Request) :
    (deedsOf deed? key (done ++ [(now, request)])).foldl
        (fun seen (now, d) => act now d seen) seen =
      seenAfter (deed? request) key (act now)
        ((deedsOf deed? key done).foldl (fun seen (now, d) => act now d seen) seen) := by
  unfold deedsOf seenAfter
  rw [List.filterMap_append, List.foldl_append]
  obtain h | ⟨⟨k, deed⟩, h⟩ := (deed? request).eq_none_or_eq_some
  · simp [h]
  · by_cases hk : k = key <;> simp [h, hk]

/-- What every step changes as its deed says, the run changes deed by deed. -/
theorem view_run (scope : Scope) (settings : Settings) (view : Backend → α)
    {deed? : Request → Option (String × D)} {key : String} {act : Timestamp → D → α → α}
    (step : ∀ {b now request b'}, b.Sound scope settings → Step b now request b' →
      view b' = seenAfter (deed? request) key (act now) (view b))
    (requests : List (Timestamp × Request)) :
    view ((fresh scope settings).run requests) =
      (deedsOf deed? key ((fresh scope settings).accepted requests)).foldl
        (fun seen (now, d) => act now d seen) (view (fresh scope settings)) := by
  refine (run_induction (P := fun done b => b.Sound scope settings ∧
    view b = (deedsOf deed? key done).foldl (fun seen (now, d) => act now d seen)
      (view (fresh scope settings))) ?_ [] ⟨sound_fresh scope settings, rfl⟩ requests).2
  rintro done b now request b' ⟨sound, seen⟩ h
  refine ⟨sound.step h, ?_⟩
  rw [step sound h, seen, foldl_deedsOf_snoc]

end NotebookSim.Backend
