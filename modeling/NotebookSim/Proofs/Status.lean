import NotebookSim.Proofs.Describe
import NotebookSim.Proofs.Listing
/-!
The statuses that instances go through. Of the seven statuses only two are ever seen: an instance is
in service or stopped, so it can always be started and stopped, and whether it can be deleted depends
on which of the two it was taken to last.
-/
namespace NotebookSim

/-- The statuses in which operations leave an instance. -/
def NotebookStatus.Settled (s : NotebookStatus) : Prop := s = .inService ∨ s = .stopped

namespace NotebookStatus.Settled

theorem canBecome {s next : NotebookStatus} (settled : s.Settled) (rests : next.Settled) :
    s.canBecome next = true := by
  obtain rfl | rfl := settled <;> obtain rfl | rfl := rests <;> rfl

theorem canBecome_deleting {s : NotebookStatus} (settled : s.Settled) :
    s.canBecome .deleting = true ↔ s = .stopped := by
  obtain rfl | rfl := settled <;> decide

theorem eq_inService {s : NotebookStatus} (settled : s.Settled) (runs : s ≠ .stopped) :
    s = .inService :=
  settled.resolve_right runs

end NotebookStatus.Settled

/-! ## What is told of statuses -/

def Response.statuses : Response → List NotebookStatus
  | .notebook r => [r.status]
  | .notebooks page => page.items.map NotebookSummary.status
  | _ => []

def ServiceError.statuses : ServiceError → List NotebookStatus
  | .notDeletable status _ => [status]
  | .transition status next _ => [status, next]
  | _ => []

/-- An answer or a refusal that tells of no status but the settled ones, and refuses no transition
from one to the other. -/
structure Calm (result : Except ServiceError Response) : Prop where
  answered : ∀ response, result = .ok response → ∀ s ∈ response.statuses, s.Settled
  refused : ∀ e, result = .error e → ∀ s ∈ e.statuses, s.Settled
  moves : ∀ status next arn, result ≠ .error (.transition status next arn)

namespace Calm

theorem of_ok {response : Response} (settled : ∀ s ∈ response.statuses, s.Settled) :
    Calm (.ok response) where
  answered := by
    rintro _ ⟨⟩
    exact settled
  refused := by
    rintro e ⟨⟩
  moves := by
    rintro status next arn ⟨⟩

theorem of_quiet {response : Response} (quiet : response.statuses = []) : Calm (.ok response) := by
  apply of_ok
  intro s told
  rw [quiet] at told
  cases told

/-- A refusal of a transition would tell of the two statuses. -/
theorem of_silent {e : ServiceError} (silent : e.statuses = []) : Calm (.error e) where
  answered := by
    rintro response ⟨⟩
  refused := by
    rintro _ ⟨⟩ s told
    rw [silent] at told
    cases told
  moves := by
    rintro status next arn ⟨⟩
    cases silent

theorem notDeletable (arn : String) : Calm (.error (.notDeletable .inService arn)) where
  answered := by
    rintro response ⟨⟩
  refused := by
    rintro _ ⟨⟩ s told
    exact .inl (List.mem_singleton.mp told)
  moves := by
    rintro status next arn ⟨⟩

theorem of_found {R : Type} {found : Option R} {missing : ServiceError}
    {answer : R → Except ServiceError Response} (silent : missing.statuses = [])
    (calm : ∀ r, found = some r → Calm (answer r)) : Calm (found.elim (.error missing) answer) := by
  cases found with
  | none => exact of_silent silent
  | some r => exact calm r rfl

theorem of_page {R : Type} {upper : Nat} {size : Except PageError (Page.Size upper)}
    (cut : Nat → Except PageError (Page R)) {respond : Page R → Response}
    (calm : ∀ n page, cut n = .ok page → Calm (.ok (respond page))) :
    Calm (do
      let size ← size.mapError .page
      let page ← (cut size).mapError .page
      return respond page) := by
  cases size with
  | error e => exact of_silent rfl
  | ok n =>
    change Calm (do
      let page ← (cut n).mapError .page
      return respond page)
    cases cuts : cut n with
    | error e => exact of_silent rfl
    | ok page => exact calm n page cuts

end Calm

theorem Tag.error_of_validateFrom {tags : List Tag} {position : Nat} {e : ServiceError}
    (refused : validateFrom position tags = .error e) :
    ∃ place text, e = .tagKey place text ∨ e = .tagValue place text := by
  induction tags generalizing position with
  | nil => cases refused
  | cons tag tags ih =>
    unfold validateFrom at refused
    split at refused
    · cases refused
      exact ⟨_, _, .inl rfl⟩
    · split at refused
      · cases refused
        exact ⟨_, _, .inr rfl⟩
      · exact ih refused

theorem Tag.silent_of_validateFrom {tags : List Tag} {position : Nat} {e : ServiceError}
    (refused : validateFrom position tags = .error e) : e.statuses = [] := by
  obtain ⟨place, text, rfl | rfl⟩ := error_of_validateFrom refused <;> rfl

theorem SortKey.sort_perm {R : Type} [Record R] (key : SortKey) (rs : List R) :
    (key.sort rs).Perm rs := by
  cases key with
  | creationTime => exact .refl rs
  | name | lastModifiedTime => exact List.mergeSort_perm rs _

theorem NotebookSortKey.sort_perm (key : NotebookSortKey) (rs : List NotebookInstance) :
    (key.sort rs).Perm rs := by
  cases key with
  | creationTime => exact .refl rs
  | name | status => exact List.mergeSort_perm rs _

theorem SortOrder.apply_perm {α : Type} (order : SortOrder) (items : List α) :
    (order.apply items).Perm items := by
  cases order with
  | ascending => exact .refl items
  | descending => exact List.reverse_perm items

/-- A listing invents nothing. -/
theorem Query.mem_of_listing {R : Type} [Record R] {query : Query} {filter : R → Bool}
    {sort : List R → List R} (permutes : ∀ rs, (sort rs).Perm rs) {held : List R} {r : R}
    (listed : r ∈ query.listing filter sort held) : r ∈ held := by
  have sorted := (query.sortOrder.apply_perm _).mem_iff.mp listed
  exact (List.mem_filter.mp ((permutes _).mem_iff.mp sorted)).1

theorem Query.length_listing {R : Type} [Record R] {sort : List R → List R}
    (permutes : ∀ rs, (sort rs).Perm rs) (query : Query) (filter : R → Bool) (held : List R) :
    (query.listing filter sort held).length =
      (held.filter fun r => query.selects r && filter r).length :=
  ((query.sortOrder.apply_perm _).trans (permutes _)).length_eq

namespace Backend

variable {scope : Scope} {settings : Settings} {b b' : Backend} {now : Timestamp}
  {request : Request}

/-- The volume that an instance would have. -/
def volumeOf (b : Backend) (p : CreateNotebook) : Nat :=
  p.volumeSizeInGb.getD b.settings.defaultVolumeSizeGb

/-- Why the creation of an instance is refused, and the refusal. -/
inductive Refuses (b : Backend) (p : CreateNotebook) : ServiceError → Prop
  | type (unlisted : p.instanceType ∉ b.settings.instanceTypes) :
      Refuses b p (.instanceType p.instanceType b.settings.instanceTypes)
  | volume (outside : b.volumeOf p < ServiceError.leastVolumeSize ∨
      ServiceError.greatestVolumeSize < b.volumeOf p) : Refuses b p (.volumeSize (b.volumeOf p))
  | tagKey (position : Nat) (key : String) : Refuses b p (.tagKey position key)
  | tagValue (position : Nat) (value : String) : Refuses b p (.tagValue position value)
  | duplicate (arn : String) : Refuses b p (.duplicateNotebook arn)

theorem checkNotebook_of_unlisted {p : CreateNotebook}
    (unlisted : p.instanceType ∉ b.settings.instanceTypes) :
    b.checkNotebook p = .error (.instanceType p.instanceType b.settings.instanceTypes) := by
  simp [checkNotebook, Settings.allows, unlisted]

theorem refuses_of_checkNotebook {p : CreateNotebook} {e : ServiceError}
    (refused : b.checkNotebook p = .error e) : b.Refuses p e := by
  by_cases listed : p.instanceType ∈ b.settings.instanceTypes
  · have allowed : b.settings.allows p.instanceType = true := List.contains_iff_mem.mpr listed
    simp only [checkNotebook, allowed, Bool.not_true, Bool.false_eq_true, if_false] at refused
    split at refused
    · next outside =>
      cases refused
      exact .volume outside
    · obtain ⟨position, text, rfl | rfl⟩ := Tag.error_of_validateFrom refused
      · exact .tagKey position text
      · exact .tagValue position text
  · cases (checkNotebook_of_unlisted listed).symm.trans refused
    exact .type listed

theorem silent_of_checkNotebook {p : CreateNotebook} {e : ServiceError}
    (refused : b.checkNotebook p = .error e) : e.statuses = [] := by
  cases refuses_of_checkNotebook refused <;> rfl

/-- Every instance is in service or stopped. -/
def Settled (b : Backend) : Prop := b.notebooks.All fun r => r.status.Settled

theorem Settled.step (settled : b.Settled) (h : Step b now request b') : b'.Settled := by
  cases h with
  | lookup | createLifecycleConfig | updateLifecycleConfig | deleteLifecycleConfig | createModel
  | deleteModel | addTags | deleteTags => exact settled
  | createNotebook => exact Store.All.push settled (.inl rfl)
  | startNotebook name => exact Store.All.modify settled name fun _ _ => .inl rfl
  | stopNotebook name => exact Store.All.modify settled name fun _ _ => .inr rfl
  | deleteNotebook name => exact Store.All.erase settled name

theorem settled_run (scope : Scope) (settings : Settings) (requests : List (Timestamp × Request)) :
    ((fresh scope settings).run requests).Settled := by
  have nothing : (fresh scope settings).Settled := Store.all_empty _
  exact run_induction (P := fun _ b => b.Settled) Settled.step [] nothing requests

/-! ## What the operations on an instance answer -/

/-- Starting and stopping an instance that is there cannot fail. -/
theorem Settled.execute_transition (settled : b.Settled) {name : String} {next : NotebookStatus}
    {action : Action} (moves : request.operation now = .transitionNotebook now name next action)
    (rests : next.Settled) :
    (b.execute now request).result =
      (b.notebooks.find? name).elim (.error .notebookNotFound) fun _ => .ok .done := by
  unfold execute
  rw [moves, Operation.run_transitionNotebook]
  cases found : b.notebooks.find? name with
  | none => rfl
  | some r =>
    have rest : r.status.Settled := Store.All.of_find? settled found
    simp only [rest.canBecome rests]
    rfl

theorem Settled.execute_startNotebook (settled : b.Settled) (now : Timestamp) (name : String) :
    (b.execute now (.startNotebook name)).result =
      (b.notebooks.find? name).elim (.error .notebookNotFound) fun _ => .ok .done :=
  settled.execute_transition rfl (.inl rfl)

theorem Settled.execute_stopNotebook (settled : b.Settled) (now : Timestamp) (name : String) :
    (b.execute now (.stopNotebook name)).result =
      (b.notebooks.find? name).elim (.error .notebookNotFound) fun _ => .ok .done :=
  settled.execute_transition rfl (.inr rfl)

theorem Settled.execute_deleteNotebook (settled : b.Settled) (now : Timestamp) (name : String) :
    (b.execute now (.deleteNotebook name)).result =
      (b.notebooks.find? name).elim (.error .notebookNotFound) fun r =>
        if r.status = .stopped then .ok .done else .error (.notDeletable .inService r.arn) := by
  simp only [execute, Request.operation, Operation.run_deleteNotebook]
  cases found : b.notebooks.find? name with
  | none => rfl
  | some r =>
    have rests : r.status.Settled := Store.All.of_find? settled found
    dsimp only [Option.elim]
    cases deletable : r.status.canBecome .deleting with
    | true =>
      have stopped := rests.canBecome_deleting.mp deletable
      exact (if_pos stopped).symm
    | false =>
      have runs : r.status ≠ .stopped := by
        intro stopped
        cases (rests.canBecome_deleting.mpr stopped).symm.trans deletable
      rw [if_neg runs, ← rests.eq_inService runs]
      rfl

theorem Settled.calm (settled : b.Settled) (now : Timestamp) (request : Request) :
    Calm (b.execute now request).result := by
  cases request with
  | describeNotebook name =>
    rw [execute_describeNotebook]
    refine .of_found rfl fun r found => .of_ok fun s told => ?_
    rw [List.mem_singleton.mp told]
    exact Store.All.of_find? settled found
  | describeLifecycleConfig name =>
    rw [execute_describeLifecycleConfig]
    exact .of_found rfl fun _ _ => .of_quiet rfl
  | describeModel name =>
    rw [execute_describeModel]
    exact .of_found rfl fun _ _ => .of_quiet rfl
  | listNotebooks p =>
    have listed : Calm (b.listNotebooks p) := by
      refine .of_page (fun n => (p.query n).run p.selects (p.sortBy.getD .creationTime).sort
        b.notebooks.records) fun n page cuts => .of_ok fun s told => ?_
      obtain ⟨summary, shown, rfl⟩ := List.mem_map.mp told
      obtain ⟨r, part, rfl⟩ := List.mem_map.mp shown
      exact settled r
        (Query.mem_of_listing (NotebookSortKey.sort_perm _) (Page.mem_of_cut cuts part))
    rwa [execute_of_read rfl]
  | listLifecycleConfigs p =>
    have listed : Calm (b.listLifecycleConfigs p) :=
      .of_page (fun n => (p.query n).run (fun _ => true)
        (p.sortBy.getD .creationTime).sort b.lifecycleConfigs.records) fun _ _ _ => .of_quiet rfl
    rwa [execute_of_read rfl]
  | listModels p =>
    have listed : Calm (b.listModels p) :=
      .of_page (fun n => (p.query n).run (fun _ => true)
        (p.sortBy.getD .creationTime).sort b.models.records) fun _ _ _ => .of_quiet rfl
    rwa [execute_of_read rfl]
  | listTags p =>
    have listed : Calm (b.listTags p) :=
      .of_page (fun n => Page.cut (b.tags.list p.resourceArn) n p.nextToken) fun _ _ _ => .of_quiet rfl
    rwa [execute_of_read rfl]
  | createNotebook p =>
    simp only [execute, Request.operation, Operation.run_createNotebook]
    cases fit : b.checkNotebook p with
    | error e => exact .of_silent (silent_of_checkNotebook fit)
    | ok =>
      cases b.notebooks.find? p.name with
      | some r => exact .of_silent rfl
      | none => exact .of_quiet rfl
  | startNotebook name =>
    rw [settled.execute_startNotebook]
    exact .of_found rfl fun _ _ => .of_quiet rfl
  | stopNotebook name =>
    rw [settled.execute_stopNotebook]
    exact .of_found rfl fun _ _ => .of_quiet rfl
  | deleteNotebook name =>
    rw [settled.execute_deleteNotebook]
    refine .of_found rfl fun r _ => ?_
    split
    · exact .of_quiet rfl
    · exact .notDeletable r.arn
  | createLifecycleConfig p =>
    simp only [execute, Request.operation, Operation.run_createLifecycleConfig]
    cases fit : Tag.validateAll p.tags with
    | error e => exact .of_silent (Tag.silent_of_validateFrom fit)
    | ok =>
      cases b.lifecycleConfigs.find? p.name with
      | some r => exact .of_silent rfl
      | none => exact .of_quiet rfl
  | updateLifecycleConfig p =>
    simp only [execute, Request.operation, Operation.run_updateLifecycleConfig]
    cases b.lifecycleConfigs.find? p.name with
    | none => exact .of_silent rfl
    | some r => exact .of_quiet rfl
  | deleteLifecycleConfig name =>
    simp only [execute, Request.operation, Operation.run_deleteLifecycleConfig]
    cases b.lifecycleConfigs.find? name with
    | none => exact .of_silent rfl
    | some r => exact .of_quiet rfl
  | createModel p =>
    simp only [execute, Request.operation, Operation.run_createModel]
    cases fit : Tag.validateAll p.tags with
    | error e => exact .of_silent (Tag.silent_of_validateFrom fit)
    | ok =>
      cases b.models.find? p.name with
      | some r => exact .of_silent rfl
      | none => exact .of_quiet rfl
  | deleteModel name =>
    simp only [execute, Request.operation, Operation.run_deleteModel]
    cases b.models.find? name with
    | none => exact .of_silent rfl
    | some r => exact .of_quiet rfl
  | addTags p =>
    simp only [execute, Request.operation, Operation.run_addTags]
    cases fit : Tag.validateAll p.tags with
    | error e => exact .of_silent (Tag.silent_of_validateFrom fit)
    | ok => exact .of_quiet rfl
  | deleteTags p =>
    simp only [execute, Request.operation, Operation.run_deleteTags]
    cases p.tagKeys.contains "" with
    | true => exact .of_silent rfl
    | false => exact .of_quiet rfl

/-! ## A whole run -/

/-- The status to which the last start or stop of an instance since its creation took it. -/
def lastMove? (name : String) (done : List (Timestamp × Request)) : Option NotebookStatus :=
  (History.changesSince (deedsOf Request.notebookDeed? name done)).getLast?.map Prod.snd

theorem status_of_find? {requests : List (Timestamp × Request)} {name : String}
    {r : NotebookInstance}
    (found : ((fresh scope settings).run requests).notebooks.find? name = some r) :
    r.status = (lastMove? name ((fresh scope settings).accepted requests)).getD .inService := by
  rw [find?_notebooks_run, History.outcome_eq] at found
  split at found
  · next born p _ =>
    rw [notebookOf_changes] at found
    cases found
    rfl
  · cases found

/-- Every instance is in service or stopped, and no other status is ever told of. An instance can be
started and stopped whenever it exists, and deleted exactly when it was stopped last; if it cannot,
it stays as it is. -/
theorem status_run (scope : Scope) (settings : Settings) (requests : List (Timestamp × Request)) :
    let b := (fresh scope settings).run requests
    let done := (fresh scope settings).accepted requests
    (b.notebooks.All fun r => r.status.Settled) ∧
    (∀ now request, Calm (b.execute now request).result) ∧
    ∀ now name,
      (b.execute now (.startNotebook name)).result =
        (b.notebooks.find? name).elim (.error .notebookNotFound) (fun _ => .ok .done) ∧
      (b.execute now (.stopNotebook name)).result =
        (b.notebooks.find? name).elim (.error .notebookNotFound) (fun _ => .ok .done) ∧
      (b.execute now (.deleteNotebook name)).result =
        (b.notebooks.find? name).elim (.error .notebookNotFound) (fun r =>
          if lastMove? name done = some .stopped then .ok .done
          else .error (.notDeletable .inService r.arn)) ∧
      ∀ e, (b.execute now (.deleteNotebook name)).result = .error e →
        b.after now (.deleteNotebook name) = b := by
  intro b done
  have settled : b.Settled := settled_run scope settings requests
  refine ⟨settled, settled.calm, fun now name => ⟨settled.execute_startNotebook now name,
    settled.execute_stopNotebook now name, ?_, fun e => after_refused⟩⟩
  rw [settled.execute_deleteNotebook]
  cases found : b.notebooks.find? name with
  | none => rfl
  | some r =>
    have last : r.status = (lastMove? name done).getD .inService := status_of_find? found
    have stopped : r.status = .stopped ↔ lastMove? name done = some .stopped := by
      rw [last]
      cases lastMove? name done <;> simp
    simp only [Option.elim, stopped]

/-- An instance is stopped and started again; then it cannot be deleted, until it is stopped. -/
def restarted : List (Timestamp × Request) :=
  [(⟨1⟩, .createNotebook (.minimal "n" "ml.t2.medium" "role")), (⟨2⟩, .stopNotebook "n"),
    (⟨3⟩, .startNotebook "n"), (⟨4⟩, .deleteNotebook "n")]

theorem status_run_restarted :
    let b := (fresh ⟨"123456789012", "us-east-1"⟩ .default).run restarted
    let stopped := (fresh ⟨"123456789012", "us-east-1"⟩ .default).run
      (restarted ++ [(⟨5⟩, .stopNotebook "n")])
    b.after ⟨5⟩ (.deleteNotebook "n") = b ∧
    (∃ r, b.notebooks.find? "n" = some r ∧ r.status.Settled) ∧
    (stopped.execute ⟨6⟩ (.deleteNotebook "n")).result = .ok .done := by
  intro b stopped
  obtain ⟨settled, -, moves⟩ := status_run ⟨"123456789012", "us-east-1"⟩ .default restarted
  obtain ⟨-, -, -, kept⟩ := moves ⟨5⟩ "n"
  obtain ⟨-, -, later⟩ := status_run ⟨"123456789012", "us-east-1"⟩ .default
    (restarted ++ [(⟨5⟩, .stopNotebook "n")])
  obtain ⟨-, -, deleted, -⟩ := later ⟨6⟩ "n"
  obtain ⟨r, found⟩ : ∃ r, b.notebooks.find? "n" = some r := ⟨_, rfl⟩
  obtain ⟨last, present⟩ : ∃ r, stopped.notebooks.find? "n" = some r := ⟨_, rfl⟩
  refine ⟨kept _ rfl, ⟨r, found, settled.of_find? found⟩, ?_⟩
  rw [deleted, present]
  rfl

end Backend
end NotebookSim
