import NotebookSim.Proofs.Shown
/-!
Runs in which the clock never goes back. Every store holds its records in the order of their
creation times, so a listing by creation time, which does not sort, is what sorting would make it.
-/
namespace NotebookSim

/-! ## Stores in the order of time -/

namespace Store

variable {R : Type} [Record R]

/-- Records stand in the order of their creation times, and none was changed before it was made. -/
structure Chronological (store : Store R) : Prop where
  ordered : store.records.Pairwise fun r s => Record.creationTime r ≤ Record.creationTime s
  modified : store.All fun r => Record.creationTime r ≤ Record.lastModifiedTime r

/-- A chronological store that knows nothing of times past this one. -/
structure ChronologicalBy (latest : Timestamp) (store : Store R) : Prop
    extends store.Chronological where
  past : store.All fun r => Record.lastModifiedTime r ≤ latest

theorem chronologicalBy_empty (latest : Timestamp) :
    (empty : Store R).ChronologicalBy latest where
  ordered := List.Pairwise.nil
  modified := all_empty _
  past := all_empty _

namespace ChronologicalBy

variable {store : Store R} {latest now : Timestamp} (h : store.ChronologicalBy latest)
include h

theorem mono (later : latest ≤ now) : store.ChronologicalBy now where
  toChronological := h.toChronological
  past := fun r held => Int.le_trans (h.past r held) later

theorem push (later : latest ≤ now) {r : R} (created : Record.creationTime r = now)
    (untouched : Record.lastModifiedTime r = now) : (store.push r).ChronologicalBy now where
  ordered := by
    refine List.pairwise_append.mpr ⟨h.ordered, List.pairwise_singleton _ _, ?_⟩
    intro s held r' last
    rw [List.mem_singleton.mp last, created]
    exact Int.le_trans (Int.le_trans (h.modified s held) (h.past s held)) later
  modified := h.modified.push (by rw [created, untouched]; exact Int.le_refl _)
  past := (h.mono later).past.push (by rw [untouched]; exact Int.le_refl _)

/-- A change in place keeps the creation times, hence their order. -/
theorem modify (later : latest ≤ now) (name : String) {f : R → R}
    (keeps : ∀ r, Record.creationTime (f r) = Record.creationTime r)
    (stamps : ∀ r, Record.lastModifiedTime (f r) = now) :
    (store.modify name f).ChronologicalBy now := by
  have times : (store.modify name f).records.map Record.creationTime =
      store.records.map Record.creationTime :=
    store.map_modify name f Record.creationTime keeps
  have ordered : (store.records.map Record.creationTime).Pairwise (· ≤ ·) :=
    List.pairwise_map.mpr h.ordered
  rw [← times] at ordered
  have within : store.All fun r => Record.creationTime r ≤ Record.lastModifiedTime r ∧
      Record.lastModifiedTime r ≤ now :=
    fun r held => ⟨h.modified r held, (h.mono later).past r held⟩
  have stamped : (store.modify name f).All fun r =>
      Record.creationTime r ≤ Record.lastModifiedTime r ∧ Record.lastModifiedTime r ≤ now := by
    refine within.modify name fun r ⟨before, past⟩ => ?_
    rw [keeps, stamps]
    exact ⟨Int.le_trans before past, Int.le_refl _⟩
  exact {
    ordered := List.pairwise_map.mp ordered
    modified := fun r held => (stamped r held).1
    past := fun r held => (stamped r held).2 }

theorem erase (name : String) : (store.erase name).ChronologicalBy latest where
  ordered := h.ordered.sublist (List.eraseP_sublist ..)
  modified := h.modified.erase name
  past := h.past.erase name

end ChronologicalBy
end Store

/-! ## Runs -/

namespace Backend

variable {scope : Scope} {settings : Settings} {b b' : Backend} {latest now : Timestamp}
  {request : Request}

structure ChronologicalBy (latest : Timestamp) (b : Backend) : Prop where
  notebooks : b.notebooks.ChronologicalBy latest
  lifecycleConfigs : b.lifecycleConfigs.ChronologicalBy latest
  models : b.models.ChronologicalBy latest

theorem chronologicalBy_fresh (scope : Scope) (settings : Settings) (latest : Timestamp) :
    (fresh scope settings).ChronologicalBy latest where
  notebooks := Store.chronologicalBy_empty latest
  lifecycleConfigs := Store.chronologicalBy_empty latest
  models := Store.chronologicalBy_empty latest

theorem ChronologicalBy.mono (h : b.ChronologicalBy latest) (later : latest ≤ now) :
    b.ChronologicalBy now where
  notebooks := h.notebooks.mono later
  lifecycleConfigs := h.lifecycleConfigs.mono later
  models := h.models.mono later

theorem ChronologicalBy.step (h : b.ChronologicalBy latest) (later : latest ≤ now)
    (step : Step b now request b') : b'.ChronologicalBy now := by
  have kept := h.mono later
  cases step with
  | lookup => exact kept
  | addTags | deleteTags => exact { kept with }
  | createNotebook => exact { kept with notebooks := h.notebooks.push later rfl rfl }
  | startNotebook name | stopNotebook name =>
    exact { kept with notebooks := h.notebooks.modify later name (fun _ => rfl) fun _ => rfl }
  | deleteNotebook name => exact { kept with notebooks := kept.notebooks.erase name }
  | createLifecycleConfig =>
    exact { kept with lifecycleConfigs := h.lifecycleConfigs.push later rfl rfl }
  | updateLifecycleConfig p =>
    exact { kept with
      lifecycleConfigs := h.lifecycleConfigs.modify later p.name (fun _ => rfl) fun _ => rfl }
  | deleteLifecycleConfig name =>
    exact { kept with lifecycleConfigs := kept.lifecycleConfigs.erase name }
  | createModel => exact { kept with models := h.models.push later rfl rfl }
  | deleteModel name => exact { kept with models := kept.models.erase name }

theorem ChronologicalBy.run {requests : List (Timestamp × Request)}
    (h : b.ChronologicalBy latest)
    (forward : (latest :: requests.map Prod.fst).Pairwise (· ≤ ·)) :
    ∃ last, (b.run requests).ChronologicalBy last := by
  induction requests generalizing b latest with
  | nil => exact ⟨latest, h⟩
  | cons entry requests ih =>
    obtain ⟨now, request⟩ := entry
    obtain ⟨reached, forward⟩ := List.pairwise_cons.mp forward
    have later : latest ≤ now := reached now List.mem_cons_self
    rw [run_cons]
    cases ends : (b.execute now request).result with
    | error e =>
      rw [after_refused ends]
      exact ih (h.mono later) forward
    | ok response => exact ih (h.step later (step_of_accepted ends)) forward

theorem chronologicalBy_run (scope : Scope) (settings : Settings)
    {requests : List (Timestamp × Request)}
    (forward : (requests.map Prod.fst).Pairwise (· ≤ ·)) :
    ∃ last, ((fresh scope settings).run requests).ChronologicalBy last := by
  cases requests with
  | nil => exact ⟨.epoch, chronologicalBy_fresh scope settings .epoch⟩
  | cons entry requests =>
    refine (chronologicalBy_fresh scope settings entry.1).run (List.pairwise_cons.mpr ⟨?_, forward⟩)
    intro time member
    obtain rfl | later := List.mem_cons.mp member
    · exact Int.le_refl _
    · exact (List.pairwise_cons.mp forward).1 time later

end Backend

/-! ## Listings by the time of creation -/

/-- Whether a record was created no later than another one. -/
def byCreation {R : Type} [Record R] (r s : R) : Bool :=
  decide (Record.creationTime r ≤ Record.creationTime s)

/-- Sorting would change nothing. -/
theorem Store.Chronological.mergeSort_filter {R : Type} [Record R] {store : Store R}
    (h : store.Chronological) (wanted : R → Prop) [DecidablePred wanted] :
    (store.records.filter wanted).mergeSort byCreation = store.records.filter wanted := by
  refine List.mergeSort_of_pairwise ((h.ordered.filter _).imp ?_)
  intro r s ordered
  exact decide_eq_true ordered

namespace Backend

/-- While the clock never goes back, stores stand in the order of creation and no record is changed
before it is made. So a listing by creation time, whatever it asks of the records, shows what a
stable sort of the matching records by their creation times gives, and the reverse of that when it
is descending. -/
theorem chronological_run (scope : Scope) (settings : Settings)
    (requests : List (Timestamp × Request))
    (forward : (requests.map Prod.fst).Pairwise (· ≤ ·)) (now : Nat → Timestamp)
    (sizes : Nat → Option Nat)
    (accepted : ∀ i n, sizes i = some n → 1 ≤ n ∧ n ≤ Settings.greatestListPage) :
    let b := (fresh scope settings).run requests
    (b.notebooks.Chronological ∧ b.lifecycleConfigs.Chronological ∧ b.models.Chronological) ∧
    (∀ p : ListNotebooks, p.sortBy.getD .creationTime = .creationTime →
      let sorted := (b.notebooks.records.filter p.Matches).mergeSort byCreation
      Page.Show (fun i token page => b.NotebookPage (now i) p (sizes i) token page)
        ((if p.sortOrder = some .descending then sorted.reverse else sorted).map
          NotebookInstance.summary)) ∧
    (∀ p : ListLifecycleConfigs, p.sortBy.getD .creationTime = .creationTime →
      let sorted := (b.lifecycleConfigs.records.filter (p.Matches ·)).mergeSort byCreation
      Page.Show (fun i token page => b.LifecycleConfigPage (now i) p (sizes i) token page)
        ((if p.sortOrder = some .descending then sorted.reverse else sorted).map
          LifecycleConfig.summary)) ∧
    (∀ p : ListModels, p.sortBy.getD .creationTime = .creationTime →
      let sorted := (b.models.records.filter (p.Matches ·)).mergeSort byCreation
      Page.Show (fun i token page => b.ModelPage (now i) p (sizes i) token page)
        ((if p.sortOrder = some .descending then sorted.reverse else sorted).map
          Model.summary)) := by
  intro b
  obtain ⟨last, chronological⟩ := chronologicalBy_run scope settings forward
  have notebooks : b.notebooks.Chronological := chronological.notebooks.toChronological
  have configs : b.lifecycleConfigs.Chronological :=
    chronological.lifecycleConfigs.toChronological
  have models : b.models.Chronological := chronological.models.toChronological
  refine ⟨⟨notebooks, configs, models⟩, ?_, ?_, ?_⟩
  · intro p unsorted sorted
    have shows := notebookPages_show (b := b) now accepted p
    rw [unsorted, SortOrder.getD_apply] at shows
    rw [show sorted = _ from notebooks.mergeSort_filter p.Matches]
    exact shows
  · intro p unsorted sorted
    have shows := lifecycleConfigPages_show (b := b) now accepted p
    rw [unsorted, SortOrder.getD_apply] at shows
    rw [show sorted = _ from configs.mergeSort_filter (p.Matches ·)]
    exact shows
  · intro p unsorted sorted
    have shows := modelPages_show (b := b) now accepted p
    rw [unsorted, SortOrder.getD_apply] at shows
    rw [show sorted = _ from models.mergeSort_filter (p.Matches ·)]
    exact shows

/-- Two instances are created at one instant; the first is deleted and created again. -/
def reinstated : List (Timestamp × Request) :=
  [(⟨1⟩, .createNotebook (.minimal "a" "ml.t2.medium" "role")),
    (⟨1⟩, .createNotebook (.minimal "b" "ml.t2.medium" "role")),
    (⟨1⟩, .createNotebook (.minimal "c" "ml.t2.medium" "role")), (⟨2⟩, .stopNotebook "a"),
    (⟨2⟩, .stopNotebook "b"), (⟨3⟩, .deleteNotebook "a"),
    (⟨3⟩, .createNotebook (.minimal "a" "ml.t2.medium" "role"))]

theorem chronological_run_reinstated :
    let b := (fresh ⟨"123456789012", "us-east-1"⟩ .default).run reinstated
    let p : ListNotebooks :=
      ⟨⟨none, none, none, some .descending, none, .all, .all⟩, none, none, none, none⟩
    b.notebooks.Chronological ∧
    ∃ pages, Page.Traversal (fun _ token page => b.NotebookPage ⟨4⟩ p (some 2) token page) 0 none
      pages ∧ (pages.flatMap Page.items).map NotebookSummary.name = ["a", "c", "b"] := by
  intro b p
  obtain ⟨⟨chronological, -, -⟩, listings, -, -⟩ := chronological_run
    ⟨"123456789012", "us-east-1"⟩ .default reinstated (by decide) (fun _ => ⟨4⟩) (fun _ => some 2)
    (by
      rintro i n ⟨⟩
      decide)
  refine ⟨chronological, ?_⟩
  have shows := listings p rfl
  dsimp only at shows
  rw [if_pos rfl, chronological.mergeSort_filter p.Matches] at shows
  obtain ⟨pages, t⟩ := shows.ends (by decide)
  refine ⟨pages, t, ?_⟩
  rw [shows.shown pages t]
  rfl

end Backend
end NotebookSim
