import NotebookSim.Proofs.Listing
import NotebookSim.Proofs.TagHistory
/-!
Going from page to page while others make requests. As long as nothing of the listed kind is
deleted, its records are only changed in place and added at the end; so the pages, each of another
moment, name what is held when the last of them is asked for.
-/
namespace NotebookSim

/-! ## What is never changed -/

/-- An instance as far as starting and stopping leave it alone. -/
def NotebookInstance.lasting (r : NotebookInstance) : NotebookInstance :=
  { r with status := .inService, lastModifiedTime := r.creationTime }

/-- A configuration as far as updates leave it alone. -/
def LifecycleConfig.lasting (r : LifecycleConfig) : LifecycleConfig :=
  { r with onCreate := [], onStart := [], lastModifiedTime := r.creationTime }

/-- A request for the order of insertion. -/
structure ListRequest.InOrder {Key : Type} (p : ListRequest Key) (creationTime : Key) : Prop where
  sortBy : p.sortBy = none ∨ p.sortBy = some creationTime
  sortOrder : p.sortOrder = none ∨ p.sortOrder = some .ascending

/-- A request for instances by what is never changed of them. -/
structure ListNotebooks.Lasting (p : ListNotebooks) : Prop where
  order : p.InOrder .creationTime
  anyStatus : p.statusEquals = none
  anyModification : p.modified = .all

/-- The same for configurations. -/
structure ListLifecycleConfigs.Lasting (p : ListLifecycleConfigs) : Prop where
  order : p.InOrder .creationTime
  anyModification : p.modified = .all

theorem ListRequest.Matches.of_same {Key R : Type} [Record R] {p : ListRequest Key}
    (anyModification : p.modified = .all) {r s : R} (h : p.Matches r)
    (name : Record.name s = Record.name r) (born : Record.creationTime s = Record.creationTime r) :
    p.Matches s where
  nameContains := name ▸ h.nameContains
  createdBefore := born ▸ h.createdBefore
  createdAfter := born ▸ h.createdAfter
  modifiedBefore := by simp [anyModification, TimeRange.all]
  modifiedAfter := by simp [anyModification, TimeRange.all]

theorem ListNotebooks.Lasting.matches_iff {p : ListNotebooks} (lasting : p.Lasting)
    (r : NotebookInstance) : p.Matches r.lasting ↔ p.Matches r := by
  have anyStatus (status status' : NotebookStatus) (asked : p.statusEquals = some status') :
      status = status' := by
    rw [lasting.anyStatus] at asked
    cases asked
  constructor
  · intro h
    exact ⟨h.toMatches.of_same lasting.anyModification rfl rfl, anyStatus _, h.lifecycleConfig,
      h.defaultRepository, h.additionalRepository⟩
  · intro h
    exact ⟨h.toMatches.of_same lasting.anyModification rfl rfl, anyStatus _, h.lifecycleConfig,
      h.defaultRepository, h.additionalRepository⟩

theorem ListLifecycleConfigs.Lasting.matches_iff {p : ListLifecycleConfigs}
    (lasting : p.Lasting) (r : LifecycleConfig) : p.Matches r.lasting ↔ p.Matches r := by
  constructor
  · intro h
    exact h.of_same lasting.anyModification rfl rfl
  · intro h
    exact h.of_same lasting.anyModification rfl rfl

theorem ListRequest.InOrder.apply_eq {Key α : Type} {p : ListRequest Key} {creationTime : Key}
    (order : p.InOrder creationTime) (items : List α) :
    (p.sortOrder.getD .ascending).apply items = items := by
  obtain none | ascending := order.sortOrder
  · rw [none]
    rfl
  · rw [ascending]
    rfl

theorem ListNotebooks.Lasting.listing_eq {p : ListNotebooks} (lasting : p.Lasting) (size : Nat)
    (held : List NotebookInstance) :
    (p.query size).listing p.selects (p.sortBy.getD .creationTime).sort held =
      held.filter p.Matches := by
  have unsorted (items : List NotebookInstance) :
      (p.sortBy.getD .creationTime).sort items = items := by
    obtain none | creationTime := lasting.order.sortBy
    · rw [none]
      rfl
    · rw [creationTime]
      rfl
  unfold Query.listing
  rw [unsorted, p.filter_selects]
  exact lasting.order.apply_eq _

theorem ListRequest.InOrder.listing_eq {R : Type} [Record R] {p : ListRequest SortKey}
    (order : p.InOrder .creationTime) (size : Nat) (held : List R) :
    (p.query size).listing (fun _ => true) (p.sortBy.getD .creationTime).sort held =
      held.filter (p.Matches ·) := by
  have unsorted (items : List R) : (p.sortBy.getD .creationTime).sort items = items := by
    obtain none | creationTime := order.sortBy
    · rw [none]
      rfl
    · rw [creationTime]
      rfl
  unfold Query.listing
  rw [unsorted, p.filter_selects]
  exact order.apply_eq _

/-! ## What only grows -/

theorem Tag.keys_write (tags : List Tag) (tag : Tag) :
    tags.map Tag.key <+: (Tag.write tags tag).map Tag.key := by
  unfold Tag.write
  split
  · have kept : (tags.map fun t => if t.key = tag.key then ⟨t.key, tag.value⟩ else t).map Tag.key =
        tags.map Tag.key := by
      rw [List.map_map]
      refine List.map_congr_left fun t _ => ?_
      simp only [Function.comp]
      split <;> rfl
    exact kept ▸ List.prefix_rfl
  · rw [List.map_append]
    exact List.prefix_append ..

theorem TagDeed.keys_write (added held : List Tag) :
    held.map Tag.key <+: ((TagDeed.write added).apply held).map Tag.key := by
  unfold apply
  induction added generalizing held with
  | nil => exact List.prefix_rfl
  | cons tag added ih => exact (Tag.keys_write held tag).trans (ih _)

namespace Backend

variable {scope : Scope} {settings : Settings} {b b' : Backend} {now : Timestamp}
  {request : Request}

theorem notebooks_prefix_step (h : Step b now request b')
    (spared : ∀ name, request ≠ .deletion .notebookInstance name) :
    b.notebooks.records.map NotebookInstance.lasting <+:
      b'.notebooks.records.map NotebookInstance.lasting := by
  cases h with
  | lookup | createLifecycleConfig | updateLifecycleConfig | deleteLifecycleConfig | createModel
  | deleteModel | addTags | deleteTags => exact List.prefix_rfl
  | createNotebook p => exact (List.prefix_append ..).map _
  | startNotebook name | stopNotebook name =>
    have kept := fun next =>
      b.notebooks.map_modify name (.moved now next) NotebookInstance.lasting fun _ => rfl
    exact kept _ ▸ List.prefix_rfl
  | deleteNotebook name => exact absurd rfl (spared name)

theorem lifecycleConfigs_prefix_step (h : Step b now request b')
    (spared : ∀ name, request ≠ .deletion .lifecycleConfig name) :
    b.lifecycleConfigs.records.map LifecycleConfig.lasting <+:
      b'.lifecycleConfigs.records.map LifecycleConfig.lasting := by
  cases h with
  | lookup | createNotebook | startNotebook | stopNotebook | deleteNotebook | createModel
  | deleteModel | addTags | deleteTags => exact List.prefix_rfl
  | createLifecycleConfig p => exact (List.prefix_append ..).map _
  | updateLifecycleConfig p =>
    have kept :=
      b.lifecycleConfigs.map_modify p.name (p.apply now) LifecycleConfig.lasting fun _ => rfl
    exact kept ▸ List.prefix_rfl
  | deleteLifecycleConfig name => exact absurd rfl (spared name)

theorem models_prefix_step (h : Step b now request b')
    (spared : ∀ name, request ≠ .deletion .model name) :
    b.models.records <+: b'.models.records := by
  cases h with
  | lookup | createNotebook | startNotebook | stopNotebook | deleteNotebook
  | createLifecycleConfig | updateLifecycleConfig | deleteLifecycleConfig | addTags
  | deleteTags => exact List.prefix_rfl
  | createModel p => exact List.prefix_append ..
  | deleteModel name => exact absurd rfl (spared name)

/-- A request that takes no tag away from an ARN. -/
def SparesTags (scope : Scope) (arn : String) (request : Request) : Prop :=
  (∀ p, request = .deleteTags p → p.resourceArn ≠ arn) ∧
  ∀ kind name, request = .deletion kind name → scope.arn kind name ≠ arn

theorem SparesTags.deed {arn : String} (spares : SparesTags scope arn request) {deed : TagDeed}
    (does : request.tagDeed? scope = some (arn, deed)) : ∃ tags, deed = .write tags := by
  obtain ⟨keeps, stays⟩ := spares
  cases request with
  | createNotebook | createLifecycleConfig | createModel | addTags =>
    exact ⟨_, (Prod.ext_iff.mp (Option.some.inj does)).2.symm⟩
  | deleteTags p => exact absurd (Prod.ext_iff.mp (Option.some.inj does)).1 (keeps p rfl)
  | deleteNotebook name =>
    exact absurd (Prod.ext_iff.mp (Option.some.inj does)).1 (stays .notebookInstance name rfl)
  | deleteLifecycleConfig name =>
    exact absurd (Prod.ext_iff.mp (Option.some.inj does)).1 (stays .lifecycleConfig name rfl)
  | deleteModel name =>
    exact absurd (Prod.ext_iff.mp (Option.some.inj does)).1 (stays .model name rfl)
  | describeNotebook | startNotebook | stopNotebook | listNotebooks | describeLifecycleConfig
  | updateLifecycleConfig | listLifecycleConfigs | listTags | describeModel | listModels =>
    cases does

theorem tags_prefix_step (sound : b.Sound scope settings) (h : Step b now request b') {arn : String}
    (spares : SparesTags scope arn request) :
    (b.tags.list arn).map Tag.key <+: (b'.tags.list arn).map Tag.key := by
  rw [list_tags_step sound h]
  unfold seenAfter
  cases does : request.tagDeed? scope with
  | none => exact List.prefix_rfl
  | some done =>
    obtain ⟨other, deed⟩ := done
    by_cases here : other = arn
    · subst here
      obtain ⟨tags, rfl⟩ := spares.deed does
      simp only [if_pos]
      exact TagDeed.keys_write tags _
    · simp only [if_neg here]
      exact List.prefix_rfl

/-- What every step of a kind leaves in front, a run of such steps leaves in front. -/
theorem prefix_run {α : Type} (view : Backend → List α) {spares : Request → Prop}
    (step : ∀ {b now request b'}, b.Sound scope settings → Step b now request b' →
      spares request → view b <+: view b')
    (sound : b.Sound scope settings) (requests : List (Timestamp × Request))
    (all : ∀ entry ∈ b.accepted requests, spares entry.2) : view b <+: view (b.run requests) := by
  have kept := run_induction (P := fun done b' => b'.Sound scope settings ∧
    ((∀ entry ∈ done, spares entry.2) → view b <+: view b')) ?_ [] ⟨sound, fun _ => List.prefix_rfl⟩
    requests
  · exact kept.2 all
  · rintro done b₁ now request b₂ ⟨sound, before⟩ h
    refine ⟨sound.step h, fun all => ?_⟩
    obtain ⟨earlier, last⟩ := List.forall_mem_append.mp all
    exact (before earlier).trans (step sound h (last _ List.mem_cons_self))

/-- The backend when the `i`-th page is asked for, if others make these requests after each page.
Asking for a page changes nothing. -/
def meanwhile (b : Backend) (others : Nat → List (Timestamp × Request)) : Nat → Backend
  | 0 => b
  | i + 1 => (b.meanwhile others i).run (others i)

theorem Sound.meanwhile (sound : b.Sound scope settings)
    (others : Nat → List (Timestamp × Request)) (i : Nat) :
    (b.meanwhile others i).Sound scope settings := by
  induction i with
  | zero => exact sound
  | succ i ih => exact ih.run (others i)

/-- No request that others make after a page, and that is accepted, fails this. -/
def AllSpare (b : Backend) (others : Nat → List (Timestamp × Request)) (spares : Request → Prop) :
    Prop :=
  ∀ i, ∀ entry ∈ (b.meanwhile others i).accepted (others i), spares entry.2

end Backend

/-! ## All pages -/

/-- The pages, each asked for at its moment, name what is held when the last one is asked for, in
its order and once each. So they name once what was held from the first moment on, and each page
shows what it names as it is at its moment. -/
structure Covers {S : Type} (name : S → String) (held : Nat → List S) (pages : List (Page S)) :
    Prop where
  named : pages.flatMap (fun page => page.items.map name) = (held (pages.length - 1)).map name
  once : ((held (pages.length - 1)).map name).Nodup
  first : ∀ s ∈ held 0, (pages.flatMap fun page => page.items.map name).count (name s) = 1
  current : ∀ i page, pages[i]? = some page → ∀ s ∈ page.items, s ∈ held i

theorem Covers.of_cut {S : Type} {name : S → String} {held : Nat → List S}
    {answers : Nat → Option String → Page S → Prop} {pages : List (Page S)}
    (cuts : ∀ i token page, answers i token page → ∃ size, Page.cut (held i) size token = .ok page)
    (grows : ∀ i, (held i).map name <+: (held (i + 1)).map name)
    (distinct : ∀ i, ((held i).map name).Nodup) (t : Page.Traversal answers 0 none pages) :
    Covers name held pages := by
  have named : pages.flatMap (fun page => page.items.map name) =
      (held (pages.length - 1)).map name := by
    have keys := t.keys_eq name cuts grows (Eq.refl (Page.start none))
    rwa [List.drop_zero, Nat.zero_add] at keys
  refine ⟨named, distinct _, fun s held => ?_, fun i page shown s member => ?_⟩
  · have kept := Page.Traversal.prefix_of_le grows (Nat.zero_le (pages.length - 1))
    rw [named, (distinct _).count, if_pos (kept.subset (List.mem_map_of_mem held))]
  · obtain ⟨token, answered⟩ := t.answered_of_getElem? shown
    obtain ⟨size, cut⟩ := cuts _ token page answered
    rw [Nat.zero_add] at cut
    exact Page.mem_of_cut cut member

/-- Names are told from what is never changed, so they grow as it does. -/
theorem names_prefix {R S : Type} {wanted : R → Prop} [DecidablePred wanted] {lasting : R → R}
    (same : ∀ r, wanted (lasting r) ↔ wanted r) {name : S → String} {summary : R → S}
    (kept : ∀ r, name (summary (lasting r)) = name (summary r)) {held held' : List R}
    (grows : held.map lasting <+: held'.map lasting) :
    ((held.filter wanted).map summary).map name <+:
      ((held'.filter wanted).map summary).map name := by
  have told (records : List R) : ((records.filter wanted).map summary).map name =
      (((records.map lasting).filter wanted).map summary).map name := by
    rw [List.filter_map, List.map_map, List.map_map, List.map_map]
    have filtered : records.filter ((fun r => decide (wanted r)) ∘ lasting) =
        records.filter wanted := List.filter_congr fun r _ => decide_eq_decide.mpr (same r)
    rw [filtered]
    exact List.map_congr_left fun r _ => (kept r).symm
  rw [told held, told held']
  exact ((grows.filter _).map _).map _

namespace Backend

section Kinds

variable {scope : Scope} {settings : Settings} {b : Backend}
  {others : Nat → List (Timestamp × Request)} {now : Nat → Timestamp} {sizes : Nat → Option Nat}

theorem Sound.notebookPages_cover (sound : b.Sound scope settings) {p : ListNotebooks}
    (lasting : p.Lasting)
    (spared : b.AllSpare others fun request => ∀ name, request ≠ .deletion .notebookInstance name)
    {pages : List (Page NotebookSummary)}
    (t : Page.Traversal (fun i token page =>
      (b.meanwhile others i).NotebookPage (now i) p (sizes i) token page) 0 none pages) :
    Covers NotebookSummary.name
      (fun i => ((b.meanwhile others i).notebooks.records.filter p.Matches).map
        NotebookInstance.summary) pages := by
  have soundAt := sound.meanwhile others
  refine Covers.of_cut ?cuts ?grows ?distinct t
  case cuts =>
    intro i token page answered
    obtain ⟨size, -, cut⟩ := answers_listNotebooks.mp answered
    refine ⟨size, ?_⟩
    rw [← lasting.listing_eq size]
    exact cut
  case grows =>
    intro i
    exact names_prefix lasting.matches_iff (fun _ => rfl) (prefix_run
      (fun b => b.notebooks.records.map NotebookInstance.lasting)
      (fun _ h spares => notebooks_prefix_step h spares) (soundAt i) (others i) (spared i))
  case distinct =>
    intro i
    rw [List.map_map]
    exact (soundAt i).notebookNames.sublist (List.filter_sublist.map _)

theorem Sound.lifecycleConfigPages_cover (sound : b.Sound scope settings)
    {p : ListLifecycleConfigs} (lasting : p.Lasting)
    (spared : b.AllSpare others fun request => ∀ name, request ≠ .deletion .lifecycleConfig name)
    {pages : List (Page LifecycleConfigSummary)}
    (t : Page.Traversal (fun i token page =>
      (b.meanwhile others i).LifecycleConfigPage (now i) p (sizes i) token page) 0 none pages) :
    Covers LifecycleConfigSummary.name
      (fun i => ((b.meanwhile others i).lifecycleConfigs.records.filter (p.Matches ·)).map
        LifecycleConfig.summary) pages := by
  have soundAt := sound.meanwhile others
  refine Covers.of_cut ?cuts ?grows ?distinct t
  case cuts =>
    intro i token page answered
    obtain ⟨size, -, cut⟩ := answers_listLifecycleConfigs.mp answered
    refine ⟨size, ?_⟩
    rw [← lasting.order.listing_eq size]
    exact cut
  case grows =>
    intro i
    exact names_prefix lasting.matches_iff (fun _ => rfl) (prefix_run
      (fun b => b.lifecycleConfigs.records.map LifecycleConfig.lasting)
      (fun _ h spares => lifecycleConfigs_prefix_step h spares) (soundAt i) (others i) (spared i))
  case distinct =>
    intro i
    rw [List.map_map]
    exact (soundAt i).configNames.sublist (List.filter_sublist.map _)

theorem Sound.modelPages_cover (sound : b.Sound scope settings) {p : ListModels}
    (order : p.InOrder .creationTime)
    (spared : b.AllSpare others fun request => ∀ name, request ≠ .deletion .model name)
    {pages : List (Page ModelSummary)}
    (t : Page.Traversal (fun i token page =>
      (b.meanwhile others i).ModelPage (now i) p (sizes i) token page) 0 none pages) :
    Covers ModelSummary.name
      (fun i => ((b.meanwhile others i).models.records.filter (p.Matches ·)).map Model.summary)
      pages := by
  have soundAt := sound.meanwhile others
  refine Covers.of_cut ?cuts ?grows ?distinct t
  case cuts =>
    intro i token page answered
    obtain ⟨size, -, cut⟩ := answers_listModels.mp answered
    refine ⟨size, ?_⟩
    rw [← order.listing_eq size]
    exact cut
  case grows =>
    intro i
    have grown := prefix_run (·.models.records) (fun _ h spares => models_prefix_step h spares)
      (soundAt i) (others i) (spared i)
    exact ((grown.filter _).map _).map _
  case distinct =>
    intro i
    rw [List.map_map]
    exact (soundAt i).modelNames.sublist (List.filter_sublist.map _)

theorem Sound.tagPages_cover (sound : b.Sound scope settings) {arn : String}
    (spared : b.AllSpare others (SparesTags scope arn)) {pages : List (Page Tag)}
    (t : Page.Traversal (fun i token page => (b.meanwhile others i).Answers (now i)
      (.listTags ⟨arn, sizes i, token⟩) (.tags page)) 0 none pages) :
    Covers Tag.key (fun i => (b.meanwhile others i).tags.list arn) pages := by
  have soundAt := sound.meanwhile others
  refine Covers.of_cut ?cuts ?grows ?distinct t
  case cuts =>
    intro i token page answered
    obtain ⟨size, -, cut⟩ := answers_listTags.mp answered
    exact ⟨size, cut⟩
  case grows =>
    intro i
    exact prefix_run (fun b => (b.tags.list arn).map Tag.key)
      (fun sound h spares => tags_prefix_step sound h spares) (soundAt i) (others i) (spared i)
  case distinct =>
    intro i
    exact (soundAt i).tagKeys arn

end Kinds

/-- Pages in the order of insertion lose and repeat nothing while others make requests, whatever
sizes are asked for, as long as nothing of the listed kind is deleted: the pages of a listing by
what is never changed have the records that match at the last page, and those of the tags of an ARN
have the keys that are there at the last page. -/
theorem pages_meanwhile (scope : Scope) (settings : Settings)
    (requests : List (Timestamp × Request)) (others : Nat → List (Timestamp × Request))
    (now : Nat → Timestamp) (sizes : Nat → Option Nat) :
    let start := (fresh scope settings).run requests
    let b := start.meanwhile others
    (∀ p : ListNotebooks, p.Lasting →
      start.AllSpare others (fun request => ∀ name, request ≠ .deletion .notebookInstance name) →
      ∀ pages, Page.Traversal
        (fun i token page => (b i).NotebookPage (now i) p (sizes i) token page) 0 none pages →
      Covers NotebookSummary.name
        (fun i => ((b i).notebooks.records.filter p.Matches).map NotebookInstance.summary)
        pages) ∧
    (∀ p : ListLifecycleConfigs, p.Lasting →
      start.AllSpare others (fun request => ∀ name, request ≠ .deletion .lifecycleConfig name) →
      ∀ pages, Page.Traversal
        (fun i token page => (b i).LifecycleConfigPage (now i) p (sizes i) token page) 0 none
        pages →
      Covers LifecycleConfigSummary.name
        (fun i => ((b i).lifecycleConfigs.records.filter (p.Matches ·)).map LifecycleConfig.summary)
        pages) ∧
    (∀ p : ListModels, p.InOrder .creationTime →
      start.AllSpare others (fun request => ∀ name, request ≠ .deletion .model name) →
      ∀ pages, Page.Traversal
        (fun i token page => (b i).ModelPage (now i) p (sizes i) token page) 0 none pages →
      Covers ModelSummary.name
        (fun i => ((b i).models.records.filter (p.Matches ·)).map Model.summary) pages) ∧
    (∀ arn, start.AllSpare others (SparesTags scope arn) →
      ∀ pages, Page.Traversal
        (fun i token page => (b i).Answers (now i) (.listTags ⟨arn, sizes i, token⟩) (.tags page))
        0 none pages →
      Covers Tag.key (fun i => (b i).tags.list arn) pages) := by
  intro start b
  have sound : start.Sound scope settings := sound_run scope settings requests
  refine ⟨?_, ?_, ?_, ?_⟩
  · intro p lasting spared pages t
    exact sound.notebookPages_cover lasting spared t
  · intro p lasting spared pages t
    exact sound.lifecycleConfigPages_cover lasting spared t
  · intro p order spared pages t
    exact sound.modelPages_cover order spared t
  · intro arn spared pages t
    exact sound.tagPages_cover spared t

/-- A list request without any of the members. -/
def plainList {Key : Type} : ListRequest Key := ⟨none, none, none, none, none, .all, .all⟩

/-- Two resources of each kind, and two tags. -/
def pairs : List (Timestamp × Request) :=
  [(⟨1⟩, .createNotebook (.minimal "n" "ml.t2.medium" "role")),
    (⟨1⟩, .createNotebook (.minimal "m" "ml.t2.medium" "role")),
    (⟨1⟩, .createLifecycleConfig ⟨"l", [], [], []⟩),
    (⟨1⟩, .createLifecycleConfig ⟨"k", [], [], []⟩),
    (⟨1⟩, .createModel (.minimal "b" "role")), (⟨1⟩, .createModel (.minimal "a" "role")),
    (⟨1⟩, .addTags ⟨"x", [⟨"one", ""⟩, ⟨"two", ""⟩]⟩)]

/-- After the first page a third of everything is created, and others are written to. -/
def thirds (i : Nat) : List (Timestamp × Request) :=
  if i = 0 then
    [(⟨2⟩, .stopNotebook "m"), (⟨2⟩, .createNotebook (.minimal "c" "ml.t2.medium" "role")),
      (⟨2⟩, .updateLifecycleConfig ⟨"l", none, some []⟩),
      (⟨2⟩, .createLifecycleConfig ⟨"c", [], [], []⟩), (⟨2⟩, .createModel (.minimal "c" "role")),
      (⟨2⟩, .addTags ⟨"x", [⟨"two", "new"⟩, ⟨"three", ""⟩]⟩)]
  else []

/-- One of two items is on the first page, and the others are on the second. -/
theorem named_of_three {S : Type} {name : S → String} {held : Nat → List S}
    {answers : Nat → Option String → Page S → Prop}
    (covers : ∀ pages, Page.Traversal answers 0 none pages → Covers name held pages)
    (first : ∀ page, Page.cut (held 0) 1 none = .ok page → answers 0 none page)
    (second : ∀ page, Page.cut (held 1) 2 (some (Cursor.encode 1)) = .ok page →
      answers 1 (some (Cursor.encode 1)) page)
    (two : (held 0).length = 2) (three : (held 1).length = 3) :
    ∃ pages, Page.Traversal answers 0 none pages ∧
      pages.flatMap (fun page => page.items.map name) = (held 1).map name := by
  have cuts := Page.cut_eq (Eq.refl (Page.start none)) (held 0) 1
  have cuts' := Page.cut_eq (Page.start_encode (show 1 ≤ Json.greatestWord by decide)) (held 1) 2
  rw [two, if_pos (by decide)] at cuts
  rw [three, if_neg (by decide)] at cuts'
  have t := Page.Traversal.more (first _ cuts) rfl (.last (second _ cuts') (Eq.refl none))
  exact ⟨_, t, (covers _ t).named⟩

/-- One record is on the first page, and the other two are on the second. -/
theorem pages_meanwhile_thirds :
    let b := ((fresh ⟨"123456789012", "us-east-1"⟩ .default).run pairs).meanwhile thirds
    (∃ pages, Page.Traversal (fun i token page =>
        (b i).NotebookPage ⟨3⟩ ⟨plainList, none, none, none, none⟩ (some (i + 1)) token page)
        0 none pages ∧
      pages.flatMap (fun page => page.items.map NotebookSummary.name) = ["n", "m", "c"]) ∧
    (∃ pages, Page.Traversal (fun i token page =>
        (b i).LifecycleConfigPage ⟨3⟩ plainList (some (i + 1)) token page) 0 none pages ∧
      pages.flatMap (fun page => page.items.map LifecycleConfigSummary.name) = ["l", "k", "c"]) ∧
    (∃ pages, Page.Traversal (fun i token page =>
        (b i).ModelPage ⟨3⟩ plainList (some (i + 1)) token page) 0 none pages ∧
      pages.flatMap (fun page => page.items.map ModelSummary.name) = ["b", "a", "c"]) ∧
    ∃ pages, Page.Traversal (fun i token page =>
        (b i).Answers ⟨3⟩ (.listTags ⟨"x", some (i + 1), token⟩) (.tags page)) 0 none pages ∧
      pages.flatMap (fun page => page.items.map Tag.key) = ["one", "two", "three"] := by
  intro b
  obtain ⟨notebooks, configs, models, tags⟩ := pages_meanwhile ⟨"123456789012", "us-east-1"⟩
    .default pairs thirds (fun _ => ⟨3⟩) (fun i => some (i + 1))
  have nothingDeleted (i : Nat) : ∀ entry ∈ (b i).accepted (thirds i),
      (∀ kind name, entry.2 ≠ .deletion kind name) ∧ ∀ p, entry.2 ≠ .deleteTags p := by
    cases i with
    | zero =>
      change ∀ entry ∈ thirds 0, _
      simp only [thirds, if_pos, List.forall_mem_cons]
      refine ⟨?_, ?_, ?_, ?_, ?_, ?_, fun _ member => nomatch member⟩ <;>
        exact ⟨fun kind name deletes => (by cases kind <;> cases deletes), nofun⟩
    | succ i => exact fun _ member => nomatch member
  have spared (kind : ResourceKind) : ((fresh ⟨"123456789012", "us-east-1"⟩ .default).run
      pairs).AllSpare thirds fun request => ∀ name, request ≠ .deletion kind name :=
    fun i entry member name => (nothingDeleted i entry member).1 kind name
  refine ⟨?_, ?_, ?_, ?_⟩
  · have covers := notebooks ⟨plainList, none, none, none, none⟩ ⟨⟨.inl rfl, .inl rfl⟩, rfl, rfl⟩
      (spared .notebookInstance)
    obtain ⟨pages, t, named⟩ := named_of_three covers
      (fun page cuts => answers_listNotebooks.mpr ⟨⟨1, by decide⟩, rfl, cuts⟩)
      (fun page cuts => answers_listNotebooks.mpr ⟨⟨2, by decide⟩, rfl, cuts⟩) rfl rfl
    exact ⟨pages, t, named⟩
  · have covers := configs plainList ⟨⟨.inl rfl, .inl rfl⟩, rfl⟩ (spared .lifecycleConfig)
    obtain ⟨pages, t, named⟩ := named_of_three covers
      (fun page cuts => answers_listLifecycleConfigs.mpr ⟨⟨1, by decide⟩, rfl, cuts⟩)
      (fun page cuts => answers_listLifecycleConfigs.mpr ⟨⟨2, by decide⟩, rfl, cuts⟩) rfl rfl
    exact ⟨pages, t, named⟩
  · have covers := models plainList ⟨.inl rfl, .inl rfl⟩ (spared .model)
    obtain ⟨pages, t, named⟩ := named_of_three covers
      (fun page cuts => answers_listModels.mpr ⟨⟨1, by decide⟩, rfl, cuts⟩)
      (fun page cuts => answers_listModels.mpr ⟨⟨2, by decide⟩, rfl, cuts⟩) rfl rfl
    exact ⟨pages, t, named⟩
  · have spares : ((fresh ⟨"123456789012", "us-east-1"⟩ .default).run pairs).AllSpare thirds
        (SparesTags ⟨"123456789012", "us-east-1"⟩ "x") := fun i entry member =>
      ⟨fun p deletes => absurd deletes ((nothingDeleted i entry member).2 p),
        fun kind name deletes => absurd deletes ((nothingDeleted i entry member).1 kind name)⟩
    obtain ⟨pages, t, named⟩ := named_of_three (tags "x" spares)
      (fun page cuts => answers_listTags.mpr ⟨⟨1, by decide⟩, rfl, cuts⟩)
      (fun page cuts => answers_listTags.mpr ⟨⟨2, by decide⟩, rfl, cuts⟩) rfl rfl
    exact ⟨pages, t, named⟩

end Backend
end NotebookSim
