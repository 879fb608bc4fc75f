import NotebookSim.Proofs.Arrangement
import NotebookSim.Proofs.Describe
import NotebookSim.Proofs.Paging
/-!
What listings show. A listing has the records that match, sorted by its key with ties in the order
of insertion, and the whole of it backwards when it is descending; its pages show the summaries of
these records, which are the parts of what Describe tells of them.
-/
namespace NotebookSim

/-! ## Matching -/

theorem TimeRange.contains_iff (range : TimeRange) (t : Timestamp) :
    range.contains t = true ↔
      (∀ bound, range.before = some bound → t < bound) ∧
      (∀ bound, range.after = some bound → bound < t) := by
  obtain ⟨before, after⟩ := range
  cases before <;> cases after <;> simp [contains]

/-- What the members of every list request ask of a record. Bounds are exclusive. -/
structure ListRequest.Matches {Key R : Type} [Record R] (p : ListRequest Key) (r : R) : Prop where
  nameContains : ∀ needle, p.nameContains = some needle →
    needle.toList <:+: (Record.name r).toList
  createdBefore : ∀ bound, p.created.before = some bound → Record.creationTime r < bound
  createdAfter : ∀ bound, p.created.after = some bound → bound < Record.creationTime r
  modifiedBefore : ∀ bound, p.modified.before = some bound → Record.lastModifiedTime r < bound
  modifiedAfter : ∀ bound, p.modified.after = some bound → bound < Record.lastModifiedTime r

/-- What a list request asks of a notebook instance. An instance without the value that a filter
is about does not match. -/
structure ListNotebooks.Matches (p : ListNotebooks) (r : NotebookInstance) : Prop
    extends ListRequest.Matches p.toListRequest r where
  status : ∀ status, p.statusEquals = some status → r.status = status
  lifecycleConfig : ∀ needle, p.lifecycleConfigNameContains = some needle →
    ∃ name, r.lifecycleConfigName = some name ∧ needle.toList <:+: name.toList
  defaultRepository : ∀ needle, p.defaultCodeRepositoryContains = some needle →
    ∃ repository, r.defaultCodeRepository = some repository ∧
      needle.toList <:+: repository.toList
  additionalRepository : ∀ repository, p.additionalCodeRepositoryEquals = some repository →
    repository ∈ r.additionalCodeRepositories

theorem Text.contains_iff (s needle : String) :
    Text.contains s needle = true ↔ needle.toList <:+: s.toList := Text.occursIn_iff

theorem Option.all_iff {α : Type} (o : Option α) (q : α → Bool) :
    o.all q = true ↔ ∀ x, o = some x → q x = true := by
  cases o <;> simp

theorem ListRequest.selects_iff {Key R : Type} [Record R] (p : ListRequest Key) (size : Nat)
    (r : R) : (p.query size).selects r = true ↔ p.Matches r := by
  simp only [Query.selects, ListRequest.query, Bool.and_eq_true, TimeRange.contains_iff,
    Option.all_iff, Text.contains_iff]
  constructor
  · rintro ⟨⟨name, before, after⟩, modifiedBefore, modifiedAfter⟩
    exact ⟨name, before, after, modifiedBefore, modifiedAfter⟩
  · intro h
    exact ⟨⟨h.nameContains, h.createdBefore, h.createdAfter⟩, h.modifiedBefore, h.modifiedAfter⟩

theorem ListNotebooks.selects_iff (p : ListNotebooks) (size : Nat) (r : NotebookInstance) :
    ((p.query size).selects r && p.selects r) = true ↔ p.Matches r := by
  simp only [Bool.and_eq_true, ListRequest.selects_iff, ListNotebooks.selects, Option.all_iff,
    Option.any_eq_true, Text.contains_iff, beq_iff_eq, List.contains_iff_mem]
  constructor
  · rintro ⟨base, ⟨⟨status, config⟩, default⟩, additional⟩
    exact ⟨base, status, config, default, additional⟩
  · intro h
    exact ⟨h.toMatches, ⟨⟨h.status, h.lifecycleConfig⟩, h.defaultRepository⟩,
      h.additionalRepository⟩

instance {Key R : Type} [Record R] (p : ListRequest Key) (r : R) : Decidable (p.Matches r) :=
  decidable_of_iff _ (p.selects_iff 0 r)

instance (p : ListNotebooks) (r : NotebookInstance) : Decidable (p.Matches r) :=
  decidable_of_iff _ (p.selects_iff 0 r)

theorem ListNotebooks.filter_selects (p : ListNotebooks) (size : Nat)
    (held : List NotebookInstance) :
    held.filter (fun r => (p.query size).selects r && p.selects r) = held.filter p.Matches :=
  List.filter_congr fun r _ => by
    rw [Bool.eq_iff_iff, p.selects_iff, decide_eq_true_iff]

theorem ListRequest.filter_selects {Key R : Type} [Record R] (p : ListRequest Key) (size : Nat)
    (held : List R) :
    held.filter (fun r => (p.query size).selects r && true) = held.filter (p.Matches ·) :=
  List.filter_congr fun r _ => by
    rw [Bool.and_true, Bool.eq_iff_iff, p.selects_iff, decide_eq_true_iff]

/-! ## Answers -/

/-- What a client sees of a listing who goes from page to page: the wanted records in their order,
backwards if that is asked for, each by its summary. The relation `answers` says with which page a
question can be answered, and `tells` what Describe says of the record of a summary. -/
structure Shows {R S : Type} (Le : R → R → Prop) (wanted : R → Prop) [DecidablePred wanted]
    (held : List R) (summary : R → S) (tells : S → R → Prop)
    (answers : Option SortOrder → Nat → Option String → Page S → Prop) : Prop where
  listed : ∃ ascending, Arranged Le wanted held ascending ∧
    ∀ order pages, Page.Traversal (answers order) 0 none pages →
      pages.flatMap Page.items =
        (if order = some .descending then ascending.reverse else ascending).map summary
  described : ∀ order pages, Page.Traversal (answers order) 0 none pages →
    ∀ page ∈ pages, ∀ s ∈ page.items, ∃ r, tells s r ∧ s = summary r
  ends : held.length ≤ Json.greatestWord →
    ∀ order, ∃ pages, Page.Traversal (answers order) 0 none pages

theorem SortOrder.getD_apply {α : Type} (order : Option SortOrder) (items : List α) :
    (order.getD .ascending).apply items =
      if order = some .descending then items.reverse else items := by
  obtain _ | _ | _ := order <;> rfl

theorem Shows.of_cut {R S : Type} {Le : R → R → Prop} {wanted : R → Prop} [DecidablePred wanted]
    {held sorted : List R} {summary : R → S} {tells : S → R → Prop}
    {answers : Option SortOrder → Nat → Option String → Page S → Prop} {size : Nat → Nat}
    (arranged : Arranged Le wanted held sorted) (told : ∀ r ∈ held, tells (summary r) r)
    (positive : ∀ i, 1 ≤ size i)
    (cuts : ∀ order i token page, answers order i token page ↔
      Page.cut (((order.getD SortOrder.ascending).apply sorted).map summary) (size i) token =
        .ok page) :
    Shows Le wanted held summary tells answers where
  listed := by
    refine ⟨sorted, arranged, fun order pages t => ?_⟩
    rw [t.items_eq (fun i token page answered => ⟨_, (cuts order i token page).mp answered⟩) rfl,
      List.drop_zero, SortOrder.getD_apply]
  described := by
    intro order pages t page member s shown
    obtain ⟨k, at'⟩ := List.getElem?_of_mem member
    obtain ⟨token, answered⟩ := t.answered_of_getElem? at'
    obtain ⟨r, listed, rfl⟩ :=
      List.mem_map.mp (Page.mem_of_cut ((cuts order _ token page).mp answered) shown)
    have here : r ∈ sorted := by
      rw [SortOrder.getD_apply] at listed
      split at listed
      · exact List.mem_reverse.mp listed
      · exact listed
    exact ⟨r, told r ((arranged.mem_iff r).mp here).1, rfl⟩
  ends := by
    intro fits order
    have length : (((order.getD SortOrder.ascending).apply sorted).map summary).length ≤
        Json.greatestWord := by
      rw [SortOrder.getD_apply, List.length_map, apply_ite List.length, List.length_reverse,
        ite_self, arranged.perm.length_eq]
      exact Nat.le_trans (List.length_filter_le ..) fits
    obtain ⟨pages, t⟩ := Page.Traversal.exists_of_fits length positive 0 (Eq.refl (Page.start none))
    exact ⟨pages, t.imp fun i token page => (cuts order i token page).mpr⟩

namespace Backend

/-- The request is accepted with this answer, and leaves everything as it was. -/
def Answers (b : Backend) (now : Timestamp) (request : Request) (response : Response) : Prop :=
  b.execute now request = ⟨.ok response, b, []⟩

theorem answers_of_read {b : Backend} {now : Timestamp} {request : Request}
    {answer : Backend → Except ServiceError Response}
    (reads : request.operation now = .read answer) (response : Response) :
    b.Answers now request response ↔ answer b = .ok response := by
  unfold Answers
  rw [execute_of_read reads]
  simp

theorem exists_ok_iff {ε α : Type} {x : Except ε α} {a : α} (is : x = .ok a) (P : α → Prop) :
    (∃ y, x = .ok y ∧ P y) ↔ P a := by
  simp [is]

/-- An answer with a page takes a size that can be resolved and a page that can be cut. -/
theorem page_answer_iff {R : Type} {upper : Nat} (size : Except PageError (Page.Size upper))
    (cut : Nat → Except PageError (Page R)) (respond : Page R → Response) (response : Response) :
    (do
      let size ← size.mapError .page
      let page ← (cut size).mapError .page
      return respond page : Except ServiceError Response) = .ok response ↔
    ∃ s, size = .ok s ∧ ∃ page, cut s = .ok page ∧ respond page = response := by
  cases size with
  | error e =>
    constructor
    · intro answered
      cases answered
    · rintro ⟨s, resolved, -⟩
      cases resolved
  | ok s =>
    rw [exists_ok_iff rfl]
    change (do
      let page ← (cut s).mapError .page
      return respond page : Except ServiceError Response) = .ok response ↔ _
    cases cut s with
    | error e =>
      constructor
      · intro answered
        cases answered
      · rintro ⟨page, cuts, -⟩
        cases cuts
    | ok page =>
      rw [exists_ok_iff rfl]
      exact ⟨Except.ok.inj, congrArg Except.ok⟩

theorem summaries_answer_iff {R S : Type} [Record R] {upper : Nat}
    (size : Except PageError (Page.Size upper)) (query : Nat → Query) (filter : R → Bool)
    (sort : List R → List R) (held : List R) (summary : R → S) {respond : Page S → Response}
    (distinct : ∀ page page', respond page = respond page' → page = page') (page : Page S) :
    (do
      let size ← size.mapError .page
      let page ← ((query size).run filter sort held).mapError .page
      return respond (page.map summary) : Except ServiceError Response) = .ok (respond page) ↔
    ∃ s, size = .ok s ∧
      Page.cut (((query s).listing filter sort held).map summary) (query s).pageSize
        (query s).nextToken = .ok page := by
  rw [page_answer_iff size (fun s => (query s).run filter sort held)
    (fun page => respond (page.map summary))]
  refine exists_congr fun s => and_congr_right fun _ => ?_
  rw [Page.cut_map]
  change _ ↔ ((query s).run filter sort held).map (Page.map summary) = .ok page
  cases (query s).run filter sort held with
  | error e =>
    constructor
    · rintro ⟨whole, cuts, -⟩
      cases cuts
    · intro cuts
      cases cuts
  | ok whole =>
    rw [exists_ok_iff rfl]
    exact ⟨fun same => congrArg Except.ok (distinct _ _ same),
      fun same => congrArg respond (Except.ok.inj same)⟩

variable {b : Backend}

theorem answers_listNotebooks {now : Timestamp} {p : ListNotebooks}
    {page : Page NotebookSummary} :
    b.Answers now (.listNotebooks p) (.notebooks page) ↔
      ∃ size, b.pageSize p.maxResults = .ok size ∧
        Page.cut (((p.query size).listing p.selects (p.sortBy.getD .creationTime).sort
          b.notebooks.records).map NotebookInstance.summary) size p.nextToken = .ok page :=
  (answers_of_read rfl _).trans (summaries_answer_iff (b.pageSize p.maxResults) p.query p.selects
    (p.sortBy.getD .creationTime).sort b.notebooks.records NotebookInstance.summary
    (fun _ _ => Response.notebooks.inj) page)

theorem answers_listLifecycleConfigs {now : Timestamp} {p : ListLifecycleConfigs}
    {page : Page LifecycleConfigSummary} :
    b.Answers now (.listLifecycleConfigs p) (.lifecycleConfigs page) ↔
      ∃ size, b.pageSize p.maxResults = .ok size ∧
        Page.cut (((p.query size).listing (fun _ => true) (p.sortBy.getD .creationTime).sort
          b.lifecycleConfigs.records).map LifecycleConfig.summary) size p.nextToken = .ok page :=
  (answers_of_read rfl _).trans (summaries_answer_iff (b.pageSize p.maxResults) p.query
    (fun _ => true) (p.sortBy.getD .creationTime).sort b.lifecycleConfigs.records
    LifecycleConfig.summary (fun _ _ => Response.lifecycleConfigs.inj) page)

theorem answers_listModels {now : Timestamp} {p : ListModels} {page : Page ModelSummary} :
    b.Answers now (.listModels p) (.models page) ↔
      ∃ size, b.pageSize p.maxResults = .ok size ∧
        Page.cut (((p.query size).listing (fun _ => true) (p.sortBy.getD .creationTime).sort
          b.models.records).map Model.summary) size p.nextToken = .ok page :=
  (answers_of_read rfl _).trans (summaries_answer_iff (b.pageSize p.maxResults) p.query
    (fun _ => true) (p.sortBy.getD .creationTime).sort b.models.records Model.summary
    (fun _ _ => Response.models.inj) page)

theorem answers_listTags {now : Timestamp} {p : ListTags} {page : Page Tag} :
    b.Answers now (.listTags p) (.tags page) ↔
      ∃ size, Page.resolveSize p.maxResults b.settings.tagPageSize Settings.greatestTagPage
          (fun _ => by decide) = .ok size ∧
        Page.cut (b.tags.list p.resourceArn) size p.nextToken = .ok page := by
  refine (answers_of_read rfl _).trans ((page_answer_iff _
    (fun s => Page.cut (b.tags.list p.resourceArn) s p.nextToken) .tags _).trans ?_)
  simp only [Response.tags.injEq, exists_eq_right]

/-! ## The listings of a backend -/

/-- Which page answers a question for a page of instances, configurations or models. -/
def NotebookPage (b : Backend) (now : Timestamp) (p : ListNotebooks) (size : Option Nat)
    (token : Option String) (page : Page NotebookSummary) : Prop :=
  b.Answers now (.listNotebooks { p with maxResults := size, nextToken := token }) (.notebooks page)

def LifecycleConfigPage (b : Backend) (now : Timestamp) (p : ListLifecycleConfigs)
    (size : Option Nat) (token : Option String) (page : Page LifecycleConfigSummary) : Prop :=
  b.Answers now (.listLifecycleConfigs { p with maxResults := size, nextToken := token })
    (.lifecycleConfigs page)

def ModelPage (b : Backend) (now : Timestamp) (p : ListModels) (size : Option Nat)
    (token : Option String) (page : Page ModelSummary) : Prop :=
  b.Answers now (.listModels { p with maxResults := size, nextToken := token }) (.models page)

def threeModels : List (Timestamp × Request) :=
  [(⟨1⟩, .createModel (.minimal "b" "role")), (⟨2⟩, .createModel (.minimal "c" "role")),
    (⟨3⟩, .createModel (.minimal "ab" "role"))]

end Backend
end NotebookSim
