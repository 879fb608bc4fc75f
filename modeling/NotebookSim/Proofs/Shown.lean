import Mathlib.Data.List.Nodup
import NotebookSim.Proofs.Listing
/-!
What a client is shown who goes from page to page: the matching records of a listing, sorted by its
key, in the order that is asked for.
-/
namespace NotebookSim

/-- Whoever goes from page to page sees exactly these items, and comes to an end if their number
fits a position. -/
structure Page.Show {S : Type} (answers : Nat → Option String → Page S → Prop) (items : List S) :
    Prop where
  shown : ∀ pages, Page.Traversal answers 0 none pages → pages.flatMap Page.items = items
  ends : items.length ≤ Json.greatestWord → ∃ pages, Page.Traversal answers 0 none pages

theorem Page.Show.of_cut {S : Type} {answers : Nat → Option String → Page S → Prop}
    {items : List S} {size : Nat → Nat} (positive : ∀ i, 1 ≤ size i)
    (cuts : ∀ i token page, answers i token page ↔ Page.cut items (size i) token = .ok page) :
    Page.Show answers items where
  shown := by
    intro pages t
    have all := t.items_eq (fun i token page answered => ⟨_, (cuts i token page).mp answered⟩) rfl
    rwa [List.drop_zero] at all
  ends := by
    intro fits
    obtain ⟨pages, t⟩ := Page.Traversal.exists_of_fits fits positive 0 (Eq.refl (Page.start none))
    exact ⟨pages, t.imp fun i token page => (cuts i token page).mpr⟩

theorem SortOrder.mem_apply {α : Type} {x : α} {items : List α} (order : SortOrder) :
    x ∈ order.apply items ↔ x ∈ items := by
  cases order with
  | ascending => exact Iff.rfl
  | descending => exact List.mem_reverse

theorem SortOrder.length_apply {α : Type} (order : SortOrder) (items : List α) :
    (order.apply items).length = items.length := by
  cases order with
  | ascending => rfl
  | descending => exact List.length_reverse

theorem SortOrder.filter_apply {α : Type} (order : SortOrder) (items : List α)
    (kept : α → Bool) : (order.apply items).filter kept = order.apply (items.filter kept) := by
  cases order with
  | ascending => rfl
  | descending => exact List.filter_reverse

/-- Whoever goes through the pages sees just the wanted records of the store, if a summary tells the
name of its record. -/
theorem Page.Show.mem_iff {R S : Type} [Record R] {store : Store R}
    {answers : Nat → Option String → Page S → Prop} {Le : R → R → Prop} {wanted : R → Prop}
    [DecidablePred wanted] {listed : List R} {summary : R → S} {order : SortOrder}
    (shows : Page.Show answers ((order.apply listed).map summary))
    (arranged : Arranged Le wanted store.records listed) (unique : store.Unique)
    (named : ∀ r s, summary r = summary s → Record.name r = Record.name s)
    {pages : List (Page S)} (t : Page.Traversal answers 0 none pages) {r : R}
    (stored : r ∈ store.records) : summary r ∈ pages.flatMap Page.items ↔ wanted r := by
  rw [shows.shown pages t, List.mem_map]
  simp only [SortOrder.mem_apply, arranged.mem_iff]
  constructor
  · rintro ⟨s, ⟨stored', matching⟩, same⟩
    cases List.inj_on_of_nodup_map unique stored' stored (named s r same)
    exact matching
  · intro matching
    exact ⟨r, ⟨stored, matching⟩, rfl⟩

theorem Page.Show.exists_of_stored {R S : Type} {answers : Nat → Option String → Page S → Prop}
    {Le : R → R → Prop} {wanted : R → Prop} [DecidablePred wanted] {held listed : List R}
    {summary : R → S} {order : SortOrder}
    (shows : Page.Show answers ((order.apply listed).map summary))
    (arranged : Arranged Le wanted held listed) (fits : held.length ≤ Json.greatestWord) :
    ∃ pages, Page.Traversal answers 0 none pages := by
  refine shows.ends ?_
  rw [List.length_map, SortOrder.length_apply, arranged.perm.length_eq]
  exact Nat.le_trans (List.length_filter_le _ held) fits

namespace Backend

section Shown

variable {b : Backend} (now : Nat → Timestamp) {sizes : Nat → Option Nat}
  (accepted : ∀ i n, sizes i = some n → 1 ≤ n ∧ n ≤ Settings.greatestListPage)
include accepted

/-- Every page of a listing has a size, which only depends on what is asked for. -/
theorem exists_pageSizes (b : Backend) :
    ∃ size : Nat → Page.Size Settings.greatestListPage, ∀ i, b.pageSize (sizes i) = .ok (size i) :=
  Classical.axiomOfChoice fun i => Page.resolveSize_of_accepted (accepted i)

theorem notebookPages_show (p : ListNotebooks) :
    Page.Show (fun i token page => b.NotebookPage (now i) p (sizes i) token page)
      (((p.sortOrder.getD .ascending).apply ((p.sortBy.getD .creationTime).sort
        (b.notebooks.records.filter p.Matches))).map NotebookInstance.summary) := by
  obtain ⟨size, resolved⟩ := exists_pageSizes accepted b
  rw [← p.filter_selects 0]
  exact .of_cut (fun i => (size i).2.1) fun i token page =>
    answers_listNotebooks.trans (exists_ok_iff (resolved i) _)

theorem lifecycleConfigPages_show (p : ListLifecycleConfigs) :
    Page.Show (fun i token page => b.LifecycleConfigPage (now i) p (sizes i) token page)
      (((p.sortOrder.getD .ascending).apply ((p.sortBy.getD .creationTime).sort
        (b.lifecycleConfigs.records.filter (p.Matches ·)))).map LifecycleConfig.summary) := by
  obtain ⟨size, resolved⟩ := exists_pageSizes accepted b
  rw [← p.filter_selects 0]
  exact .of_cut (fun i => (size i).2.1) fun i token page =>
    answers_listLifecycleConfigs.trans (exists_ok_iff (resolved i) _)

theorem modelPages_show (p : ListModels) :
    Page.Show (fun i token page => b.ModelPage (now i) p (sizes i) token page)
      (((p.sortOrder.getD .ascending).apply ((p.sortBy.getD .creationTime).sort
        (b.models.records.filter (p.Matches ·)))).map Model.summary) := by
  obtain ⟨size, resolved⟩ := exists_pageSizes accepted b
  rw [← p.filter_selects 0]
  exact .of_cut (fun i => (size i).2.1) fun i token page =>
    answers_listModels.trans (exists_ok_iff (resolved i) _)

end Shown

end Backend
end NotebookSim
