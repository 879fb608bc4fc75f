import NotebookSim.Notebook
/-!
Sorting by a key. The sort is stable, so records that tie stay in the order in which they are held;
together with the key this settles the order of a listing.
-/
namespace NotebookSim

theorem pair_sublist_total {α : Type} {x y : α} {l : List α} (hx : x ∈ l) (hy : y ∈ l)
    (other : x ≠ y) : [x, y].Sublist l ∨ [y, x].Sublist l := by
  induction l with
  | nil => cases hx
  | cons z l ih =>
    obtain firstX | restX := List.mem_cons.mp hx
    · obtain firstY | restY := List.mem_cons.mp hy
      · exact absurd (firstX.trans firstY.symm) other
      · exact .inl (firstX ▸ (List.singleton_sublist.mpr restY).cons_cons x)
    · obtain firstY | restY := List.mem_cons.mp hy
      · exact .inr (firstY ▸ (List.singleton_sublist.mpr restX).cons_cons y)
      · exact (ih restX restY).imp (·.cons z) (·.cons z)

theorem pair_sublist_antisymm {α : Type} {x y : α} {l : List α} (distinct : l.Nodup)
    (h : [x, y].Sublist l) : ¬ [y, x].Sublist l := by
  induction l with
  | nil => cases h
  | cons z l ih =>
    obtain ⟨fresh, distinct⟩ := List.nodup_cons.mp distinct
    intro back
    cases h with
    | cons _ h =>
      cases back with
      | cons _ back => exact ih distinct h back
      | cons_cons _ back => exact fresh (h.subset (by simp))
    | cons_cons _ h =>
      have later : y ∈ l := List.singleton_sublist.mp h
      cases back with
      | cons _ back => exact fresh (back.subset (by simp))
      | cons_cons _ back => exact fresh later

/-- A stable sort keeps two items that tie in the order in which they stood. -/
theorem mergeSort_stable {α : Type} (le : α → α → Bool)
    (trans : ∀ x y z, le x y = true → le y z = true → le x z = true)
    (total : ∀ x y, (le x y || le y x) = true) {l : List α} (distinct : l.Nodup) :
    (l.mergeSort le).Pairwise fun x y => le x y = true ∧ (le y x = true → [x, y].Sublist l) := by
  have sorted := List.pairwise_mergeSort trans total l
  have distinct' : (l.mergeSort le).Nodup := (List.mergeSort_perm l le).nodup_iff.mpr distinct
  rw [List.pairwise_iff_forall_sublist] at sorted ⊢
  intro x y pair
  refine ⟨sorted pair, fun tie => ?_⟩
  have hx : x ∈ l := List.mem_mergeSort.mp (pair.subset (by simp))
  have hy : y ∈ l := List.mem_mergeSort.mp (pair.subset (by simp))
  have other : x ≠ y := by
    rintro rfl
    exact pair_sublist_antisymm distinct' pair pair
  obtain kept | swapped := pair_sublist_total hx hy other
  · exact kept
  · exact absurd (List.pair_sublist_mergeSort trans total tie swapped)
      (pair_sublist_antisymm distinct' pair)

/-- A list of the wanted records among those held, in the order `Le`; records that tie stand in the
order in which they are held. -/
structure Arranged {R : Type} (Le : R → R → Prop) (wanted : R → Prop) [DecidablePred wanted]
    (held listed : List R) : Prop where
  perm : listed.Perm (held.filter wanted)
  ordered : listed.Pairwise fun r s => Le r s ∧ (Le s r → [r, s].Sublist held)

namespace Arranged

variable {R : Type} {wanted : R → Prop} [DecidablePred wanted] {held : List R}

theorem filter (Le : R → R → Prop) (any : ∀ r s, Le r s) :
    Arranged Le wanted held (held.filter wanted) where
  perm := List.Perm.refl _
  ordered := by
    rw [List.pairwise_iff_forall_sublist]
    intro r s pair
    exact ⟨any r s, fun _ => pair.trans List.filter_sublist⟩

theorem mergeSort {Le : R → R → Prop} {le : R → R → Bool} (reflects : ∀ r s, le r s = true ↔ Le r s)
    (trans : ∀ r s t, Le r s → Le s t → Le r t) (total : ∀ r s, Le r s ∨ Le s r)
    (distinct : held.Nodup) : Arranged Le wanted held ((held.filter wanted).mergeSort le) where
  perm := List.mergeSort_perm _ _
  ordered := by
    have sorted := mergeSort_stable le
      (by simpa only [reflects] using trans) (by simpa only [Bool.or_eq_true, reflects] using total)
      (distinct.sublist (List.filter_sublist (p := fun r => decide (wanted r))))
    refine sorted.imp ?_
    rintro r s ⟨le, tie⟩
    exact ⟨(reflects r s).mp le,
      fun back => (tie ((reflects s r).mpr back)).trans List.filter_sublist⟩

theorem mem_iff {Le : R → R → Prop} {listed : List R} (arranged : Arranged Le wanted held listed)
    (r : R) : r ∈ listed ↔ r ∈ held ∧ wanted r := by
  rw [arranged.perm.mem_iff, List.mem_filter, decide_eq_true_eq]

/-- Of the wanted records, those that are also kept are listed alone as they are listed among the
others: their order and their places among the held ones leave no choice. -/
theorem eq_filter {Le : R → R → Prop} {also kept : R → Prop} [DecidablePred also]
    [DecidablePred kept] {listed part : List R} (distinct : held.Nodup)
    (whole : Arranged Le wanted held listed) (narrowed : Arranged Le also held part)
    (iff : ∀ r, also r ↔ wanted r ∧ kept r) : part = listed.filter kept := by
  have perm : part.Perm (listed.filter kept) := by
    refine narrowed.perm.trans (List.Perm.trans ?_ (whole.perm.filter _).symm)
    rw [List.filter_filter]
    refine List.Perm.of_eq (List.filter_congr fun r _ => ?_)
    simp [iff, Bool.and_comm]
  refine perm.eq_of_pairwise ?_ narrowed.ordered (whole.ordered.filter _)
  rintro r s - - ⟨le, tie⟩ ⟨back, tie'⟩
  exact absurd (tie' le) (pair_sublist_antisymm distinct (tie back))

end Arranged

/-- Names go by code points. By the time of creation all tie, which leaves the order of
insertion. -/
def SortKey.Le {R : Type} [Record R] (key : SortKey) (r s : R) : Prop :=
  match key with
  | name => Record.name r ≤ Record.name s
  | creationTime => True
  | lastModifiedTime => Record.lastModifiedTime r ≤ Record.lastModifiedTime s

def NotebookSortKey.Le (key : NotebookSortKey) (r s : NotebookInstance) : Prop :=
  match key with
  | name => r.name ≤ s.name
  | creationTime => True
  | status => r.status.name ≤ s.status.name

section Keys

variable {R : Type} {wanted : R → Prop} [DecidablePred wanted] {held : List R}

theorem arranged_by_text (text : R → String) (distinct : held.Nodup) :
    Arranged (fun r s => text r ≤ text s) wanted held
      ((held.filter wanted).mergeSort fun r s => nameLe (text r) (text s)) :=
  .mergeSort (fun _ _ => decide_eq_true_iff) (fun _ _ _ => String.le_trans)
    (fun _ _ => String.le_total _ _) distinct

theorem SortKey.arranged [Record R] (key : SortKey) (distinct : held.Nodup) :
    Arranged key.Le wanted held (key.sort (held.filter wanted)) := by
  cases key with
  | creationTime => exact .filter _ fun _ _ => trivial
  | name => exact arranged_by_text Record.name distinct
  | lastModifiedTime =>
    exact .mergeSort (fun _ _ => decide_eq_true_iff) (fun _ _ _ => Int.le_trans)
      (fun _ _ => Int.le_total _ _) distinct

end Keys

theorem NotebookSortKey.arranged {wanted : NotebookInstance → Prop} [DecidablePred wanted]
    {held : List NotebookInstance} (key : NotebookSortKey) (distinct : held.Nodup) :
    Arranged key.Le wanted held (key.sort (held.filter wanted)) := by
  cases key with
  | creationTime => exact SortKey.creationTime.arranged distinct
  | name => exact SortKey.name.arranged distinct
  | status =>
    have sorted : Arranged _ wanted held _ := arranged_by_text (fun r => r.status.name) distinct
    exact sorted

end NotebookSim
