import Mathlib.Data.Set.Card
import NotebookSim.Proofs.TagAlgebra
/-!
How many ARNs the index counts. A deletion that takes the last tag of an ARN takes its entry too,
but a batch without tags makes an entry where there was none. The count is that of the ARNs with
tags and of those left bare in this way.
-/
namespace NotebookSim

theorem Entries.encard_keys {κ α : Type} [DecidableEq κ] {entries : List (κ × α)}
    (distinct : DistinctKeys entries) :
    {key | ∃ value, entries.lookup key = some value}.encard = entries.length := by
  have keys : {key | ∃ value, entries.lookup key = some value} =
      ((entries.map Prod.fst).toFinset : Set κ) := by
    ext key
    simp only [Set.mem_ofPred_eq, List.coe_toFinset, mem_keys_iff]
  rw [keys, Set.encard_coe_eq_coe_finsetCard, List.toFinset_card_of_nodup distinct,
    List.length_map]

theorem Tag.upsertAll_eq_nil_iff (stored batch : List Tag) :
    upsertAll stored batch = [] ↔ stored = [] ∧ batch = [] := by
  induction batch generalizing stored with
  | nil => simp [upsertAll]
  | cons tag batch ih =>
    have written : tag.upsert stored ≠ [] := List.ne_nil_of_mem (mem_upsert_self tag stored)
    simp [upsertAll_cons, ih, written]

namespace TagIndex

/-- The ARN that a change is about. -/
def Change.arn : Change → String
  | add arn _ | delete arn _ | removeResource arn => arn

/-- The ARN has an entry, but no tags in it. -/
def Bare (index : TagIndex) (arn : String) : Prop := index.entries.lookup arn = some []

variable {index : TagIndex}

/-! ## One change -/

/-- A deletion finds no entry, takes the entry out, or leaves some tags in it. -/
theorem delete_cases (index : TagIndex) (arn : String) (keys : List String) :
    index.entries.lookup arn = none ∧ index.delete arn keys = index ∨
    index.delete arn keys = index.removeResource arn ∨
    ∃ kept, kept ≠ [] ∧ index.delete arn keys = ⟨Entries.assign arn kept index.entries⟩ := by
  cases found : index.entries.lookup arn with
  | none => exact .inl ⟨rfl, by simp only [delete, found]⟩
  | some tags =>
    right
    simp only [delete, found]
    cases emptied : (tags.filter fun tag => !keys.contains tag.key).isEmpty with
    | true => exact .inl rfl
    | false =>
      refine .inr ⟨_, ?_, rfl⟩
      rw [← List.isEmpty_eq_false_iff]
      exact emptied

theorem distinctKeys_apply (distinct : Entries.DistinctKeys index.entries) (change : Change) :
    Entries.DistinctKeys (change.apply index).entries := by
  cases change with
  | add arn tags => exact distinct.assign arn _
  | removeResource arn => exact distinct.erase arn
  | delete arn keys =>
    change Entries.DistinctKeys (index.delete arn keys).entries
    obtain ⟨-, same⟩ | gone | ⟨kept, -, left⟩ := index.delete_cases arn keys
    · rw [same]
      exact distinct
    · rw [gone]
      exact distinct.erase arn
    · rw [left]
      exact distinct.assign arn kept

theorem lookup_apply_of_ne (index : TagIndex) {change : Change} {arn : String}
    (elsewhere : change.arn ≠ arn) :
    (change.apply index).entries.lookup arn = index.entries.lookup arn := by
  cases change with
  | add named tags => exact (Entries.lookup_assign ..).trans (if_neg elsewhere)
  | removeResource named => exact (Entries.lookup_erase ..).trans (if_neg elsewhere)
  | delete named keys =>
    change (index.delete named keys).entries.lookup arn = index.entries.lookup arn
    obtain ⟨-, same⟩ | gone | ⟨kept, -, left⟩ := index.delete_cases named keys
    · rw [same]
    · rw [gone]
      exact (Entries.lookup_erase ..).trans (if_neg elsewhere)
    · rw [left]
      exact (Entries.lookup_assign ..).trans (if_neg elsewhere)

theorem bare_add_iff (index : TagIndex) (arn : String) (tags : List Tag) :
    (index.add arn tags).Bare arn ↔ tags = [] ∧ index.list arn = [] := by
  unfold Bare add
  rw [Entries.lookup_assign, if_pos rfl, Option.some_inj, Tag.upsertAll_eq_nil_iff, and_comm]

theorem not_bare_removeResource (index : TagIndex) (arn : String) :
    ¬ (index.removeResource arn).Bare arn := by
  unfold Bare removeResource
  rw [Entries.lookup_erase, if_pos rfl]
  nofun

theorem not_bare_delete (index : TagIndex) (arn : String) (keys : List String) :
    ¬ (index.delete arn keys).Bare arn := by
  obtain ⟨absent, same⟩ | gone | ⟨kept, some, left⟩ := index.delete_cases arn keys
  · unfold Bare
    rw [same, absent]
    nofun
  · rw [gone]
    exact not_bare_removeResource index arn
  · unfold Bare
    rw [left, Entries.lookup_assign, if_pos rfl, Option.some_inj]
    exact some

/-- Only a batch without tags leaves an ARN bare, and only one that has none. -/
theorem bare_apply_iff (index : TagIndex) (change : Change) :
    (change.apply index).Bare change.arn ↔
      change = .add change.arn [] ∧ (change.apply index).list change.arn = [] := by
  cases change with
  | add arn tags =>
    change (index.add arn tags).Bare arn ↔
      Change.add arn tags = .add arn [] ∧ (index.add arn tags).list arn = []
    rw [bare_add_iff, list_add_self, Tag.upsertAll_eq_nil_iff, Change.add.injEq]
    tauto
  | delete arn keys => exact iff_of_false (not_bare_delete index arn keys) nofun
  | removeResource arn => exact iff_of_false (not_bare_removeResource index arn) nofun

/-! ## All changes -/

/-- The last change about an ARN. -/
def lastChange? (changes : List Change) (arn : String) : Option Change :=
  (changes.filter (·.arn = arn)).getLast?

/-- The last change about the ARN was a batch without tags, and it has none. -/
def LeftBare (changes : List Change) (arn : String) : Prop :=
  lastChange? changes arn = some (.add arn []) ∧ (changed changes).list arn = []

theorem changed_snoc (changes : List Change) (change : Change) :
    changed (changes ++ [change]) = change.apply (changed changes) :=
  List.foldl_append

theorem lastChange?_snoc (changes : List Change) (change : Change) (arn : String) :
    lastChange? (changes ++ [change]) arn =
      if change.arn = arn then some change else lastChange? changes arn := by
  unfold lastChange?
  by_cases here : change.arn = arn <;> simp [here]

theorem distinctKeys_changed (changes : List Change) :
    Entries.DistinctKeys (changed changes).entries := by
  induction changes using List.reverseRecOn with
  | nil => exact List.nodup_nil
  | append_singleton changes change ih =>
    rw [changed_snoc]
    exact distinctKeys_apply ih change

theorem bare_changed_iff (changes : List Change) (arn : String) :
    (changed changes).Bare arn ↔ LeftBare changes arn := by
  unfold LeftBare
  induction changes using List.reverseRecOn with
  | nil => exact iff_of_false nofun nofun
  | append_singleton changes change ih =>
    rw [changed_snoc, lastChange?_snoc]
    by_cases here : change.arn = arn
    · subst here
      rw [if_pos rfl, bare_apply_iff, Option.some_inj]
    · have kept := lookup_apply_of_ne (changed changes) here
      unfold Bare list at ih ⊢
      rw [if_neg here, kept, ih]

/-! ## The count -/

theorem exists_lookup_iff (index : TagIndex) (arn : String) :
    (∃ tags, index.entries.lookup arn = some tags) ↔ index.list arn ≠ [] ∨ index.Bare arn := by
  unfold list Bare
  cases index.entries.lookup arn with
  | none => simp
  | some tags => simpa using (em (tags = [])).symm

theorem taggedResourceCount_eq (distinct : Entries.DistinctKeys index.entries) :
    (index.taggedResourceCount : ℕ∞) =
      {arn | index.list arn ≠ []}.encard + {arn | index.Bare arn}.encard := by
  have apart : Disjoint {arn | index.list arn ≠ []} {arn | index.Bare arn} := by
    rw [Set.disjoint_left]
    intro arn tagged bare
    exact tagged (by simp [list, show index.entries.lookup arn = some [] from bare])
  rw [← Set.encard_union_eq apart]
  simp only [← Set.ofPred_or, ← exists_lookup_iff]
  exact (Entries.encard_keys distinct).symm

theorem forall_entry_ne_nil_iff (distinct : Entries.DistinctKeys index.entries) :
    (∀ entry ∈ index.entries, entry.2 ≠ []) ↔ ∀ arn, ¬ index.Bare arn := by
  constructor
  · intro tagged arn bare
    exact tagged (arn, []) (Entries.mem_of_lookup bare) rfl
  · rintro none ⟨arn, tags⟩ held rfl
    exact none arn (distinct.lookup_of_mem held)

/-- The index counts the ARNs that have tags, and beside them those left bare: their last change was
a batch without tags, and they have none. Only while there are no such ARNs does every entry have
tags and the count tell the number of tagged ARNs. -/
theorem taggedResourceCount_changed (changes : List Change) :
    let index := changed changes
    (index.taggedResourceCount : ℕ∞) =
      {arn | index.list arn ≠ []}.encard + {arn | LeftBare changes arn}.encard ∧
    ((∀ entry ∈ index.entries, entry.2 ≠ []) ↔ ∀ arn, ¬ LeftBare changes arn) ∧
    ((index.taggedResourceCount : ℕ∞) = {arn | index.list arn ≠ []}.encard ↔
      ∀ arn, ¬ LeftBare changes arn) := by
  intro index
  have distinct : Entries.DistinctKeys index.entries := distinctKeys_changed changes
  have bare (arn : String) : index.Bare arn ↔ LeftBare changes arn := bare_changed_iff changes arn
  have counted := taggedResourceCount_eq distinct
  have settled := forall_entry_ne_nil_iff distinct
  simp only [bare] at counted settled
  refine ⟨counted, settled, ?_⟩
  have finite : {arn | index.list arn ≠ []}.encard ≠ ⊤ := by
    intro infinite
    rw [infinite, top_add] at counted
    exact ENat.natCast_ne_top _ counted
  rw [counted]
  constructor
  · intro same arn left
    have none := (WithTop.add_left_inj finite).mp (same.trans (add_zero _).symm)
    exact (Set.encard_eq_zero.mp none).le left
  · intro none
    have empty : {arn | LeftBare changes arn} = ∅ := Set.eq_empty_of_forall_notMem none
    rw [empty, Set.encard_empty, add_zero]

-- An ARN without tags is counted, and an ARN that lost its tags is not.
example : (changed [.add "x" [], .add "y" [⟨"k", "v"⟩], .add "z" [⟨"k", "v"⟩],
    .delete "z" ["k"]]).taggedResourceCount = 2 := by decide

end TagIndex
end NotebookSim
