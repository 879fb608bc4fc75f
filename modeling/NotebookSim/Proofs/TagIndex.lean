import NotebookSim.Proofs.Entries
import NotebookSim.Tag.Index
/-!
The tag index as a map from ARNs to tag lists. An operation on one ARN is seen at that ARN only,
and no list ever holds a key twice.
-/
namespace NotebookSim

namespace Tag

def DistinctKeys (tags : List Tag) : Prop := (tags.map key).Nodup

/-- One tag written into a list: its value replaces that of its key in place, a new key goes
last. -/
def write (tags : List Tag) (tag : Tag) : List Tag :=
  if tag.key ∈ tags.map key then
    tags.map fun t => if t.key = tag.key then ⟨t.key, tag.value⟩ else t
  else tags ++ [tag]

theorem keys_upsert (tag : Tag) (tags : List Tag) :
    (tag.upsert tags).map key =
      if tag.key ∈ tags.map key then tags.map key else tags.map key ++ [tag.key] := by
  induction tags with
  | nil => rfl
  | cons t tags ih =>
    by_cases h : t.key = tag.key
    · simp [upsert, h]
    · have other : tag.key ∈ (t :: tags).map key ↔ tag.key ∈ tags.map key := by
        simp [Ne.symm h]
      rw [upsert, if_neg h, List.map_cons, ih]
      by_cases known : tag.key ∈ tags.map key
      · rw [if_pos known, if_pos (other.mpr known), List.map_cons]
      · rw [if_neg known, if_neg (fun h => known (other.mp h)), List.map_cons, List.cons_append]

theorem distinct_upsert {tags : List Tag} (distinct : DistinctKeys tags) (tag : Tag) :
    DistinctKeys (tag.upsert tags) := by
  unfold DistinctKeys
  rw [keys_upsert]
  by_cases known : tag.key ∈ tags.map key
  · rw [if_pos known]
    exact distinct
  · rw [if_neg known]
    refine List.nodup_append.mpr ⟨distinct, by simp, ?_⟩
    intro a ha b hb
    rw [List.mem_singleton.mp hb]
    exact fun e => known (e ▸ ha)

theorem distinct_upsertAll {tags : List Tag} (distinct : DistinctKeys tags) (added : List Tag) :
    DistinctKeys (upsertAll tags added) := by
  unfold upsertAll
  induction added generalizing tags with
  | nil => exact distinct
  | cons tag added ih => exact ih (distinct_upsert distinct tag)

theorem upsert_eq_write {tags : List Tag} (distinct : DistinctKeys tags) (tag : Tag) :
    tag.upsert tags = write tags tag := by
  induction tags with
  | nil => rfl
  | cons t tags ih =>
    obtain ⟨fresh, distinct⟩ := List.nodup_cons.mp distinct
    have written := ih distinct
    unfold write at written ⊢
    by_cases h : t.key = tag.key
    · -- the other keys differ from this one, so the rest of the list stays
      have kept : tags.map (fun t => if t.key = tag.key then ⟨t.key, tag.value⟩ else t) = tags := by
        refine (List.map_congr_left fun x hx => if_neg ?_).trans (List.map_id' tags)
        intro e
        exact fresh (h.trans e.symm ▸ List.mem_map_of_mem hx)
      simp [upsert, h, kept]
    · by_cases known : tag.key ∈ tags.map key
      · have still : tag.key ∈ (t :: tags).map key := List.mem_cons_of_mem _ known
        rw [if_pos known] at written
        rw [upsert, if_neg h, written, if_pos still, List.map_cons, if_neg h]
      · have new : tag.key ∉ (t :: tags).map key := by
          simpa [Ne.symm h] using known
        rw [if_neg known] at written
        rw [upsert, if_neg h, written, if_neg new, List.cons_append]

theorem upsertAll_eq_foldl_write {tags : List Tag} (distinct : DistinctKeys tags)
    (added : List Tag) : upsertAll tags added = added.foldl write tags := by
  unfold upsertAll
  induction added generalizing tags with
  | nil => rfl
  | cons tag added ih =>
    rw [List.foldl_cons, List.foldl_cons, ih (distinct_upsert distinct tag),
      upsert_eq_write distinct tag]

end Tag

namespace TagIndex

/-! ## The tags of an ARN after a change -/

theorem list_removeResource (index : TagIndex) (arn wanted : String) :
    (index.removeResource arn).list wanted = if arn = wanted then [] else index.list wanted := by
  unfold removeResource list
  rw [Entries.lookup_erase]
  by_cases h : arn = wanted
  · rw [if_pos h, if_pos h]
    rfl
  · rw [if_neg h, if_neg h]

theorem list_add (index : TagIndex) (arn : String) (tags : List Tag) (wanted : String) :
    (index.add arn tags).list wanted =
      if arn = wanted then Tag.upsertAll (index.list wanted) tags else index.list wanted := by
  unfold add list
  rw [Entries.lookup_assign]
  by_cases h : arn = wanted
  · rw [if_pos h, if_pos h, h]
    rfl
  · rw [if_neg h, if_neg h]

theorem list_delete (index : TagIndex) (arn : String) (keys : List String) (wanted : String) :
    (index.delete arn keys).list wanted =
      if arn = wanted then (index.list wanted).filter fun tag => !keys.contains tag.key
      else index.list wanted := by
  unfold delete
  by_cases h : arn = wanted
  · subst h
    rw [if_pos rfl]
    cases found : index.entries.lookup arn with
    | none => simp [list, found]
    | some tags =>
      have held : index.list arn = tags := by simp [list, found]
      rw [held]
      dsimp only
      cases emptied : (tags.filter fun tag => !keys.contains tag.key).isEmpty with
      | true =>
        rw [if_pos rfl, list_removeResource, if_pos rfl]
        exact (List.isEmpty_iff.mp emptied).symm
      | false => simp [list, Entries.lookup_assign]
  · rw [if_neg h]
    cases index.entries.lookup arn with
    | none => rfl
    | some tags =>
      dsimp only
      cases (tags.filter fun tag => !keys.contains tag.key).isEmpty with
      | true => rw [if_pos rfl, list_removeResource, if_neg h]
      | false => simp [list, Entries.lookup_assign, h]

/-! ## Distinct keys -/

def Distinct (index : TagIndex) : Prop := ∀ arn, Tag.DistinctKeys (index.list arn)

theorem distinct_empty : empty.Distinct := fun _ => List.nodup_nil

namespace Distinct

variable {index : TagIndex} (distinct : index.Distinct)
include distinct

theorem removeResource (arn : String) : (index.removeResource arn).Distinct := by
  intro wanted
  rw [list_removeResource]
  by_cases h : arn = wanted
  · rw [if_pos h]
    exact List.nodup_nil
  · rw [if_neg h]
    exact distinct wanted

theorem add (arn : String) (tags : List Tag) : (index.add arn tags).Distinct := by
  intro wanted
  rw [list_add]
  by_cases h : arn = wanted
  · rw [if_pos h]
    exact Tag.distinct_upsertAll (distinct wanted) tags
  · rw [if_neg h]
    exact distinct wanted

theorem delete (arn : String) (keys : List String) : (index.delete arn keys).Distinct := by
  intro wanted
  rw [list_delete]
  by_cases h : arn = wanted
  · rw [if_pos h]
    exact (distinct wanted).sublist (List.filter_sublist.map Tag.key)
  · rw [if_neg h]
    exact distinct wanted

end Distinct
end TagIndex
end NotebookSim
