import Mathlib.Data.List.Nodup
import NotebookSim.Proofs.Step
import NotebookSim.Proofs.TagIndex
/-!
What batches of tags come to. Within a batch the first tag of a key decides its place and the last
one its value, so batches can be joined, repeated and taken back.
-/
namespace NotebookSim

namespace Tag

/-- Keys that a batch names and that are not known yet, as often as the batch names them. -/
def newKeys (known : List Tag) (batch : List Tag) : List String :=
  (batch.map key).filter (· ∉ known.map key)

/-- What a batch makes of tags. Known keys keep their places, and new ones follow in the order in
which the batch names them first. The last tag of a key in the batch is the one that is held, and a
tag whose key the batch does not name stays. -/
structure Merged (before batch after : List Tag) : Prop where
  keys : after.map key = before.map key ++ (newKeys before batch).eraseDups
  last : ∀ earlier tag later, batch = earlier ++ tag :: later → tag.key ∉ later.map key →
    tag ∈ after
  kept : ∀ tag ∈ before, tag.key ∉ batch.map key → tag ∈ after

theorem upsertAll_cons (stored : List Tag) (tag : Tag) (batch : List Tag) :
    upsertAll stored (tag :: batch) = upsertAll (tag.upsert stored) batch := rfl

theorem upsertAll_append (stored first second : List Tag) :
    upsertAll stored (first ++ second) = upsertAll (upsertAll stored first) second :=
  List.foldl_append

/-! ## Places -/

theorem newKeys_of_known {known batch : List Tag}
    (all : ∀ tag ∈ batch, tag.key ∈ known.map key) : newKeys known batch = [] := by
  unfold newKeys
  rw [List.filter_eq_nil_iff]
  intro k named
  obtain ⟨tag, member, rfl⟩ := List.mem_map.mp named
  simpa using all tag member

theorem eraseDups_newKeys_cons (stored : List Tag) (tag : Tag) (batch : List Tag) :
    stored.map key ++ (newKeys stored (tag :: batch)).eraseDups =
      (tag.upsert stored).map key ++ (newKeys (tag.upsert stored) batch).eraseDups := by
  unfold newKeys
  rw [keys_upsert, List.map_cons]
  by_cases known : tag.key ∈ stored.map key
  · rw [if_pos known, List.filter_cons_of_neg (by simpa using known)]
  · -- the key goes last now, and is passed over in the rest of the batch
    have rest : ((batch.map key).filter (· ∉ stored.map key)).filter (fun k => !k == tag.key) =
        (batch.map key).filter (· ∉ stored.map key ++ [tag.key]) := by
      rw [List.filter_filter]
      refine List.filter_congr fun k _ => ?_
      by_cases same : k = tag.key <;> simp [same]
    rw [if_neg known, List.filter_cons_of_pos (by simpa using known), List.eraseDups_cons, rest,
      List.append_assoc, List.singleton_append]

theorem keys_upsertAll (stored batch : List Tag) :
    (upsertAll stored batch).map key = stored.map key ++ (newKeys stored batch).eraseDups := by
  induction batch generalizing stored with
  | nil => simp [upsertAll, newKeys]
  | cons tag batch ih => rw [upsertAll_cons, ih, eraseDups_newKeys_cons]

/-! ## Values -/

theorem mem_upsert_self (tag : Tag) (tags : List Tag) : tag ∈ tag.upsert tags := by
  induction tags with
  | nil => exact List.mem_singleton.mpr rfl
  | cons t tags ih =>
    unfold upsert
    by_cases same : t.key = tag.key
    · rw [if_pos same, same]
      exact List.mem_cons_self
    · rw [if_neg same]
      exact List.mem_cons_of_mem t ih

theorem mem_upsert_of_ne {t tag : Tag} {tags : List Tag} (held : t ∈ tags)
    (other : t.key ≠ tag.key) : t ∈ tag.upsert tags := by
  induction tags with
  | nil => cases held
  | cons first tags ih =>
    unfold upsert
    by_cases same : first.key = tag.key
    · have later : t ∈ tags := by
        obtain rfl | later := List.mem_cons.mp held
        · exact absurd same other
        · exact later
      rw [if_pos same]
      exact List.mem_cons_of_mem _ later
    · rw [if_neg same]
      obtain rfl | later := List.mem_cons.mp held
      · exact List.mem_cons_self
      · exact List.mem_cons_of_mem _ (ih later)

theorem mem_upsertAll_of_notMem {t : Tag} {stored batch : List Tag} (held : t ∈ stored)
    (unnamed : t.key ∉ batch.map key) : t ∈ upsertAll stored batch := by
  induction batch generalizing stored with
  | nil => exact held
  | cons tag batch ih =>
    obtain ⟨other, unnamed⟩ := not_or.mp (mt List.mem_cons.mpr unnamed)
    exact ih (mem_upsert_of_ne held other) unnamed

theorem merged_upsertAll (stored batch : List Tag) :
    Merged stored batch (upsertAll stored batch) where
  keys := keys_upsertAll stored batch
  last := by
    rintro earlier tag later rfl final
    rw [upsertAll_append, upsertAll_cons]
    exact mem_upsertAll_of_notMem (mem_upsert_self tag _) final
  kept := fun tag held unnamed => mem_upsertAll_of_notMem held unnamed

/-- A key that a batch names has a last tag there. -/
theorem exists_last {k : String} {batch : List Tag} (named : k ∈ batch.map key) :
    ∃ earlier tag later, batch = earlier ++ tag :: later ∧ tag.key = k ∧ k ∉ later.map key := by
  induction batch with
  | nil => cases named
  | cons tag batch ih =>
    by_cases again : k ∈ batch.map key
    · obtain ⟨earlier, last, later, rfl, same, final⟩ := ih again
      exact ⟨tag :: earlier, last, later, rfl, same, final⟩
    · have here : k = tag.key := (List.mem_cons.mp named).resolve_right again
      exact ⟨[], tag, batch, rfl, here.symm, again⟩

/-! ## Lists settled by their keys -/

theorem eq_of_subset {tags tags' : List Tag} (distinct : DistinctKeys tags')
    (keys : tags.map key = tags'.map key) (subset : tags ⊆ tags') : tags = tags' := by
  have length : tags.length = tags'.length := by simpa using congrArg List.length keys
  refine List.ext_getElem length fun i h h' => ?_
  have sameKey : tags[i].key = tags'[i].key := by
    have at' := List.getElem_of_eq keys (i := i) (by simpa using h)
    simpa using at'
  exact List.inj_on_of_nodup_map distinct (subset (List.getElem_mem h)) (List.getElem_mem h')
    sameKey

/-- Keys, last tags and kept tags leave no choice. -/
theorem Merged.eq {before batch after after' : List Tag} (distinct : DistinctKeys after)
    (merged : Merged before batch after) (merged' : Merged before batch after') :
    after = after' := by
  have keys : after'.map key = after.map key := merged'.keys.trans merged.keys.symm
  have distinct' : DistinctKeys after' := by
    unfold DistinctKeys
    rw [keys]
    exact distinct
  refine eq_of_subset distinct' keys.symm fun t held => ?_
  -- some tag of the same key is sure to be in both, and a key is held only once
  have shared : ∃ tag, tag.key = t.key ∧ tag ∈ after ∧ tag ∈ after' := by
    by_cases named : t.key ∈ batch.map key
    · obtain ⟨earlier, tag, later, split, same, final⟩ := exists_last named
      rw [← same] at final
      exact ⟨tag, same, merged.last _ tag _ split final, merged'.last _ tag _ split final⟩
    · have known : t.key ∈ before.map key := by
        have member : t.key ∈ after.map key := List.mem_map_of_mem held
        rw [merged.keys] at member
        obtain old | new := List.mem_append.mp member
        · exact old
        · exact absurd (List.mem_filter.mp (List.mem_eraseDups.mp new)).1 named
      obtain ⟨tag, stored, same⟩ := List.mem_map.mp known
      rw [← same] at named
      exact ⟨tag, same, merged.kept tag stored named, merged'.kept tag stored named⟩
  obtain ⟨tag, same, here, there⟩ := shared
  rw [List.inj_on_of_nodup_map distinct held here same.symm]
  exact there

theorem upsertAll_upsertAll {stored : List Tag} (distinct : DistinctKeys stored)
    (batch : List Tag) : upsertAll (upsertAll stored batch) batch = upsertAll stored batch := by
  have once := merged_upsertAll stored batch
  have known : ∀ tag ∈ batch, tag.key ∈ (upsertAll stored batch).map key := by
    intro tag member
    obtain ⟨earlier, last, later, split, same, final⟩ :=
      exists_last (List.mem_map_of_mem (f := key) member)
    rw [← same] at final ⊢
    exact List.mem_map_of_mem (once.last _ last _ split final)
  have again : Merged (upsertAll stored batch) batch (upsertAll stored batch) := {
    keys := by rw [newKeys_of_known known, List.eraseDups_nil, List.append_nil]
    last := once.last
    kept := fun tag held _ => held }
  have settled := distinct_upsertAll distinct batch
  exact (again.eq settled (merged_upsertAll _ batch)).symm

/-- The new keys of a batch can be taken out again when no stored tag was given another value. -/
theorem filter_upsertAll {stored batch : List Tag} (distinct : DistinctKeys stored)
    (untouched : ∀ tag ∈ stored, tag ∈ upsertAll stored batch) :
    (upsertAll stored batch).filter (·.key ∉ newKeys stored batch) = stored := by
  have known (k : String) (old : k ∈ stored.map key) : k ∉ newKeys stored batch := by
    intro new
    simpa [old] using (List.mem_filter.mp new).2
  have keys : ((upsertAll stored batch).filter (·.key ∉ newKeys stored batch)).map key =
      stored.map key := by
    have moved : ((upsertAll stored batch).filter (·.key ∉ newKeys stored batch)).map key =
        ((upsertAll stored batch).map key).filter (· ∉ newKeys stored batch) := by
      rw [List.filter_map]
      rfl
    have old : (stored.map key).filter (· ∉ newKeys stored batch) = stored.map key :=
      List.filter_eq_self.mpr fun k member => by simpa using known k member
    have new : (newKeys stored batch).eraseDups.filter (· ∉ newKeys stored batch) = [] :=
      List.filter_eq_nil_iff.mpr fun k member => by simpa using member
    rw [moved, keys_upsertAll, List.filter_append, old, new, List.append_nil]
  have distinct' := (distinct_upsertAll distinct batch).sublist
    ((List.filter_sublist (p := fun tag => decide (tag.key ∉ newKeys stored batch))).map key)
  refine (eq_of_subset distinct' keys.symm fun tag held => ?_).symm
  refine List.mem_filter.mpr ⟨untouched tag held, ?_⟩
  simpa using known tag.key (List.mem_map_of_mem held)

end Tag

/-- A list of tags answered to a request that adds some is the list that is then stored. -/
theorem Backend.execute_addTags (b : Backend) (now : Timestamp) {p : AddTags}
    (fit : Tag.validateAll p.tags = .ok ()) :
    b.execute now (.addTags p) =
      ⟨.ok (.tagsAdded ((b.tags.add p.resourceArn p.tags).list p.resourceArn)),
        { b with tags := b.tags.add p.resourceArn p.tags }, []⟩ := by
  simp only [execute, Request.operation, Operation.run_addTags, fit]

namespace TagIndex

/-- A change of the index. -/
inductive Change where
  | add (arn : String) (tags : List Tag)
  | delete (arn : String) (keys : List String)
  | removeResource (arn : String)

def Change.apply (index : TagIndex) : Change → TagIndex
  | add arn tags => index.add arn tags
  | delete arn keys => index.delete arn keys
  | removeResource arn => index.removeResource arn

/-- The index after changes that are made one after the other, beginning with no tags. -/
def changed (changes : List Change) : TagIndex := changes.foldl Change.apply empty

theorem Distinct.apply {index : TagIndex} (distinct : index.Distinct) (change : Change) :
    (change.apply index).Distinct := by
  cases change with
  | add arn tags => exact distinct.add arn tags
  | delete arn keys => exact distinct.delete arn keys
  | removeResource arn => exact distinct.removeResource arn

theorem distinct_changed (changes : List Change) : (changed changes).Distinct := by
  have kept (index : TagIndex) (distinct : index.Distinct) :
      (changes.foldl Change.apply index).Distinct := by
    induction changes generalizing index with
    | nil => exact distinct
    | cons change changes ih => exact ih _ (distinct.apply change)
  exact kept empty distinct_empty

theorem list_add_self (index : TagIndex) (arn : String) (tags : List Tag) :
    (index.add arn tags).list arn = Tag.upsertAll (index.list arn) tags := by
  rw [list_add, if_pos rfl]

theorem add_append (index : TagIndex) (arn : String) (first second : List Tag) :
    index.add arn (first ++ second) = (index.add arn first).add arn second := by
  have stored := index.list_add_self arn first
  unfold add at stored ⊢
  rw [stored, Entries.assign_assign, Tag.upsertAll_append]

theorem Distinct.add_add {index : TagIndex} (distinct : index.Distinct) (arn : String)
    (tags : List Tag) : (index.add arn tags).add arn tags = index.add arn tags := by
  have stored := index.list_add_self arn tags
  unfold TagIndex.add at stored ⊢
  rw [stored, Entries.assign_assign, Tag.upsertAll_upsertAll (distinct arn)]

theorem list_delete_self (index : TagIndex) (arn : String) (keys : List String) :
    (index.delete arn keys).list arn = (index.list arn).filter (·.key ∉ keys) := by
  rw [list_delete, if_pos rfl]
  simp

/-- Batches of tags in every index that changes lead to. Keys are held once, the list that a batch
makes is the one stored and answered, and the batch decides it as `Tag.Merged` says. Two batches
can be given as one, and a batch given twice is as if given once. A deletion leaves the tags it does
not name, in their order; so a batch that gave no stored tag another value is undone by deleting
its new keys. No other ARN notices. -/
theorem batches_of_changed (changes : List Change) (arn : String) (first second : List Tag) :
    let index := changed changes
    let added := index.add arn first
    (∀ wanted, Tag.DistinctKeys (index.list wanted)) ∧
    added.list arn = Tag.upsertAll (index.list arn) first ∧
    (∀ (b : Backend) (now : Timestamp), b.tags = index → Tag.validateAll first = .ok () →
      b.execute now (.addTags ⟨arn, first⟩) =
        ⟨.ok (.tagsAdded (added.list arn)), { b with tags := added }, []⟩) ∧
    Tag.Merged (index.list arn) first (added.list arn) ∧
    index.add arn (first ++ second) = added.add arn second ∧
    added.add arn first = added ∧
    (∀ keys, (index.delete arn keys).list arn = (index.list arn).filter (·.key ∉ keys)) ∧
    ((∀ tag ∈ index.list arn, tag ∈ added.list arn) →
      ∀ wanted, (added.delete arn (Tag.newKeys (index.list arn) first)).list wanted =
        index.list wanted) ∧
    ∀ wanted, wanted ≠ arn →
      added.list wanted = index.list wanted ∧
      (∀ keys, (index.delete arn keys).list wanted = index.list wanted) ∧
      (index.removeResource arn).list wanted = index.list wanted := by
  intro index added
  have distinct : index.Distinct := distinct_changed changes
  have stored : added.list arn = Tag.upsertAll (index.list arn) first :=
    index.list_add_self arn first
  refine ⟨distinct, stored, ?answer, ?merged, index.add_append arn first second,
    distinct.add_add arn first, index.list_delete_self arn, ?undone, ?others⟩
  case answer =>
    intro b now here fit
    rw [b.execute_addTags now fit, here]
  case merged =>
    rw [stored]
    exact Tag.merged_upsertAll (index.list arn) first
  case undone =>
    intro untouched wanted
    by_cases here : arn = wanted
    · subst here
      rw [stored] at untouched
      rw [list_delete_self, stored, Tag.filter_upsertAll (distinct arn) untouched]
    · rw [list_delete, if_neg here, list_add, if_neg here]
  case others =>
    intro wanted elsewhere
    have away : arn ≠ wanted := Ne.symm elsewhere
    refine ⟨?_, fun keys => ?_, ?_⟩
    · rw [list_add, if_neg away]
    · rw [list_delete, if_neg away]
    · rw [list_removeResource, if_neg away]

/-- The batch names `c` twice and leaves the tag that is there alone. -/
theorem batches_of_changed_repeatedKey :
    let index := changed [.add "x" [⟨"a", "1"⟩, ⟨"b", "2"⟩], .add "y" [⟨"a", "3"⟩],
      .delete "x" ["b"]]
    let added := index.add "x" [⟨"c", "4"⟩, ⟨"b", "5"⟩, ⟨"c", "6"⟩]
    (∀ tag ∈ index.list "x", tag ∈ added.list "x") ∧
    (added.list "x").map Tag.key = ["a", "c", "b"] ∧ ⟨"c", "6"⟩ ∈ added.list "x" ∧
    (added.delete "x" ["c", "b", "c"]).list "x" = [⟨"a", "1"⟩] ∧
    added.list "y" = [⟨"a", "3"⟩] := by
  intro index added
  obtain ⟨-, -, -, merged, -, -, -, undone, others⟩ := batches_of_changed
    [.add "x" [⟨"a", "1"⟩, ⟨"b", "2"⟩], .add "y" [⟨"a", "3"⟩], .delete "x" ["b"]] "x"
    [⟨"c", "4"⟩, ⟨"b", "5"⟩, ⟨"c", "6"⟩] []
  have untouched : ∀ tag ∈ index.list "x", tag ∈ added.list "x" := by decide
  refine ⟨untouched, ?_, ?_, undone untouched "x", ?_⟩
  · rw [merged.keys]
    decide
  · exact merged.last [⟨"c", "4"⟩, ⟨"b", "5"⟩] ⟨"c", "6"⟩ [] rfl (by decide)
  · exact (others "y" (by decide)).1.trans (by decide)

end TagIndex
end NotebookSim
