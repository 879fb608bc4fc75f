import Mathlib.Data.List.Nodup
import NotebookSim.Proofs.Arn
import NotebookSim.Proofs.Run
/-!
What is stored is well formed, whatever the settings and the requests. Every request that brings
tags or an instance checks them first, the values that stand in for missing ones included; the rest
only moves or drops what is there.
-/
namespace NotebookSim

/-! ## Tags -/

namespace Tag

structure Fits (tag : Tag) : Prop where
  key : 1 ≤ tag.key.length ∧ tag.key.length ≤ 128
  value : tag.value.length ≤ 256

theorem fits_iff (tag : Tag) :
    tag.Fits ↔ tag.hasValidKey = true ∧ tag.hasValidValue = true := by
  have nonempty : tag.key.isEmpty = false ↔ 1 ≤ tag.key.length := by
    rw [Nat.one_le_iff_ne_zero, ne_eq, String.length_eq_zero_iff, ← Bool.not_eq_true,
      String.isEmpty_iff]
  unfold hasValidKey hasValidValue greatestKeyLength greatestValueLength
  simp only [Bool.and_eq_true, Bool.not_eq_true', nonempty, decide_eq_true_eq]
  exact ⟨fun fits => ⟨fits.key, fits.value⟩, fun ⟨key, value⟩ => ⟨key, value⟩⟩

theorem validateFrom_eq_ok_iff (position : Nat) (tags : List Tag) :
    validateFrom position tags = .ok () ↔ ∀ tag ∈ tags, tag.Fits := by
  induction tags generalizing position with
  | nil => simp [validateFrom]
  | cons tag tags ih =>
    rw [List.forall_mem_cons, fits_iff, ← ih (position + 1)]
    cases validKey : tag.hasValidKey <;> cases validValue : tag.hasValidValue <;>
      simp [validateFrom, validKey, validValue]

theorem validateAll_eq_ok_iff (tags : List Tag) :
    validateAll tags = .ok () ↔ ∀ tag ∈ tags, tag.Fits :=
  validateFrom_eq_ok_iff 1 tags

theorem mem_of_mem_upsert {t tag : Tag} {tags : List Tag} (written : t ∈ tag.upsert tags) :
    t = tag ∨ t ∈ tags := by
  induction tags with
  | nil => exact .inl (List.mem_singleton.mp written)
  | cons first tags ih =>
    unfold upsert at written
    split at written
    · next same =>
      obtain rfl | later := List.mem_cons.mp written
      · exact .inl (by rw [same])
      · exact .inr (List.mem_cons_of_mem _ later)
    · obtain rfl | later := List.mem_cons.mp written
      · exact .inr List.mem_cons_self
      · exact (ih later).imp_right (List.mem_cons_of_mem _)

theorem mem_of_mem_upsertAll {t : Tag} {stored added : List Tag}
    (written : t ∈ upsertAll stored added) : t ∈ added ∨ t ∈ stored := by
  induction added generalizing stored with
  | nil => exact .inr written
  | cons tag added ih =>
    obtain later | here := ih written
    · exact .inl (List.mem_cons_of_mem _ later)
    · obtain rfl | old := mem_of_mem_upsert here
      · exact .inl List.mem_cons_self
      · exact .inr old

end Tag

namespace TagIndex

def Fit (index : TagIndex) : Prop := ∀ arn, ∀ tag ∈ index.list arn, tag.Fits

theorem fit_empty : empty.Fit := by
  intro arn tag held
  cases held

namespace Fit

variable {index : TagIndex} (fit : index.Fit)
include fit

theorem removeResource (arn : String) : (index.removeResource arn).Fit := by
  intro wanted tag held
  rw [list_removeResource] at held
  split at held
  · cases held
  · exact fit wanted tag held

theorem add (arn : String) {tags : List Tag} (new : ∀ tag ∈ tags, tag.Fits) :
    (index.add arn tags).Fit := by
  intro wanted tag held
  rw [list_add] at held
  split at held
  · obtain added | old := Tag.mem_of_mem_upsertAll held
    · exact new tag added
    · exact fit wanted tag old
  · exact fit wanted tag held

theorem delete (arn : String) (keys : List String) : (index.delete arn keys).Fit := by
  intro wanted tag held
  rw [list_delete] at held
  split at held
  · exact fit wanted tag (List.mem_filter.mp held).1
  · exact fit wanted tag held

end Fit
end TagIndex

/-! ## Instances -/

/-- What settings demand of an instance. -/
structure NotebookInstance.Fits (settings : Settings) (r : NotebookInstance) : Prop where
  instanceType : r.instanceType ∈ settings.instanceTypes
  volume : 5 ≤ r.volumeSizeInGb ∧ r.volumeSizeInGb ≤ 16384

namespace Backend

variable {scope : Scope} {settings : Settings} {b b' : Backend} {now : Timestamp}
  {request : Request}

/-- A request is let through when the instance it would create fits, defaults included. -/
theorem checkNotebook_eq_ok_iff (b : Backend) (now : Timestamp) (p : CreateNotebook) :
    b.checkNotebook p = .ok () ↔
      (b.newNotebook now p).Fits b.settings ∧ ∀ tag ∈ p.tags, tag.Fits := by
  have volumes (volume : Nat) :
      (volume < ServiceError.leastVolumeSize ∨ ServiceError.greatestVolumeSize < volume) ↔
        ¬ (5 ≤ volume ∧ volume ≤ 16384) := by
    unfold ServiceError.leastVolumeSize ServiceError.greatestVolumeSize
    omega
  have fits_iff : (b.newNotebook now p).Fits b.settings ↔
      b.settings.allows p.instanceType = true ∧
        (5 ≤ p.volumeSizeInGb.getD b.settings.defaultVolumeSizeGb ∧
          p.volumeSizeInGb.getD b.settings.defaultVolumeSizeGb ≤ 16384) := by
    unfold Settings.allows
    rw [List.contains_iff_mem]
    exact ⟨fun fits => ⟨fits.instanceType, fits.volume⟩, fun ⟨type, volume⟩ => ⟨type, volume⟩⟩
  unfold checkNotebook
  simp only [volumes]
  rw [fits_iff, ← Tag.validateAll_eq_ok_iff]
  cases b.settings.allows p.instanceType with
  | false => simp
  | true =>
    by_cases volume : 5 ≤ p.volumeSizeInGb.getD b.settings.defaultVolumeSizeGb ∧
        p.volumeSizeInGb.getD b.settings.defaultVolumeSizeGb ≤ 16384
    · simp [volume]
    · simp [volume]

theorem fit_tagged (fit : b.tags.Fit) (arn : String) {tags : List Tag}
    (new : ∀ tag ∈ tags, tag.Fits) : (b.tagged arn tags).Fit := by
  unfold tagged
  cases tags.isEmpty with
  | true => exact fit
  | false => exact fit.add arn new

/-- The checks that a request passes, kept for what it stored. -/
structure Fit (scope : Scope) (settings : Settings) (b : Backend) : Prop where
  urls : b.notebooks.All fun r => r.url = notebookUrl r.name scope.region
  notebooks : b.notebooks.All fun r => r.Fits settings
  tags : b.tags.Fit

theorem fit_fresh (scope : Scope) (settings : Settings) :
    (fresh scope settings).Fit scope settings where
  urls := Store.all_empty _
  notebooks := Store.all_empty _
  tags := TagIndex.fit_empty

theorem Fit.step (sound : b.Sound scope settings) (fit : b.Fit scope settings)
    (h : Step b now request b') : b'.Fit scope settings := by
  cases h with
  | lookup | updateLifecycleConfig => exact { fit with }
  | createNotebook p checked absent =>
    obtain ⟨fits, tags⟩ := (b.checkNotebook_eq_ok_iff now p).mp checked
    exact {
      urls := fit.urls.push (by rw [← sound.scope_eq]; rfl)
      notebooks := fit.notebooks.push (sound.settings_eq ▸ fits)
      tags := fit_tagged fit.tags _ tags }
  | startNotebook name | stopNotebook name =>
    exact { fit with
      urls := fit.urls.modify name fun _ kept => kept
      notebooks := fit.notebooks.modify name fun _ kept => ⟨kept.instanceType, kept.volume⟩ }
  | deleteNotebook name r =>
    exact {
      urls := fit.urls.erase name
      notebooks := fit.notebooks.erase name
      tags := fit.tags.removeResource r.arn }
  | createLifecycleConfig p checked | createModel p checked =>
    have new := (Tag.validateAll_eq_ok_iff p.tags).mp checked
    exact { fit with tags := fit_tagged fit.tags _ new }
  | deleteLifecycleConfig name r | deleteModel name r =>
    exact { fit with tags := fit.tags.removeResource r.arn }
  | addTags p checked =>
    have new := (Tag.validateAll_eq_ok_iff p.tags).mp checked
    exact { fit with tags := fit.tags.add p.resourceArn new }
  | deleteTags p => exact { fit with tags := fit.tags.delete p.resourceArn p.tagKeys }

theorem fit_run (scope : Scope) (settings : Settings) (requests : List (Timestamp × Request)) :
    ((fresh scope settings).run requests).Fit scope settings := by
  have start := And.intro (sound_fresh scope settings) (fit_fresh scope settings)
  refine (run_induction (P := fun _ b => b.Sound scope settings ∧ b.Fit scope settings) ?_ [] start
    requests).2
  rintro done b now request b' ⟨sound, fit⟩ h
  exact ⟨sound.step h, fit.step sound h⟩

/-! ## ARNs -/

/-- The ARNs of all resources. -/
def arns (b : Backend) : List String :=
  b.notebooks.records.map NotebookInstance.arn ++
    (b.lifecycleConfigs.records.map LifecycleConfig.arn ++ b.models.records.map Model.arn)

theorem map_arn {R : Type} [Record R] {store : Store R} {arn : R → String} {kind : ResourceKind}
    (named : store.All fun r => arn r = scope.arn kind (Record.name r)) :
    store.records.map arn = store.names.map (scope.arn kind) := by
  unfold Store.names
  rw [List.map_map]
  exact List.map_congr_left named

theorem Sound.nodup_arns (sound : b.Sound scope settings) : b.arns.Nodup := by
  have single (kind : ResourceKind) {names : List String} (unique : names.Nodup) :
      (names.map (scope.arn kind)).Nodup :=
    unique.map fun name name' same => (Scope.arn_inj.mp same).2
  have apart {kind kind' : ResourceKind} (other : kind ≠ kind') {names names' : List String} :
      List.Disjoint (names.map (scope.arn kind)) (names'.map (scope.arn kind')) := by
    intro arn left right
    obtain ⟨name, -, rfl⟩ := List.mem_map.mp left
    obtain ⟨name', -, same⟩ := List.mem_map.mp right
    exact other (Scope.arn_inj.mp same).1.symm
  unfold arns
  rw [map_arn sound.notebookArns, map_arn sound.configArns, map_arn sound.modelArns]
  refine (single _ sound.notebookNames).append
    ((single _ sound.configNames).append (single _ sound.modelNames) (apart (by decide))) ?_
  exact List.disjoint_append_right.mpr ⟨apart (by decide), apart (by decide)⟩

/-- A backend all of whose records and tags obey their rules. -/
structure WellFormed (scope : Scope) (settings : Settings) (b : Backend) : Prop
    extends b.Sound scope settings, b.Fit scope settings where
  arns : b.arns.Nodup

/-- Every run leaves a well-formed backend: no ARN and no name of a kind is taken twice, ARNs and
addresses are those of the names, and types, volumes and tags keep within their limits. -/
theorem wellFormed_run (scope : Scope) (settings : Settings)
    (requests : List (Timestamp × Request)) :
    ((fresh scope settings).run requests).WellFormed scope settings := by
  have sound := sound_run scope settings requests
  exact { sound, fit_run scope settings requests with arns := sound.nodup_arns }

end Backend
end NotebookSim
