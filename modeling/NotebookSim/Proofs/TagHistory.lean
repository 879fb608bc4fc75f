import NotebookSim.Proofs.Arn
import NotebookSim.Proofs.Run
/-!
The tags of an ARN after a run, in terms of the accepted requests that write, remove or clear tags
of that ARN. Records and tags are stored apart; what ties them is that a record carries the ARN of
its kind and name, and that no other kind and name have it.
-/
namespace NotebookSim

/-- Something done to the tags of an ARN. -/
inductive TagDeed where
  | write (tags : List Tag)
  | remove (keys : List String)
  | clear

namespace TagDeed

def apply : TagDeed → List Tag → List Tag
  | .write tags, held => tags.foldl Tag.write held
  | .remove keys, held => held.filter fun tag => tag.key ∉ keys
  | .clear, _ => []

/-- What the deeds make, one after the other, of no tags. -/
def outcome (deeds : List (Timestamp × TagDeed)) : List Tag :=
  deeds.foldl (fun held (_, deed) => deed.apply held) []

/-- What was before a clearing is lost. -/
theorem outcome_cleared (before after : List (Timestamp × TagDeed)) (now : Timestamp) :
    outcome (before ++ (now, .clear) :: after) = outcome after := by
  unfold outcome
  rw [List.foldl_append, List.foldl_cons]
  rfl

end TagDeed

namespace Request

/-- Whose tags an accepted request changes, and how. -/
def tagDeed? (scope : Scope) : Request → Option (String × TagDeed)
  | .createNotebook p => some (scope.arn .notebookInstance p.name, .write p.tags)
  | .createLifecycleConfig p => some (scope.arn .lifecycleConfig p.name, .write p.tags)
  | .createModel p => some (scope.arn .model p.name, .write p.tags)
  | .addTags p => some (p.resourceArn, .write p.tags)
  | .deleteTags p => some (p.resourceArn, .remove p.tagKeys)
  | .deleteNotebook name => some (scope.arn .notebookInstance name, .clear)
  | .deleteLifecycleConfig name => some (scope.arn .lifecycleConfig name, .clear)
  | .deleteModel name => some (scope.arn .model name, .clear)
  | _ => none

theorem tagDeed?_of_isLookup (scope : Scope) {request : Request}
    (looks : request.isLookup = true) : request.tagDeed? scope = none := by
  revert looks
  cases request <;> simp [isLookup, tagDeed?]

def deletion (kind : ResourceKind) (name : String) : Request :=
  match kind with
  | .notebookInstance => .deleteNotebook name
  | .lifecycleConfig => .deleteLifecycleConfig name
  | .model => .deleteModel name

theorem tagDeed?_deletion (scope : Scope) (kind : ResourceKind) (name : String) :
    (deletion kind name).tagDeed? scope = some (scope.arn kind name, .clear) := by
  cases kind <;> rfl

end Request

namespace Backend

variable {scope : Scope} {settings : Settings} {b b' : Backend} {now : Timestamp}
  {request : Request}

theorem Sound.list_add (sound : b.Sound scope settings) (arn wanted : String) (tags : List Tag) :
    (b.tags.add arn tags).list wanted =
      if arn = wanted then (TagDeed.write tags).apply (b.tags.list wanted)
      else b.tags.list wanted := by
  rw [TagIndex.list_add, Tag.upsertAll_eq_foldl_write (sound.tagKeys wanted)]
  rfl

/-- A resource created without tags writes none. -/
theorem Sound.list_tagged (sound : b.Sound scope settings) (kind : ResourceKind)
    (name wanted : String) (tags : List Tag) :
    (b.tagged (b.arn kind name) tags).list wanted =
      if scope.arn kind name = wanted then (TagDeed.write tags).apply (b.tags.list wanted)
      else b.tags.list wanted := by
  unfold tagged arn
  rw [sound.scope_eq]
  cases tags with
  | nil => exact (ite_self _).symm
  | cons tag tags => exact sound.list_add _ wanted (tag :: tags)

theorem list_delete (b : Backend) (arn wanted : String) (keys : List String) :
    (b.tags.delete arn keys).list wanted =
      if arn = wanted then (TagDeed.remove keys).apply (b.tags.list wanted)
      else b.tags.list wanted := by
  rw [TagIndex.list_delete]
  simp [TagDeed.apply]

/-- One step, seen at one ARN. -/
theorem list_tags_step (sound : b.Sound scope settings) (h : Step b now request b')
    (wanted : String) :
    b'.tags.list wanted =
      seenAfter (request.tagDeed? scope) wanted TagDeed.apply (b.tags.list wanted) := by
  cases h with
  | lookup request looks =>
    rw [Request.tagDeed?_of_isLookup scope looks]
    rfl
  | startNotebook | stopNotebook | updateLifecycleConfig => rfl
  | createNotebook p => exact sound.list_tagged .notebookInstance p.name wanted p.tags
  | createLifecycleConfig p => exact sound.list_tagged .lifecycleConfig p.name wanted p.tags
  | createModel p => exact sound.list_tagged .model p.name wanted p.tags
  | addTags p => exact sound.list_add p.resourceArn wanted p.tags
  | deleteTags p => exact list_delete b p.resourceArn wanted p.tagKeys
  | deleteNotebook name r found =>
    have own : r.arn = scope.arn .notebookInstance name :=
      (sound.notebookArns.of_find? found).trans (congrArg _ (Store.name_of_find? found))
    rw [own]
    exact TagIndex.list_removeResource ..
  | deleteLifecycleConfig name r found =>
    have own : r.arn = scope.arn .lifecycleConfig name :=
      (sound.configArns.of_find? found).trans (congrArg _ (Store.name_of_find? found))
    rw [own]
    exact TagIndex.list_removeResource ..
  | deleteModel name r found =>
    have own : r.arn = scope.arn .model name :=
      (sound.modelArns.of_find? found).trans (congrArg _ (Store.name_of_find? found))
    rw [own]
    exact TagIndex.list_removeResource ..

theorem list_tags_run (scope : Scope) (settings : Settings) (requests : List (Timestamp × Request))
    (arn : String) :
    ((fresh scope settings).run requests).tags.list arn =
      TagDeed.outcome (deedsOf (Request.tagDeed? scope) arn
        ((fresh scope settings).accepted requests)) :=
  view_run scope settings (·.tags.list arn) (fun sound h => list_tags_step sound h arn) requests

/-- A deletion is not noticed at the ARN of any other resource. -/
theorem list_tags_deletion (sound : b.Sound scope settings) (time : Timestamp)
    {kind kind' : ResourceKind} {name name' : String} (other : (kind, name) ≠ (kind', name')) :
    (b.after time (.deletion kind name)).tags.list (scope.arn kind' name') =
      b.tags.list (scope.arn kind' name') := by
  cases h : (b.execute time (.deletion kind name)).result with
  | error e => rw [after_refused h]
  | ok response =>
    have apart : scope.arn kind name ≠ scope.arn kind' name' := by
      intro same
      obtain ⟨kinds, names⟩ := Scope.arn_inj.mp same
      exact other (Prod.ext kinds names)
    rw [list_tags_step sound (step_of_accepted h), Request.tagDeed?_deletion]
    exact if_neg apart

/-- After a deletion only later requests count for the tags of the ARN. -/
theorem deedsOf_deletion (before after : List (Timestamp × Request)) (time : Timestamp)
    (kind : ResourceKind) (name : String) :
    TagDeed.outcome (deedsOf (Request.tagDeed? scope) (scope.arn kind name)
        (before ++ (time, .deletion kind name) :: after)) =
      TagDeed.outcome (deedsOf (Request.tagDeed? scope) (scope.arn kind name) after) := by
  have split : deedsOf (Request.tagDeed? scope) (scope.arn kind name)
      (before ++ (time, .deletion kind name) :: after) =
      deedsOf (Request.tagDeed? scope) (scope.arn kind name) before ++
        (time, .clear) :: deedsOf (Request.tagDeed? scope) (scope.arn kind name) after := by
    unfold deedsOf
    rw [List.filterMap_append, List.filterMap_cons_some]
    simp only [Request.tagDeed?_deletion, if_pos]
  rw [split, TagDeed.outcome_cleared]

/-- The tags of an ARN are what the accepted requests about it make of none. No two resources of a
scope share an ARN; so a deletion leaves the tags of every other resource, and what is created
under a deleted name has only the tags written since. -/
theorem tags_run (scope : Scope) (settings : Settings) (requests : List (Timestamp × Request)) :
    let start := fresh scope settings
    let b := start.run requests
    (∀ arn, b.tags.list arn =
      TagDeed.outcome (deedsOf (Request.tagDeed? scope) arn (start.accepted requests))) ∧
    (∀ kind kind' name name', scope.arn kind name = scope.arn kind' name' →
      kind = kind' ∧ name = name') ∧
    (∀ time kind kind' name name', (kind, name) ≠ (kind', name') →
      (b.after time (.deletion kind name)).tags.list (scope.arn kind' name') =
        b.tags.list (scope.arn kind' name')) ∧
    (∀ earlier time kind name later response,
      requests = earlier ++ (time, .deletion kind name) :: later →
      ((start.run earlier).execute time (.deletion kind name)).result = .ok response →
      b.tags.list (scope.arn kind name) =
        TagDeed.outcome (deedsOf (Request.tagDeed? scope) (scope.arn kind name)
          (((start.run earlier).after time (.deletion kind name)).accepted later))) := by
  intro start b
  refine ⟨?_, ?_, ?_, ?_⟩
  · intro arn
    exact list_tags_run scope settings requests arn
  · intro kind kind' name name' same
    exact Scope.arn_inj.mp same
  · intro time kind kind' name name' other
    exact list_tags_deletion (sound_run scope settings requests) time other
  · rintro earlier time kind name later response rfl deleted
    have accepted : start.accepted (earlier ++ (time, .deletion kind name) :: later) =
        start.accepted earlier ++ (time, .deletion kind name) ::
          ((start.run earlier).after time (.deletion kind name)).accepted later := by
      rw [accepted_append]
      simp only [Backend.accepted, deleted]
    rw [list_tags_run, accepted, deedsOf_deletion]

/-- A tagged name is deleted and used again. -/
def retagging : List (Timestamp × Request) :=
  [(⟨1⟩, .createModel { CreateModel.minimal "m" "role" with tags := [⟨"a", "1"⟩, ⟨"b", "2"⟩] }),
    (⟨2⟩, .deleteModel "m"),
    (⟨3⟩, .createModel { CreateModel.minimal "m" "role" with tags := [⟨"b", "3"⟩] })]

theorem tags_run_retagging :
    ((fresh ⟨"123456789012", "us-east-1"⟩ .default).run retagging).tags.list
      (Scope.arn ⟨"123456789012", "us-east-1"⟩ .model "m") = [⟨"b", "3"⟩] := by
  obtain ⟨-, -, -, since⟩ := tags_run ⟨"123456789012", "us-east-1"⟩ .default retagging
  exact (since (retagging.take 1) ⟨2⟩ .model "m" (retagging.drop 2) .done rfl rfl).trans rfl

end Backend
end NotebookSim
