import NotebookSim.Proofs.ReportedTimes
import NotebookSim.Proofs.Run
import NotebookSim.Proofs.Shown
/-!
Listings that are bounded by a reported time. The bound is the instant that the reported number is
read as, which need not be the one that was reported; so a listing after the time of a record can
show that very record, though it is right about the records of all other milliseconds.
-/
namespace NotebookSim

/-- The members of list requests that bound times. -/
inductive TimeBound where
  | createdBefore
  | createdAfter
  | modifiedBefore
  | modifiedAfter
  deriving DecidableEq

/-! ## Bounds of a request -/

namespace TimeBound

def member : TimeBound → String
  | createdBefore => "CreationTimeBefore"
  | createdAfter => "CreationTimeAfter"
  | modifiedBefore => "LastModifiedTimeBefore"
  | modifiedAfter => "LastModifiedTimeAfter"

/-- The time of a record that is bounded. -/
def time {R : Type} [Record R] (r : R) : TimeBound → Timestamp
  | createdBefore | createdAfter => Record.creationTime r
  | modifiedBefore | modifiedAfter => Record.lastModifiedTime r

/-- Whether a time is on the right side of a limit. The limit itself is not. -/
def Admits (limit time : Timestamp) : TimeBound → Prop
  | createdBefore | modifiedBefore => time < limit
  | createdAfter | modifiedAfter => limit < time

variable {Key R : Type} [Record R] {p : ListRequest Key} {bound : TimeBound} {limit : Timestamp}

def limit? (p : ListRequest Key) : TimeBound → Option Timestamp
  | createdBefore => p.created.before
  | createdAfter => p.created.after
  | modifiedBefore => p.modified.before
  | modifiedAfter => p.modified.after

/-- The request without the bound. -/
def lift (p : ListRequest Key) : TimeBound → ListRequest Key
  | createdBefore => { p with created.before := none }
  | createdAfter => { p with created.after := none }
  | modifiedBefore => { p with modified.before := none }
  | modifiedAfter => { p with modified.after := none }

theorem limit?_lift (p : ListRequest Key) (bound other : TimeBound) :
    other.limit? (bound.lift p) = if other = bound then none else other.limit? p := by
  cases bound <;> cases other <;> rfl

theorem nameContains_lift (p : ListRequest Key) (bound : TimeBound) :
    (bound.lift p).nameContains = p.nameContains := by
  cases bound <;> rfl

theorem matches_iff_admits (p : ListRequest Key) (r : R) :
    p.Matches r ↔
      (∀ needle, p.nameContains = some needle → needle.toList <:+: (Record.name r).toList) ∧
      ∀ (bound : TimeBound) limit, bound.limit? p = some limit →
        bound.Admits limit (bound.time r) := by
  constructor
  · intro h
    refine ⟨h.nameContains, fun bound limit limited => ?_⟩
    cases bound with
    | createdBefore => exact h.createdBefore limit limited
    | createdAfter => exact h.createdAfter limit limited
    | modifiedBefore => exact h.modifiedBefore limit limited
    | modifiedAfter => exact h.modifiedAfter limit limited
  · rintro ⟨name, times⟩
    exact ⟨name, times .createdBefore, times .createdAfter, times .modifiedBefore,
      times .modifiedAfter⟩

theorem matches_iff (limited : bound.limit? p = some limit) (r : R) :
    p.Matches r ↔ (bound.lift p).Matches r ∧ bound.Admits limit (bound.time r) := by
  rw [matches_iff_admits p, matches_iff_admits (bound.lift p), nameContains_lift]
  simp only [limit?_lift]
  constructor
  · rintro ⟨name, times⟩
    refine ⟨⟨name, fun other otherLimit limited' => ?_⟩, times bound limit limited⟩
    split at limited'
    · cases limited'
    · exact times other otherLimit limited'
  · rintro ⟨⟨name, others⟩, admits⟩
    refine ⟨name, fun other otherLimit limited' => ?_⟩
    by_cases same : other = bound
    · subst same
      cases limited.symm.trans limited'
      exact admits
    · refine others other otherLimit ?_
      rwa [if_neg same]

theorem notebooks_matches_iff {p : ListNotebooks}
    (limited : bound.limit? p.toListRequest = some limit) (r : NotebookInstance) :
    p.Matches r ↔ ListNotebooks.Matches { p with toListRequest := bound.lift p.toListRequest } r ∧
      bound.Admits limit (bound.time r) := by
  have base := matches_iff limited r
  constructor
  · intro h
    obtain ⟨lifted, admits⟩ := base.mp h.toMatches
    exact ⟨{ h with toMatches := lifted }, admits⟩
  · rintro ⟨h, admits⟩
    exact { h with toMatches := base.mpr ⟨h.toMatches, admits⟩ }

theorem excludes_iff {limit t : Timestamp} :
    (∀ bound : TimeBound, ¬ bound.Admits limit t) ↔ limit = t := by
  constructor
  · intro excluded
    have notBefore : ¬ t.nanoseconds < limit.nanoseconds := excluded .createdBefore
    have notAfter : ¬ limit.nanoseconds < t.nanoseconds := excluded .createdAfter
    have same : limit.nanoseconds = t.nanoseconds := by omega
    cases limit
    exact congrArg Timestamp.mk same
  · rintro rfl bound
    cases bound <;> exact Int.lt_irrefl _

/-- A limit and what is read instead of it are told apart only by times in between. -/
theorem admits_reread_iff {t u : Timestamp} (back : t.ReadsBack)
    (apart : 10 ^ 6 ≤ |u.nanoseconds - t.nanoseconds|) (bound : TimeBound) :
    bound.Admits t.reread u ↔ bound.Admits t u := by
  have near := abs_lt.mp back.millisecond
  have sides := le_abs.mp apart
  cases bound with
  | createdBefore | modifiedBefore =>
    change u.nanoseconds < t.reread.nanoseconds ↔ u.nanoseconds < t.nanoseconds
    omega
  | createdAfter | modifiedAfter =>
    change t.reread.nanoseconds < u.nanoseconds ↔ t.nanoseconds < u.nanoseconds
    omega

end TimeBound

/-! ## Reading the bounds -/

namespace ListRequest

variable {Key β : Type} {place : Place} {members : List (String × Json)} {key : Reader Key}
  {p : ListRequest Key} {bounds : List TimeBound}

/-- These bounds of a request are what the members of their names are read as. -/
def BoundsRead (place : Place) (members : List (String × Json)) (p : ListRequest Key)
    (bounds : List TimeBound) : Prop :=
  ∀ bound ∈ bounds, ∀ j, members.lookup bound.member = some j →
    Reader.optional Reader.timestamp place j = .ok (bound.limit? p)

theorem BoundsRead.limit?_eq (reads : p.BoundsRead place members bounds) {bound : TimeBound}
    (known : bound ∈ bounds) {t : Timestamp}
    (given : members.lookup bound.member = some t.toJson) : bound.limit? p = some t.reread := by
  have read := reads bound known t.toJson given
  change (Reader.timestamp place t.toJson).map some = .ok (bound.limit? p) at read
  obtain ⟨u, number, limit⟩ := Reader.map_eq_ok_iff.mp read
  rw [← limit, Timestamp.eq_reread_of_read number]

/-- The member that names the action is none of the bounds. -/
theorem BoundsRead.of_parameters
    (reads : p.BoundsRead place (Entries.erase Request.actionMember members) bounds) :
    p.BoundsRead place members bounds := by
  intro bound known j given
  refine reads bound known j ?_
  rw [Entries.lookup_erase, if_neg (by cases bound <;> decide), given]

theorem exists_of_assemble_leadingFields {f : β}
    {next : Option String → Option Nat → Option Key → Option SortOrder → Option String → β}
    {value? : String → Option Json}
    (assembled : (leadingFields key next).assemble place value? = .ok f) :
    ∃ token size sortBy order name, f = next token size sortBy order name := by
  obtain ⟨_, name, before₄, rfl, -⟩ := Fields.exists_of_assemble_omittable assembled
  obtain ⟨_, order, before₃, rfl, -⟩ := Fields.exists_of_assemble_omittable before₄
  obtain ⟨_, sortBy, before₂, rfl, -⟩ := Fields.exists_of_assemble_omittable before₃
  obtain ⟨_, size, before₁, rfl, -⟩ := Fields.exists_of_assemble_omittable before₂
  obtain ⟨_, token, start, rfl, -⟩ := Fields.exists_of_assemble_omittable before₁
  cases start
  exact ⟨token, size, sortBy, order, name, rfl⟩

theorem boundsRead_of_fields
    (assembled : (fields key).assemble place (fun name => members.lookup name) = .ok p) :
    p.BoundsRead place members [.createdBefore, .createdAfter] := by
  obtain ⟨_, after, before₁, rfl, afterRead⟩ := Fields.exists_of_assemble_omittable assembled
  obtain ⟨_, before, leading, rfl, beforeRead⟩ := Fields.exists_of_assemble_omittable before₁
  obtain ⟨token, size, sortBy, order, name, rfl⟩ := exists_of_assemble_leadingFields leading
  simp only [BoundsRead, List.forall_mem_cons, List.not_mem_nil]
  exact ⟨beforeRead, afterRead, nofun⟩

theorem boundsRead_of_fieldsWithModified {next : ListRequest Key → β} {y : β}
    (assembled : (fieldsWithModified key next).assemble place (fun name => members.lookup name) =
      .ok y) :
    ∃ p, y = next p ∧ p.BoundsRead place members
      [.createdBefore, .createdAfter, .modifiedBefore, .modifiedAfter] := by
  obtain ⟨_, ma, before₃, rfl, maRead⟩ := Fields.exists_of_assemble_omittable assembled
  obtain ⟨_, mb, before₂, rfl, mbRead⟩ := Fields.exists_of_assemble_omittable before₃
  obtain ⟨_, ca, before₁, rfl, caRead⟩ := Fields.exists_of_assemble_omittable before₂
  obtain ⟨_, cb, leading, rfl, cbRead⟩ := Fields.exists_of_assemble_omittable before₁
  obtain ⟨token, size, sortBy, order, name, rfl⟩ := exists_of_assemble_leadingFields leading
  refine ⟨_, rfl, ?_⟩
  simp only [BoundsRead, List.forall_mem_cons, List.not_mem_nil]
  exact ⟨cbRead, caRead, mbRead, maRead, nofun⟩

end ListRequest

namespace Request

variable {members : List (String × Json)}

theorem action_of_ofParameters {action : Action} {j : Json} {r : Request}
    (read : ofParameters action j = .ok r) : r.action = action := by
  cases action <;>
  · obtain ⟨_, -, rfl⟩ := Reader.map_eq_ok_iff.mp read
    rfl

/-- The parameters of a request are its members but the one that names the action. -/
theorem ofParameters_of_read {r : Request} (read : ofJson (.object members) = .ok r) :
    ofParameters r.action (.object (Entries.erase actionMember members)) = .ok r := by
  unfold ofJson at read
  dsimp only at read
  cases named : members.lookup actionMember with
  | none =>
    rw [named] at read
    cases read
  | some j =>
    rw [named] at read
    dsimp only at read
    cases known : actionOf j with
    | error m =>
      rw [known] at read
      cases read
    | ok action =>
      rw [known] at read
      have parameters :
          ofParameters action (.object (Entries.erase actionMember members)) = .ok r := read
      rwa [action_of_ofParameters parameters]

theorem boundsRead_of_listModels {p : ListModels}
    (read : ofJson (.object members) = .ok (.listModels p)) :
    p.BoundsRead .request members [.createdBefore, .createdAfter] := by
  obtain ⟨_, parameters, same⟩ := Reader.map_eq_ok_iff.mp (ofParameters_of_read read)
  cases same
  exact (ListRequest.boundsRead_of_fields (Fields.assemble_of_read parameters)).of_parameters

theorem boundsRead_of_listLifecycleConfigs {p : ListLifecycleConfigs}
    (read : ofJson (.object members) = .ok (.listLifecycleConfigs p)) :
    p.BoundsRead .request members
      [.createdBefore, .createdAfter, .modifiedBefore, .modifiedAfter] := by
  obtain ⟨_, parameters, same⟩ := Reader.map_eq_ok_iff.mp (ofParameters_of_read read)
  cases same
  obtain ⟨_, rfl, reads⟩ :=
    ListRequest.boundsRead_of_fieldsWithModified (Fields.assemble_of_read parameters)
  exact reads.of_parameters

theorem boundsRead_of_listNotebooks {p : ListNotebooks}
    (read : ofJson (.object members) = .ok (.listNotebooks p)) :
    p.toListRequest.BoundsRead .request members
      [.createdBefore, .createdAfter, .modifiedBefore, .modifiedAfter] := by
  obtain ⟨_, parameters, same⟩ := Reader.map_eq_ok_iff.mp (ofParameters_of_read read)
  cases same
  have assembled := Fields.assemble_of_read parameters
  obtain ⟨_, _, before₃, rfl, -⟩ := Fields.exists_of_assemble_omittable assembled
  obtain ⟨_, _, before₂, rfl, -⟩ := Fields.exists_of_assemble_omittable before₃
  obtain ⟨_, _, before₁, rfl, -⟩ := Fields.exists_of_assemble_omittable before₂
  obtain ⟨_, _, leading, rfl, -⟩ := Fields.exists_of_assemble_omittable before₁
  obtain ⟨_, rfl, reads⟩ := ListRequest.boundsRead_of_fieldsWithModified leading
  exact reads.of_parameters

/-- A listing of models may bound their times and ask for nothing else. -/
theorem ofJson_listModelsAfter {x : Binary64} {u : Timestamp}
    (read : Reader.timestamp .request (.float x) = .ok u) :
    ofJson (.object [(actionMember, .string "ListModels"), ("CreationTimeAfter", .float x)]) =
      .ok (.listModels ⟨none, none, none, none, none, ⟨none, some u⟩, .all⟩) := by
  have bound : Reader.optional Reader.timestamp .request (.float x) = .ok (some u) := by
    change (Reader.timestamp _ _).map some = _
    rw [read]
    rfl
  have fit : ListModels.fields.misfit? .request "CreationTimeAfter" (.float x) = none := by
    simp [ListModels.fields, ListRequest.fields, ListRequest.leadingFields, Fields.misfit?,
      Field.omittable, Field.withDefault, bound]
  have assembled : ListModels.fields.assemble .request
      (fun name => [("CreationTimeAfter", Json.float x)].lookup name) =
        .ok ⟨none, none, none, none, none, ⟨none, some u⟩, .all⟩ := by
    simp [ListModels.fields, ListRequest.fields, ListRequest.leadingFields, Fields.assemble,
      Field.omittable, Field.withDefault, bound, bind, Except.bind, Except.map, List.lookup,
      ListRequest.ofMembers]
  have parameters : ListModels.reader .request (.object [("CreationTimeAfter", .float x)]) =
      .ok ⟨none, none, none, none, none, ⟨none, some u⟩, .all⟩ := by
    change ListModels.fields.ofMembers _ _ = _
    simp [Fields.ofMembers, fit, assembled]
  have action : actionOf (.string "ListModels") = .ok .listModels := rfl
  simp [ofJson, actionMember, action, ofParameters, parameters, List.lookup, List.filter, bind,
    Except.bind, Except.map]

end Request

/-! ## Listings -/

namespace Backend

/-- Where a bound of a listing is given as a reported time, it is the instant which that is read as
that counts: the listing shows a record that is held exactly if it is otherwise wanted and its time
lies strictly beyond that instant. So a record is left out by all bounds at its own time exactly if
that is read back as it was. This is so in the first hundred days, and for the multiples of the
512th part of a second; but for no other time of a clock that counts milliseconds from `2 ^ 29`
seconds on. What is read is less than a millisecond off, though, so that records of other
milliseconds are told apart rightly. -/
theorem reported_bound_run (scope : Scope) (settings : Settings)
    (requests : List (Timestamp × Request)) (t : Timestamp) (bound : TimeBound)
    (members : List (String × Json)) (given : members.lookup bound.member = some t.toJson)
    (now : Nat → Timestamp) (sizes : Nat → Option Nat)
    (accepted : ∀ i n, sizes i = some n → 1 ≤ n ∧ n ≤ Settings.greatestListPage) :
    let b := (fresh scope settings).run requests
    (0 ≤ t.nanoseconds → t.nanoseconds < 2 ^ 44 * 10 ^ 9 → t.ReadsBack ∧
      ∀ u : Timestamp, 10 ^ 6 ≤ |u.nanoseconds - t.nanoseconds| →
        (bound.Admits t.reread u ↔ bound.Admits t u)) ∧
    ((∀ side : TimeBound, ¬ side.Admits t.reread t) ↔ t.reread = t) ∧
    (∀ p, Request.ofJson (.object members) = .ok (.listNotebooks p) → ∀ pages,
      Page.Traversal (fun i token page => b.NotebookPage (now i) p (sizes i) token page) 0 none
        pages →
      ∀ r ∈ b.notebooks.records, r.summary ∈ pages.flatMap Page.items ↔
        ListNotebooks.Matches { p with toListRequest := bound.lift p.toListRequest } r ∧
          bound.Admits t.reread (bound.time r)) ∧
    (∀ p, Request.ofJson (.object members) = .ok (.listLifecycleConfigs p) → ∀ pages,
      Page.Traversal (fun i token page => b.LifecycleConfigPage (now i) p (sizes i) token page) 0
        none pages →
      ∀ r ∈ b.lifecycleConfigs.records, r.summary ∈ pages.flatMap Page.items ↔
        (bound.lift p).Matches r ∧ bound.Admits t.reread (bound.time r)) ∧
    (bound ∈ [TimeBound.createdBefore, TimeBound.createdAfter] →
      ∀ p, Request.ofJson (.object members) = .ok (.listModels p) → ∀ pages,
      Page.Traversal (fun i token page => b.ModelPage (now i) p (sizes i) token page) 0 none
        pages →
      ∀ r ∈ b.models.records, r.summary ∈ pages.flatMap Page.items ↔
        (bound.lift p).Matches r ∧ bound.Admits t.reread (bound.time r)) := by
  intro b
  have sound : b.Sound scope settings := sound_run scope settings requests
  have every :
      bound ∈ [TimeBound.createdBefore, .createdAfter, .modifiedBefore, .modifiedAfter] := by
    cases bound <;> decide
  refine ⟨?_, TimeBound.excludes_iff, ?_, ?_, ?_⟩
  · intro since before
    have back := Timestamp.readsBack since before
    exact ⟨back, fun u apart => TimeBound.admits_reread_iff back apart bound⟩
  · intro p read pages visited r stored
    have limited := (Request.boundsRead_of_listNotebooks read).limit?_eq every given
    rw [← TimeBound.notebooks_matches_iff limited r]
    exact (notebookPages_show now accepted p).mem_iff
      ((p.sortBy.getD .creationTime).arranged sound.notebookNames.nodup) sound.notebookNames
      (fun _ _ same => congrArg NotebookSummary.name same) visited stored
  · intro p read pages visited r stored
    have limited := (Request.boundsRead_of_listLifecycleConfigs read).limit?_eq every given
    rw [← TimeBound.matches_iff limited r]
    exact (lifecycleConfigPages_show now accepted p).mem_iff
      ((p.sortBy.getD .creationTime).arranged sound.configNames.nodup) sound.configNames
      (fun _ _ same => congrArg LifecycleConfigSummary.name same) visited stored
  · intro creation p read pages visited r stored
    have limited := (Request.boundsRead_of_listModels read).limit?_eq creation given
    rw [← TimeBound.matches_iff limited r]
    exact (modelPages_show now accepted p).mem_iff
      ((p.sortBy.getD .creationTime).arranged sound.modelNames.nodup) sound.modelNames
      (fun _ _ same => congrArg ModelSummary.name same) visited stored

/-- A model is listed after the very time that is reported for it. -/
theorem reported_bound_run_shownAgain :
    let t := Timestamp.ofMilliseconds 1700000000100
    let b := (fresh ⟨"123456789012", "us-east-1"⟩ .default).run
      [(t, .createModel (.minimal "m" "role"))]
    let members := [(Request.actionMember, .string "ListModels"), ("CreationTimeAfter", t.toJson)]
    t.ReadsBack ∧ t.reread = ⟨1700000000099999905⟩ ∧
    ∃ p pages, Request.ofJson (.object members) = .ok (.listModels p) ∧
      Page.Traversal (fun _ token page => b.ModelPage t p none token page) 0 none pages ∧
      ∃ r ∈ b.models.records, r.creationTime = t ∧ r.summary ∈ pages.flatMap Page.items := by
  intro t b members
  have accepted (i n : Nat) (asked : none = some n) : 1 ≤ n ∧ n ≤ Settings.greatestListPage := by
    cases asked
  obtain ⟨times, -, -, -, models⟩ := reported_bound_run ⟨"123456789012", "us-east-1"⟩ .default
    [(t, .createModel (.minimal "m" "role"))] t .createdAfter members rfl (fun _ => t)
    (fun _ => none) accepted
  obtain ⟨back, -⟩ := times (by decide) (by decide)
  have early : t.reread = ⟨1700000000099999905⟩ := by decide +kernel
  have read := Request.ofJson_listModelsAfter (back.accepted .request)
  obtain ⟨pages, visited⟩ := (modelPages_show (b := b) (fun _ => t) accepted
    ⟨none, none, none, none, none, ⟨none, some t.reread⟩, .all⟩).exists_of_stored
    (SortKey.creationTime.arranged (by decide)) (by decide)
  obtain ⟨r, stored, made⟩ : ∃ r ∈ b.models.records, r.creationTime = t :=
    ⟨_, List.mem_cons_self, rfl⟩
  refine ⟨back, early, _, pages, read, visited, r, stored, made, ?_⟩
  refine (models (by decide) _ read pages visited r stored).mpr ⟨?_, ?_⟩
  · exact ⟨nofun, nofun, nofun, nofun, nofun⟩
  · change t.reread.nanoseconds < r.creationTime.nanoseconds
    rw [early, made]
    decide

end Backend
end NotebookSim
