import NotebookSim.Proofs.ReadTimes
import NotebookSim.Proofs.RestatedBounds
/-!
Listings whose bounds are narrowed. A greater number of seconds is never read as an earlier time, so
a listing after a greater number, or before a smaller one, shows what the first listing showed but
for the records that the new limit leaves out. The others keep their order, and none comes in.
-/
namespace NotebookSim

/-! ## Limits -/

namespace TimeBound

/-- Whether the second limit asks for no less than the first. -/
def Narrows {α : Type} [LE α] (wide narrow : α) : TimeBound → Prop
  | createdBefore | modifiedBefore => narrow ≤ wide
  | createdAfter | modifiedAfter => wide ≤ narrow

instance (limit time : Timestamp) (bound : TimeBound) : Decidable (bound.Admits limit time) :=
  match bound with
  | createdBefore | modifiedBefore => inferInstanceAs (Decidable (time < limit))
  | createdAfter | modifiedAfter => inferInstanceAs (Decidable (limit < time))

variable {bound : TimeBound}

theorem Narrows.ofExactSeconds {p q : Rat} (narrows : bound.Narrows p q) :
    bound.Narrows (Timestamp.ofExactSeconds p) (Timestamp.ofExactSeconds q) := by
  cases bound with
  | createdBefore | modifiedBefore | createdAfter | modifiedAfter =>
    exact Timestamp.ofExactSeconds_mono narrows

theorem Narrows.admits {wide narrow time : Timestamp} (narrows : bound.Narrows wide narrow)
    (admits : bound.Admits narrow time) : bound.Admits wide time := by
  cases bound with
  | createdBefore | modifiedBefore => exact Int.lt_of_lt_of_le admits narrows
  | createdAfter | modifiedAfter => exact Int.lt_of_le_of_lt narrows admits

/-- What a narrower limit asks for comes on top of all that was asked for before. -/
theorem withLimit_matches_iff {Key R : Type} [Record R] {p : ListRequest Key}
    {wide narrow : Timestamp} (limited : bound.limit? p = some wide)
    (narrows : bound.Narrows wide narrow) (r : R) :
    (bound.withLimit narrow p).Matches r ↔ p.Matches r ∧ bound.Admits narrow (bound.time r) := by
  rw [matches_iff (limit?_withLimit narrow p bound), matches_iff limited, lift_withLimit]
  constructor
  · rintro ⟨others, admits⟩
    exact ⟨⟨others, narrows.admits admits⟩, admits⟩
  · rintro ⟨⟨others, -⟩, admits⟩
    exact ⟨others, admits⟩

theorem withLimit_notebooks_matches_iff {p : ListNotebooks} {wide narrow : Timestamp}
    (limited : bound.limit? p.toListRequest = some wide) (narrows : bound.Narrows wide narrow)
    (r : NotebookInstance) :
    (p.withLimit bound narrow).Matches r ↔ p.Matches r ∧ bound.Admits narrow (bound.time r) := by
  have base := withLimit_matches_iff limited narrows r
  constructor
  · intro h
    obtain ⟨others, admits⟩ := base.mp h.toMatches
    exact ⟨{ h with toMatches := others }, admits⟩
  · rintro ⟨h, admits⟩
    exact { h with toMatches := base.mpr ⟨h.toMatches, admits⟩ }

end TimeBound

/-! ## Listings -/

namespace Page

variable {R S : Type} {answers : Timestamp → Option Nat → Option String → Page S → Prop}

/-- What a client sees who goes from page to page, whenever the pages are asked for and whatever
sizes of them. -/
def Lists (answers : Timestamp → Option Nat → Option String → Page S → Prop) (items : List S) :
    Prop :=
  ∀ (now : Nat → Timestamp) (sizes : Nat → Option Nat),
    (∀ i n, sizes i = some n → 1 ≤ n ∧ n ≤ Settings.greatestListPage) →
    Show (fun i token page => answers (now i) (sizes i) token page) items

/-- The first question lists some of the records held, and the second one those of them that are
kept, in the same order; both by their summaries. -/
def Narrowed (held : List R) (summary : R → S)
    (first second : Timestamp → Option Nat → Option String → Page S → Prop) (kept : R → Prop)
    [DecidablePred kept] : Prop :=
  ∃ listed : List R, (∀ r ∈ listed, r ∈ held) ∧ Lists first (listed.map summary) ∧
    Lists second ((listed.filter kept).map summary)

theorem Narrowed.of_arranged {summary : R → S}
    {first second : Timestamp → Option Nat → Option String → Page S → Prop} {Le : R → R → Prop}
    {wanted also kept : R → Prop} [DecidablePred wanted] [DecidablePred also]
    [DecidablePred kept] {held listed part : List R} {order : SortOrder} (distinct : held.Nodup)
    (whole : Arranged Le wanted held listed) (narrowed : Arranged Le also held part)
    (iff : ∀ r, also r ↔ wanted r ∧ kept r)
    (lists : Lists first ((order.apply listed).map summary))
    (lists' : Lists second ((order.apply part).map summary)) :
    Narrowed held summary first second kept := by
  refine ⟨order.apply listed, fun r shown => ?_, lists, ?_⟩
  · exact ((whole.mem_iff r).mp ((SortOrder.mem_apply _).mp shown)).1
  · -- Ties stand in the order of insertion in both, so one arrangement is a filter of the other.
    rwa [SortOrder.filter_apply, ← whole.eq_filter distinct narrowed iff]

end Page

namespace Backend

variable {b : Backend} {bound : TimeBound} {wide narrow : Timestamp}

theorem notebookPages_narrowed (distinct : b.notebooks.records.Nodup) {p : ListNotebooks}
    (limited : bound.limit? p.toListRequest = some wide) (narrows : bound.Narrows wide narrow) :
    Page.Narrowed b.notebooks.records NotebookInstance.summary
      (fun now size => b.NotebookPage now p size)
      (fun now size => b.NotebookPage now (p.withLimit bound narrow) size)
      fun r => bound.Admits narrow (bound.time r) := by
  refine .of_arranged distinct ((p.sortBy.getD .creationTime).arranged distinct)
    ((p.sortBy.getD .creationTime).arranged distinct)
    (TimeBound.withLimit_notebooks_matches_iff limited narrows)
    (fun now sizes accepted => notebookPages_show now accepted p) fun now sizes accepted => ?_
  have shows := notebookPages_show (b := b) now accepted (p.withLimit bound narrow)
  unfold ListNotebooks.withLimit at shows ⊢
  rwa [TimeBound.sortBy_withLimit, TimeBound.sortOrder_withLimit] at shows

theorem lifecycleConfigPages_narrowed (distinct : b.lifecycleConfigs.records.Nodup)
    {p : ListLifecycleConfigs} (limited : bound.limit? p = some wide)
    (narrows : bound.Narrows wide narrow) :
    Page.Narrowed b.lifecycleConfigs.records LifecycleConfig.summary
      (fun now size => b.LifecycleConfigPage now p size)
      (fun now size => b.LifecycleConfigPage now (bound.withLimit narrow p) size)
      fun r => bound.Admits narrow (bound.time r) := by
  refine .of_arranged distinct ((p.sortBy.getD .creationTime).arranged distinct)
    ((p.sortBy.getD .creationTime).arranged distinct)
    (TimeBound.withLimit_matches_iff limited narrows)
    (fun now sizes accepted => lifecycleConfigPages_show now accepted p)
    fun now sizes accepted => ?_
  have shows := lifecycleConfigPages_show (b := b) now accepted (bound.withLimit narrow p)
  rwa [TimeBound.sortBy_withLimit, TimeBound.sortOrder_withLimit] at shows

theorem modelPages_narrowed (distinct : b.models.records.Nodup) {p : ListModels}
    (limited : bound.limit? p = some wide) (narrows : bound.Narrows wide narrow) :
    Page.Narrowed b.models.records Model.summary
      (fun now size => b.ModelPage now p size)
      (fun now size => b.ModelPage now (bound.withLimit narrow p) size)
      fun r => bound.Admits narrow (bound.time r) := by
  refine .of_arranged distinct ((p.sortBy.getD .creationTime).arranged distinct)
    ((p.sortBy.getD .creationTime).arranged distinct)
    (TimeBound.withLimit_matches_iff limited narrows)
    (fun now sizes accepted => modelPages_show now accepted p) fun now sizes accepted => ?_
  have shows := modelPages_show (b := b) now accepted (bound.withLimit narrow p)
  rwa [TimeBound.sortBy_withLimit, TimeBound.sortOrder_withLimit] at shows

end Backend

/-! ## Numbers of seconds -/

theorem Timestamp.secondsLimit_eq : (secondsLimit : Rat) = 2 ^ 63 := by
  norm_num [secondsLimit, Nat.shiftLeft_eq]

theorem Timestamp.ofSeconds?_of_lt {x : Binary64} (near : x.toRat < 2 ^ 63) :
    ofSeconds? x = some (ofExactSeconds x.toRat) :=
  if_pos (secondsLimit_eq ▸ near)

theorem Timestamp.eq_of_ofSeconds? {x : Binary64} {t : Timestamp} (read : ofSeconds? x = some t) :
    ofExactSeconds x.toRat = t := by
  unfold ofSeconds? at read
  split at read
  · exact Option.some.inj read
  · cases read

theorem Reader.timestamp_of_lt {j : Json} {x : Binary64} (read : number .request j = .ok x)
    (near : x.toRat < 2 ^ 63) : timestamp .request j = .ok (.ofExactSeconds x.toRat) := by
  rw [timestamp_of_number read, if_pos (Timestamp.secondsLimit_eq ▸ near)]

/-- Whoever gives `j` for the bound may give `j'` instead and all else as before; the listing then
loses the records that the limit does not admit, and no other. -/
def TimeBound.OnlyRemoves {P R S : Type} [Record R] (bound : TimeBound) (j j' : Json)
    (limit : Timestamp) (action : Action) (make : P → Request) (held : List R) (summary : R → S)
    (pages : P → Timestamp → Option Nat → Option String → Page S → Prop) : Prop :=
  ∀ request p, Request.ofJson request = .ok (make p) →
    Request.parameter? bound.member request = some j →
    let again := Request.restate action bound.member j' request
    (∀ name, Request.parameter? name again =
      if name = bound.member then some j' else Request.parameter? name request) ∧
    ∃ p', Request.ofJson again = .ok (make p') ∧
      Page.Narrowed held summary (pages p) (pages p') fun r => bound.Admits limit (bound.time r)

namespace Backend

/-- A number of seconds below `2 ^ 63` is taken for the instant nearest to it, and a greater one
never for an earlier instant; a greater integer is never taken for a smaller number. So a list
request of any kind that asks for what is after a greater number, or before a smaller one, is
accepted as before, and its whole listing is the one before less the records that the new limit
excludes. -/
theorem narrowed_bound_run (scope : Scope) (settings : Settings)
    (requests : List (Timestamp × Request)) :
    let b := (fresh scope settings).run requests
    (∀ x : Binary64, x.toRat < 2 ^ 63 →
      ∃ t, Timestamp.ofSeconds? x = some t ∧ t.IsNearest x.toRat) ∧
    (∀ (x y : Binary64) (t u : Timestamp), x.toRat ≤ y.toRat →
      Timestamp.ofSeconds? x = some t → Timestamp.ofSeconds? y = some u → t ≤ u) ∧
    (∀ i i' : Int, i ≤ i' → (Binary64.ofInt i).toRat ≤ (Binary64.ofInt i').toRat) ∧
    ∀ (bound : TimeBound) (j j' : Json) (x x' : Binary64),
      Reader.number .request j = .ok x → Reader.number .request j' = .ok x' →
      x.toRat < 2 ^ 63 → x'.toRat < 2 ^ 63 → bound.Narrows x.toRat x'.toRat →
      ∃ limit, Timestamp.ofSeconds? x' = some limit ∧
        bound.OnlyRemoves j j' limit .listNotebookInstances .listNotebooks b.notebooks.records
          NotebookInstance.summary (fun p now size => b.NotebookPage now p size) ∧
        bound.OnlyRemoves j j' limit .listLifecycleConfigs .listLifecycleConfigs
          b.lifecycleConfigs.records LifecycleConfig.summary
          (fun p now size => b.LifecycleConfigPage now p size) ∧
        (bound ∈ [TimeBound.createdBefore, .createdAfter] →
          bound.OnlyRemoves j j' limit .listModels .listModels b.models.records Model.summary
            fun p now size => b.ModelPage now p size) := by
  intro b
  have sound : b.Sound scope settings := sound_run scope settings requests
  refine ⟨?_, ?_, ?_, ?_⟩
  · intro x near
    exact ⟨_, Timestamp.ofSeconds?_of_lt near, Timestamp.isNearest_ofExactSeconds _⟩
  · intro x y t u le readX readY
    rw [← Timestamp.eq_of_ofSeconds? readX, ← Timestamp.eq_of_ofSeconds? readY]
    exact Timestamp.ofExactSeconds_mono le
  · intro i i' le
    exact Binary64.toRat_nearest_mono (Int.cast_le.mpr le)
  · intro bound j j' x x' number number' near near' narrows
    have read := Reader.timestamp_of_lt number near
    have read' := Reader.timestamp_of_lt number' near'
    have limits := narrows.ofExactSeconds
    refine ⟨_, Timestamp.ofSeconds?_of_lt near', ?_, ?_, ?_⟩
    · intro request p accepted given
      obtain ⟨limited, restated⟩ := Request.restate_listNotebooks given read read' accepted
      exact ⟨Request.parameter?_restate_bound accepted given, _, restated,
        notebookPages_narrowed sound.notebookNames.nodup limited limits⟩
    · intro request p accepted given
      obtain ⟨limited, restated⟩ := Request.restate_listLifecycleConfigs given read read' accepted
      exact ⟨Request.parameter?_restate_bound accepted given, _, restated,
        lifecycleConfigPages_narrowed sound.configNames.nodup limited limits⟩
    · intro creation request p accepted given
      obtain ⟨limited, restated⟩ :=
        Request.restate_listModels given read read' creation accepted
      exact ⟨Request.parameter?_restate_bound accepted given, _, restated,
        modelPages_narrowed sound.modelNames.nodup limited limits⟩

/-- Two models are made a nanosecond apart. The number half way between them is taken for the even
one of the two instants, so that a listing after it has the later model. -/
theorem narrowed_bound_run_tie :
    let b := (fresh ⟨"123456789012", "us-east-1"⟩ .default).run
      [(⟨976562⟩, .createModel (.minimal "early" "role")),
        (⟨976563⟩, .createModel (.minimal "late" "role"))]
    let x : Binary64 := ⟨false, 2 ^ 52, -63⟩
    let x' : Binary64 := ⟨false, 2 ^ 52, -62⟩
    let after (x : Binary64) : Json :=
      .object [(Request.actionMember, .string "ListModels"), ("CreationTimeAfter", .float x)]
    (x.toRat ≤ x'.toRat ∧ x'.toRat * 10 ^ 9 = 976562 + 1 / 2) ∧
    Timestamp.ofSeconds? x' = some ⟨976562⟩ ∧ Timestamp.IsNearest x'.toRat ⟨976562⟩ ∧
    ∃ p p', Request.ofJson (after x) = .ok (.listModels p) ∧
      Request.ofJson (after x') = .ok (.listModels p') ∧
      Page.Narrowed b.models.records Model.summary (fun now size => b.ModelPage now p size)
        (fun now size => b.ModelPage now p' size)
        (fun r => TimeBound.createdAfter.Admits ⟨976562⟩ r.creationTime) ∧
      (b.models.records.filter (p.Matches ·)).map Record.name = ["early", "late"] ∧
      (b.models.records.filter (p'.Matches ·)).map Record.name = ["late"] := by
  intro b x x' after
  have value : x.toRat = 1 / 2 ^ 11 := by norm_num [x, Binary64.toRat]
  have value' : x'.toRat = 1 / 2 ^ 10 := by norm_num [x', Binary64.toRat]
  have near : x.toRat < 2 ^ 63 := by norm_num [value]
  have near' : x'.toRat < 2 ^ 63 := by norm_num [value']
  have le : x.toRat ≤ x'.toRat := by norm_num [value, value']
  obtain ⟨nearest, -, -, narrowed⟩ := narrowed_bound_run ⟨"123456789012", "us-east-1"⟩ .default
    [(⟨976562⟩, .createModel (.minimal "early" "role")),
      (⟨976563⟩, .createModel (.minimal "late" "role"))]
  obtain ⟨t, taken, isNearest⟩ := nearest x' near'
  have even : Timestamp.ofSeconds? x' = some ⟨976562⟩ := by decide +kernel
  cases taken.symm.trans even
  obtain ⟨limit, same, -, -, models⟩ := narrowed .createdAfter (.float x) (.float x') x x' rfl rfl
    near near' le
  cases same.symm.trans even
  have first : Timestamp.ofExactSeconds x.toRat = ⟨488281⟩ := by decide +kernel
  have read : Reader.timestamp .request (.float x) = .ok ⟨488281⟩ := by
    rw [Reader.timestamp_of_lt rfl near, first]
  have accepted := Request.ofJson_listModelsAfter read
  obtain ⟨-, p', accepted', narrowed⟩ := models (by decide) _ _ accepted rfl
  refine ⟨⟨le, by norm_num [value']⟩, even, isNearest, _, p', accepted, accepted', narrowed, ?_, ?_⟩
  · decide +kernel
  · have read' : Reader.timestamp .request (.float x') = .ok ⟨976562⟩ := by
      rw [Reader.timestamp_of_lt rfl near', Timestamp.eq_of_ofSeconds? even]
    cases (Request.ofJson_listModelsAfter read').symm.trans accepted'
    decide +kernel

end Backend
end NotebookSim
