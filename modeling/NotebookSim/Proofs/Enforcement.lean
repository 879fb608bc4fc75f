import NotebookSim.CommandLine.Execution
import NotebookSim.Proofs.Configuration
import NotebookSim.Proofs.Listing
import NotebookSim.Proofs.Status
import NotebookSim.Proofs.Trace
import NotebookSim.Proofs.WellFormed
/-!
A configuration that passes validation is enforced as it is written. The backends of a registry
share its settings for good, whatever is asked of them; and settings within the limits of the
configuration are within the limits of every operation, so that nothing is clamped and no value is
replaced by another.
-/
namespace NotebookSim

/-! ## The backends of a registry -/

namespace Registry

/-- What becomes of a registry. A scope is addressed, which creates its backend unless it has one,
and the backend carries out requests; or a scope is reset. -/
inductive Reaches (start : Registry) : Registry → Prop
  | refl : Reaches start start
  | address {registry : Registry} (reached : Reaches start registry) (scope : Scope)
      (requests : List (Timestamp × Request)) :
      Reaches start (registry.put scope ((registry.backend scope).run requests))
  | reset {registry : Registry} (reached : Reaches start registry) (scope : Scope) :
      Reaches start (registry.reset scope)

/-- Every backend is that of its scope, and all of them share the settings. -/
structure Sound (settings : Settings) (registry : Registry) : Prop where
  settings_eq : registry.settings = settings
  backends : ∀ scope b, registry.find? scope = some b → b.Sound scope settings

theorem sound_empty (settings : Settings) : (empty settings).Sound settings where
  settings_eq := rfl
  backends := nofun

namespace Sound

variable {settings : Settings} {registry : Registry} (sound : registry.Sound settings)
include sound

theorem backend (scope : Scope) : (registry.backend scope).Sound scope settings := by
  unfold Registry.backend
  cases found : registry.find? scope with
  | none => exact sound.settings_eq ▸ Backend.sound_fresh scope registry.settings
  | some b => exact sound.backends scope b found

theorem put {scope : Scope} {b : Backend} (new : b.Sound scope settings) :
    (registry.put scope b).Sound settings where
  settings_eq := sound.settings_eq
  backends := by
    intro other b' found
    rw [find?_put] at found
    split at found
    · next here =>
      cases here
      cases found
      exact new
    · exact sound.backends other b' found

theorem reset (scope : Scope) : (registry.reset scope).Sound settings where
  settings_eq := sound.settings_eq
  backends := by
    intro other b found
    rw [find?_reset] at found
    split at found
    · cases found
    · exact sound.backends other b found

end Sound

theorem Reaches.sound {settings : Settings} {start registry : Registry}
    (reached : start.Reaches registry) (sound : start.Sound settings) :
    registry.Sound settings := by
  induction reached with
  | refl => exact sound
  | address _ scope requests ih => exact ih.put ((ih.backend scope).run requests)
  | reset _ scope ih => exact ih.reset scope

end Registry

namespace Simulator

variable {start : Registry} {sim next final : Simulator} {fallback : Scope}

theorem reaches_touch (reached : start.Reaches sim.registry) (scope : Scope) :
    start.Reaches (sim.touch scope).registry := by
  rw [registry_touch]
  exact reached.address scope []

theorem reaches_perform (reached : start.Reaches sim.registry) {event : Event} {sight : Sight}
    (performed : sim.perform fallback event = .ok (sight, next)) :
    start.Reaches next.registry := by
  cases performs_of_perform performed with
  | reject => exact reached
  | touch scope => exact reaches_touch reached scope
  | dispatch now json scope r =>
    -- the scope is addressed before its backend is given the request
    rw [registry_dispatch, ← backend_touch sim scope]
    exact (reaches_touch reached scope).address scope [(now, r)]
  | reset scope =>
    unfold Simulator.reset
    cases sim.registry.find? scope with
    | none => exact reached
    | some b => exact reached.reset scope

theorem reaches_trace (reached : start.Reaches sim.registry) {events : List Event}
    {seen : List (Event × Sight)}
    (completed : sim.trace fallback events = .ok (seen, final)) :
    start.Reaches final.registry := by
  induction events generalizing sim seen with
  | nil =>
    cases completed
    exact reached
  | cons event events ih =>
    obtain ⟨sight, next, rest, performed, onward, rfl⟩ := trace_cons completed
    exact ih (reaches_perform reached performed) onward

end Simulator

/-! ## Limits -/

/-- Settings that every operation can take as they are. -/
structure Settings.Within (settings : Settings) : Prop where
  list : 1 ≤ settings.listMaxResults ∧ settings.listMaxResults ≤ greatestListPage
  tags : 1 ≤ settings.tagPageSize ∧ settings.tagPageSize ≤ greatestTagPage
  volume : ServiceError.leastVolumeSize ≤ settings.defaultVolumeSizeGb ∧
    settings.defaultVolumeSizeGb ≤ ServiceError.greatestVolumeSize
  listed : settings.instanceTypes.isEmpty = false

/-- The configuration and the service each say how small a volume may be, and say the same. -/
theorem ConfigKey.leastVolumeSize_eq : leastVolumeSize = ServiceError.leastVolumeSize := rfl

theorem Config.within_of_validate {config : Config} (valid : config.validate = .ok ()) :
    config.settings.Within := by
  have holds := config.validate_eq_ok_iff.mp valid
  have volume := of_decide_eq_true (holds .defaultVolumeSizeGb)
  rw [ConfigKey.leastVolumeSize_eq] at volume
  exact {
    list := of_decide_eq_true (holds .listMaxResults)
    tags := of_decide_eq_true (holds .tagPageSize)
    volume := volume
    listed := by simpa [ConfigKey.holds] using holds .instanceTypes }

/-- No value is replaced by another. -/
theorem Settings.Within.enforced {settings : Settings} (within : settings.Within) :
    settings.enforced = settings := by
  simp [Settings.enforced, within.listed]

namespace Page

/-- Nothing is clamped. -/
theorem resolveSize_of_within {requested : Option Nat} {configured upper : Nat}
    {resolvable : IsResolvable requested upper} (unasked : requested = none)
    (within : 1 ≤ configured ∧ configured ≤ upper) :
    resolveSize requested configured upper resolvable = .ok ⟨configured, within⟩ := by
  subst unasked
  simp only [resolveSize, Nat.min_eq_left within.2, Nat.max_eq_right within.1]

/-- At every token that can be read the answer is a page of `size` items, or of all the items that
remain of `total` if these are fewer. -/
def Fills {α : Type} (size total : Nat) (token : Option String) (answers : Page α → Prop) : Prop :=
  ∀ offset, start token = .ok offset →
    ∃ page, answers page ∧ page.items.length = min size (total - offset)

theorem fills_of_cut {α : Type} {items : List α} {size : Nat} {token : Option String}
    {answers : Page α → Prop}
    (cuts : ∀ page, answers page ↔ cut items size token = .ok page) :
    Fills size items.length token answers := by
  intro offset starts
  refine ⟨_, (cuts _).mpr (cut_eq starts items size), ?_⟩
  rw [List.length_take, List.length_drop]

end Page

/-! ## What a backend enforces -/

namespace Backend

/-- A backend that behaves by the settings as they stand. An instance whose volume is not asked for
has the default one, which is never refused; exactly the listed types pass; and pages whose size is
not asked for are as large as the settings say. -/
structure Enforces (settings : Settings) (b : Backend) : Prop where
  settings_eq : b.settings = settings
  accepts : ∀ now (p : CreateNotebook), p.volumeSizeInGb = none →
    ((∃ response, (b.execute now (.createNotebook p)).result = .ok response) ↔
      p.instanceType ∈ settings.instanceTypes ∧ (∀ tag ∈ p.tags, tag.Fits) ∧
        b.notebooks.find? p.name = none)
  volumeFits : ∀ now (p : CreateNotebook), p.volumeSizeInGb = none →
    ∀ found, (b.execute now (.createNotebook p)).result ≠ .error (.volumeSize found)
  volumeStored : ∀ now (p : CreateNotebook), p.volumeSizeInGb = none →
    ∀ response, (b.execute now (.createNotebook p)).result = .ok response →
      ∃ r, (b.after now (.createNotebook p)).notebooks.find? p.name = some r ∧
        r.volumeSizeInGb = settings.defaultVolumeSizeGb
  instanceType : ∀ now (p : CreateNotebook),
    (∃ found allowed, (b.execute now (.createNotebook p)).result =
      .error (.instanceType found allowed)) ↔ p.instanceType ∉ settings.instanceTypes
  notebookPages : ∀ now (p : ListNotebooks), p.maxResults = none →
    Page.Fills settings.listMaxResults (b.notebooks.records.filter p.Matches).length p.nextToken
      fun page => b.Answers now (.listNotebooks p) (.notebooks page)
  lifecycleConfigPages : ∀ now (p : ListLifecycleConfigs), p.maxResults = none →
    Page.Fills settings.listMaxResults (b.lifecycleConfigs.records.filter (p.Matches ·)).length
      p.nextToken fun page => b.Answers now (.listLifecycleConfigs p) (.lifecycleConfigs page)
  modelPages : ∀ now (p : ListModels), p.maxResults = none →
    Page.Fills settings.listMaxResults (b.models.records.filter (p.Matches ·)).length p.nextToken
      fun page => b.Answers now (.listModels p) (.models page)
  tagPages : ∀ now (p : ListTags), p.maxResults = none →
    Page.Fills settings.tagPageSize (b.tags.list p.resourceArn).length p.nextToken
      fun page => b.Answers now (.listTags p) (.tags page)

variable {b : Backend}

theorem result_createNotebook (b : Backend) (now : Timestamp) (p : CreateNotebook) :
    (b.execute now (.createNotebook p)).result =
      match b.checkNotebook p, b.notebooks.find? p.name with
      | .error e, _ => .error e
      | .ok _, some _ => .error (.duplicateNotebook (b.arn .notebookInstance p.name))
      | .ok _, none => .ok (.created .notebookInstance (b.arn .notebookInstance p.name)) := by
  simp only [execute, Request.operation, Operation.run_createNotebook]
  cases b.checkNotebook p with
  | error e => rfl
  | ok _ => cases b.notebooks.find? p.name <;> rfl

theorem refuses_of_refused {now : Timestamp} {p : CreateNotebook} {e : ServiceError}
    (refused : (b.execute now (.createNotebook p)).result = .error e) : b.Refuses p e := by
  rw [result_createNotebook] at refused
  split at refused
  · next checked =>
    cases refused
    exact refuses_of_checkNotebook checked
  · cases refused
    exact .duplicate _
  · cases refused

theorem instanceType_refused_iff (b : Backend) (now : Timestamp) (p : CreateNotebook) :
    (∃ found allowed, (b.execute now (.createNotebook p)).result =
      .error (.instanceType found allowed)) ↔ p.instanceType ∉ b.settings.instanceTypes := by
  constructor
  · rintro ⟨found, allowed, refused⟩
    cases refuses_of_refused refused with
    | type unlisted => exact unlisted
  · intro unlisted
    exact ⟨_, _, by rw [result_createNotebook, checkNotebook_of_unlisted unlisted]⟩

theorem Step.stored {b' : Backend} {now : Timestamp} {p : CreateNotebook}
    (h : Step b now (.createNotebook p) b') :
    b'.notebooks.find? p.name = some (b.newNotebook now p) := by
  cases h with
  | lookup _ looks => cases looks
  | createNotebook _ _ absent =>
    exact (Store.find?_push b.notebooks (b.newNotebook now p) p.name absent).trans (if_pos rfl)

theorem length_notebooks (p : ListNotebooks) (size : Nat) :
    (((p.query size).listing p.selects (p.sortBy.getD .creationTime).sort
      b.notebooks.records).map NotebookInstance.summary).length =
      (b.notebooks.records.filter p.Matches).length := by
  rw [List.length_map, Query.length_listing (p.sortBy.getD .creationTime).sort_perm,
    p.filter_selects]

theorem length_records {Key R S : Type} [Record R] (p : ListRequest Key) (size : Nat)
    {sort : List R → List R} (permutes : ∀ rs, (sort rs).Perm rs) (held : List R)
    (summary : R → S) :
    (((p.query size).listing (fun _ => true) sort held).map summary).length =
      (held.filter (p.Matches ·)).length := by
  rw [List.length_map, Query.length_listing permutes, p.filter_selects]

section Within

variable (within : b.settings.Within)
include within

theorem volumeOf_within {p : CreateNotebook} (unasked : p.volumeSizeInGb = none) :
    ServiceError.leastVolumeSize ≤ b.volumeOf p ∧
      b.volumeOf p ≤ ServiceError.greatestVolumeSize := by
  rw [volumeOf, unasked]
  exact within.volume

theorem accepts_iff (now : Timestamp) {p : CreateNotebook} (unasked : p.volumeSizeInGb = none) :
    (∃ response, (b.execute now (.createNotebook p)).result = .ok response) ↔
      p.instanceType ∈ b.settings.instanceTypes ∧ (∀ tag ∈ p.tags, tag.Fits) ∧
        b.notebooks.find? p.name = none := by
  have fits : (b.newNotebook now p).Fits b.settings ↔ p.instanceType ∈ b.settings.instanceTypes :=
    ⟨fun fits => fits.instanceType, fun listed => ⟨listed, volumeOf_within within unasked⟩⟩
  rw [← and_assoc, ← fits, ← b.checkNotebook_eq_ok_iff now, result_createNotebook]
  cases b.checkNotebook p with
  | error e => simp
  | ok _ => cases b.notebooks.find? p.name <;> simp

theorem volume_accepted (now : Timestamp) {p : CreateNotebook} (unasked : p.volumeSizeInGb = none)
    (found : Nat) : (b.execute now (.createNotebook p)).result ≠ .error (.volumeSize found) := by
  intro refused
  cases refuses_of_refused refused with
  | volume outside =>
    obtain ⟨least, greatest⟩ := volumeOf_within within unasked
    omega

theorem pageSize_of_within {requested : Option Nat} (unasked : requested = none) :
    b.pageSize requested = .ok ⟨b.settings.listMaxResults, within.list⟩ :=
  Page.resolveSize_of_within unasked within.list

theorem enforces_of_within : b.Enforces b.settings where
  settings_eq := rfl
  accepts now p unasked := accepts_iff within now unasked
  volumeFits now p unasked := volume_accepted within now unasked
  volumeStored := by
    intro now p unasked response accepted
    refine ⟨_, (step_of_accepted accepted).stored, ?_⟩
    exact congrArg (·.getD b.settings.defaultVolumeSizeGb) unasked
  instanceType := b.instanceType_refused_iff
  notebookPages := by
    intro now p unasked
    rw [← length_notebooks p b.settings.listMaxResults]
    exact Page.fills_of_cut fun page =>
      answers_listNotebooks.trans (exists_ok_iff (pageSize_of_within within unasked) _)
  lifecycleConfigPages := by
    intro now p unasked
    rw [← length_records p b.settings.listMaxResults (p.sortBy.getD .creationTime).sort_perm _
      LifecycleConfig.summary]
    exact Page.fills_of_cut fun page =>
      answers_listLifecycleConfigs.trans (exists_ok_iff (pageSize_of_within within unasked) _)
  modelPages := by
    intro now p unasked
    rw [← length_records p b.settings.listMaxResults (p.sortBy.getD .creationTime).sort_perm _
      Model.summary]
    exact Page.fills_of_cut fun page =>
      answers_listModels.trans (exists_ok_iff (pageSize_of_within within unasked) _)
  tagPages := by
    intro now p unasked
    exact Page.fills_of_cut fun page => answers_listTags.trans
      (exists_ok_iff (Page.resolveSize_of_within unasked within.tags) _)

end Within
end Backend

/-- What a valid configuration says is what every backend of a registry made from it enforces,
whatever was done with the registry and through whichever requests; the instance types are those
that the command prints. -/
theorem Config.enforces_of_validate (config : Config) (valid : config.validate = .ok ()) :
    (∀ registry, (Simulator.ofSettings config.settings).registry.Reaches registry →
      ∀ scope, (registry.backend scope).Enforces config.settings) ∧
    (∀ (fallback : Scope) (events : List Simulator.Event)
        (seen : List (Simulator.Event × Simulator.Sight)) (final : Simulator),
      (Simulator.ofSettings config.settings).trace fallback events = .ok (seen, final) →
      ∀ scope, (final.registry.backend scope).Enforces config.settings) ∧
    ∀ (around : Surroundings) (i : Invocation), i.command = .instanceTypes →
      Config.loadOrDefault around.files around.env i.configPath = .ok config →
      CommandLine.execute around i =
        .ok (.success (.instanceTypes config.settings.instanceTypes)) := by
  have within := within_of_validate valid
  have start : (Simulator.ofSettings config.settings).registry.Sound config.settings := by
    unfold Simulator.ofSettings
    rw [within.enforced]
    exact Registry.sound_empty config.settings
  have enforces (registry : Registry)
      (reached : (Simulator.ofSettings config.settings).registry.Reaches registry) (scope : Scope) :
      (registry.backend scope).Enforces config.settings := by
    have same := ((reached.sound start).backend scope).settings_eq
    have enforces := Backend.enforces_of_within (same.symm ▸ within)
    rwa [same] at enforces
  refine ⟨enforces, ?_, ?_⟩
  · intro fallback events seen final completed
    exact enforces final.registry (Simulator.reaches_trace .refl completed)
  · intro around i asked loaded
    simp only [CommandLine.execute, asked, loaded]

namespace Config

/-- Every number at one of its limits, and a single type. -/
def tight : Config :=
  ⟨⟨"info", "json"⟩, Simulator.home, ⟨1, 50, 16384, ["ml.t2.medium"]⟩⟩

def tightText : String :=
  "[sagemaker]\nlist_max_results = 1\ntag_page_size = 50\n" ++
    "default_volume_size_gb = 16384\ninstance_types = [\"ml.t2.medium\"]"

def besideTight : Surroundings where
  files _ := .ok tightText
  env _ := none
  clock _ := .epoch

theorem loadOrDefault_tight (path : String) :
    loadOrDefault besideTight.files besideTight.env path = .ok tight := by
  have readable : besideTight.files path = .ok tightText := rfl
  have read : parse tightText = .ok tight := by cbv
  have obeys : tight.Obeys := tight.validate_eq_ok_iff.mp rfl
  have kept : tight.override besideTight.env = tight := rfl
  unfold loadOrDefault
  rw [load_of_obeys readable read obeys, kept, checked_of_obeys obeys]

/-- Of three models the page has one; a new instance gets the largest volume. -/
theorem enforces_of_validate_tight :
    let start := Simulator.ofSettings tight.settings
    let b := (start.registry.put Simulator.home
      ((start.registry.backend Simulator.home).run Backend.threeModels)).backend Simulator.home
    let p := CreateNotebook.minimal "n" "ml.t2.medium" "role"
    let q := CreateNotebook.minimal "n" "ml.c5.large" "role"
    let all : ListModels := ⟨none, none, none, none, none, .all, .all⟩
    (∃ page, b.Answers ⟨4⟩ (.listModels all) (.models page) ∧ page.items.length = 1) ∧
    (∃ r, (b.after ⟨4⟩ (.createNotebook p)).notebooks.find? "n" = some r ∧
      r.volumeSizeInGb = 16384) ∧
    (∃ seen final, start.trace Simulator.home [.touch Simulator.home] = .ok (seen, final) ∧
      ∃ found allowed, ((final.registry.backend Simulator.home).execute ⟨4⟩
        (.createNotebook q)).result = .error (.instanceType found allowed)) ∧
    CommandLine.execute besideTight ⟨.instanceTypes, "sagesim.toml", none, .text⟩ =
      .ok (.success (.instanceTypes ["ml.t2.medium"])) := by
  intro start b p q all
  obtain ⟨enforces, traced, prints⟩ := enforces_of_validate tight rfl
  have enforced := enforces _ (.address .refl Simulator.home Backend.threeModels) Simulator.home
  refine ⟨?_, ?_, ⟨_, _, rfl, ?_⟩, prints _ _ rfl (loadOrDefault_tight _)⟩
  · exact enforced.modelPages ⟨4⟩ all rfl 0 rfl
  · obtain ⟨response, accepted⟩ := (enforced.accepts ⟨4⟩ p rfl).mpr ⟨by decide, nofun, rfl⟩
    exact enforced.volumeStored ⟨4⟩ p rfl response accepted
  · exact ((traced Simulator.home [.touch Simulator.home] _ _ rfl Simulator.home).instanceType
      ⟨4⟩ q).mpr (by decide)

end Config
end NotebookSim
