import NotebookSim.Proofs.Isolation
import NotebookSim.Proofs.Metrics
/-!
The metrics account for the run. Counters are bumped at several places on the way of a request,
some before the step that may refuse it; together they count exactly what was asked, what was
refused and what is stored.

An act is an event with what was seen of it. What an act counts can be read off it, so a counter
holds the number of its occurrences in the whole run.
-/
namespace NotebookSim

/-! ## What is stored -/

namespace Backend

/-- The number of records of a kind. -/
def stored (kind : ResourceKind) (b : Backend) : Nat :=
  match kind with
  | .notebookInstance => b.notebooks.size
  | .lifecycleConfig => b.lifecycleConfigs.size
  | .model => b.models.size

theorem stored_fresh (kind : ResourceKind) (scope : Scope) (settings : Settings) :
    (fresh scope settings).stored kind = 0 := by
  cases kind <;> rfl

variable {b b' : Backend} {now : Timestamp} {request : Request}

/-- Records come with a creation and go with a deletion. -/
theorem stored_step (h : Step b now request b') (kind : ResourceKind) :
    b'.stored kind + request.counters.count (.deleted kind) =
      b.stored kind + request.counters.count (.created kind) := by
  cases h with
  | lookup request looks =>
    cases request with
    | describeNotebook | listNotebooks | describeLifecycleConfig | listLifecycleConfigs | listTags
    | describeModel | listModels => rfl
    | _ => cases looks
  | addTags | deleteTags => rfl
  | createNotebook p =>
    cases kind with
    | notebookInstance => exact Store.size_push ..
    | lifecycleConfig | model => rfl
  | startNotebook name | stopNotebook name =>
    cases kind with
    | notebookInstance => exact Store.size_modify ..
    | lifecycleConfig | model => rfl
  | deleteNotebook name r found =>
    cases kind with
    | notebookInstance => exact Store.size_erase found
    | lifecycleConfig | model => rfl
  | createLifecycleConfig p =>
    cases kind with
    | lifecycleConfig => exact Store.size_push ..
    | notebookInstance | model => rfl
  | updateLifecycleConfig p =>
    cases kind with
    | lifecycleConfig => exact Store.size_modify ..
    | notebookInstance | model => rfl
  | deleteLifecycleConfig name r found =>
    cases kind with
    | lifecycleConfig => exact Store.size_erase found
    | notebookInstance | model => rfl
  | createModel p =>
    cases kind with
    | model => exact Store.size_push ..
    | notebookInstance | lifecycleConfig => rfl
  | deleteModel name r found =>
    cases kind with
    | model => exact Store.size_erase found
    | notebookInstance | lifecycleConfig => rfl

end Backend

namespace Registry

/-- The number of records of a kind in all backends. -/
def stored (kind : ResourceKind) (registry : Registry) : Nat :=
  Entries.sum (Backend.stored kind) registry.backends

theorem stored_put (registry : Registry) (scope : Scope) (b : Backend) (kind : ResourceKind) :
    (registry.put scope b).stored kind + (registry.backend scope).stored kind =
      registry.stored kind + b.stored kind := by
  have before : (registry.backend scope).stored kind =
      (registry.find? scope).elim 0 (Backend.stored kind) := by
    unfold backend
    cases registry.find? scope with
    | none => exact Backend.stored_fresh kind scope registry.settings
    | some b => rfl
  rw [before]
  exact Entries.sum_assign (Backend.stored kind) scope b registry.backends

theorem size_put_of_found {registry : Registry} {scope : Scope} {old : Backend}
    (found : registry.find? scope = some old) (b : Backend) :
    (registry.put scope b).size = registry.size :=
  Entries.length_assign_of_found found b

theorem size_put_of_absent {registry : Registry} {scope : Scope}
    (absent : registry.find? scope = none) (b : Backend) :
    (registry.put scope b).size = registry.size + 1 := by
  rw [put_of_absent absent]
  exact List.length_append

end Registry

/-! ## Sorts of counters -/

def Counter.isOperation : Counter → Bool
  | .operations _ => true
  | _ => false

def Counter.isError : Counter → Bool
  | .errors _ => true
  | _ => false

theorem Counter.countP_requests (cs : List Counter) :
    cs.countP (fun c => c.isOperation || c == .errors none) =
      cs.countP Counter.isOperation + cs.count (.errors none) := by
  induction cs with
  | nil => rfl
  | cons c cs ih =>
    rw [List.countP_cons, List.countP_cons, List.count_cons, ih]
    by_cases malformed : c = .errors none
    · subst malformed
      simp [isOperation, Nat.add_assoc]
    · simp [beq_eq_false_iff_ne.mpr malformed, Nat.add_right_comm]

/-- The actions that take an instance from one status to another. -/
def Action.isTransition : Action → Bool
  | .startNotebookInstance | .stopNotebookInstance => true
  | _ => false

namespace Request

theorem countP_counters (request : Request) {p : Counter → Bool}
    (created : ∀ kind, p (.created kind) = false) (deleted : ∀ kind, p (.deleted kind) = false)
    (moved : ∀ action, p (.transitions action) = false) : request.counters.countP p = 0 := by
  cases request <;> simp [counters, created, deleted, moved]

theorem count_transitions (request : Request) (action : Action) :
    request.counters.count (.transitions action) =
      if request.action = action ∧ action.isTransition then 1 else 0 := by
  cases request <;> cases action <;> rfl

end Request

namespace Simulator

variable {sim next : Simulator} {fallback : Scope} {event : Event} {sight : Sight}

/-! ## Acts -/

/-- The request as which a value is dispatched. -/
def asRequest? (fallback : Scope) (json : Json) : Option Request :=
  match requestScope json fallback, Request.ofJson json with
  | .ok _, .ok r => some r
  | _, _ => none

theorem asRequest?_of_parsed {json : Json} {scope : Scope} {r : Request}
    (routed : requestScope json fallback = .ok scope) (parsed : Request.ofJson json = .ok r) :
    asRequest? fallback json = some r := by
  unfold asRequest?
  rw [routed, parsed]

theorem asRequest?_of_unread {json : Json} (unread : Unread fallback json) :
    asRequest? fallback json = none := by
  unfold asRequest?
  cases routed : requestScope json fallback with
  | error e => rfl
  | ok scope =>
    cases parsed : Request.ofJson json with
    | error misfit => rfl
    | ok r => exact absurd parsed (unread scope r routed)

/-- An event with the fallback it was given and what was seen of it. -/
structure Act where
  fallback : Scope
  event : Event
  sight : Sight

namespace Act

def isRequest (act : Act) : Bool :=
  match act.event with
  | .request .. => true
  | _ => false

def isReset (act : Act) : Bool :=
  match act.event with
  | .reset _ => true
  | _ => false

/-- Whether an error was replied. -/
def isRefusal (act : Act) : Bool :=
  match act.sight with
  | .reply reply => reply.isError
  | _ => false

/-- The request as which the act was dispatched. -/
def request? (act : Act) : Option Request :=
  match act.event with
  | .request _ json => asRequest? act.fallback json
  | _ => none

/-- Whether the act was dispatched as a request for an action. -/
def isOf (action : Action) (act : Act) : Bool :=
  decide (act.request?.map Request.action = some action)

/-- Whether the act is addressed to the backend of a scope. -/
def addresses (act : Act) : Bool :=
  match act.event with
  | .touch _ => true
  | _ => act.request?.isSome

/-- What the act counts. -/
def counters (act : Act) : List Counter :=
  match act.request? with
  | some r =>
    if act.isRefusal then [.operations r.action, .errors (some r.action)]
    else .operations r.action :: r.counters
  | none => if act.isRequest then [.errors none] else []

section Counters

variable {act : Act}

theorem countP_of_dispatched {r : Request} (read : act.request? = some r) (p : Counter → Bool) :
    act.counters.countP p =
      (if p (.operations r.action) then 1 else 0) +
        if act.isRefusal then (if p (.errors (some r.action)) then 1 else 0)
        else r.counters.countP p := by
  unfold counters
  rw [read]
  cases act.isRefusal with
  | true => simp [List.countP_cons, Nat.add_comm]
  | false => simp [List.countP_cons, Nat.add_comm]

/-- Where neither resources nor transitions are counted, what is left is the request and, if it is
refused, the refusal. -/
theorem countP_asked_of_dispatched {r : Request} (read : act.request? = some r)
    {p : Counter → Bool} (created : ∀ kind, p (.created kind) = false)
    (deleted : ∀ kind, p (.deleted kind) = false)
    (moved : ∀ action, p (.transitions action) = false) :
    act.counters.countP p =
      (if p (.operations r.action) then 1 else 0) +
        if act.isRefusal && p (.errors (some r.action)) then 1 else 0 := by
  rw [countP_of_dispatched read, r.countP_counters created deleted moved]
  cases act.isRefusal <;> rfl

theorem countP_of_rejected (asked : act.isRequest = true) (unread : act.request? = none)
    (p : Counter → Bool) : act.counters.countP p = if p (.errors none) then 1 else 0 := by
  simp [counters, unread, asked]

theorem countP_of_apart (unasked : act.isRequest = false) (unread : act.request? = none)
    (p : Counter → Bool) : act.counters.countP p = 0 := by
  simp [counters, unread, unasked]

end Counters

/-- What can be said of an act without the simulator it was made on. -/
inductive Shape (act : Act) : Prop
  | dispatched (r : Request) (asked : act.isRequest = true) (read : act.request? = some r)
  | rejected (asked : act.isRequest = true) (unread : act.request? = none)
      (refused : act.isRefusal = true)
  | apart (unasked : act.isRequest = false) (unread : act.request? = none)
      (accepted : act.isRefusal = false)

end Act

/-- A run of acts, none of which stops the simulator. -/
inductive Reached (settings : Settings) : List Act → Simulator → Prop
  | start : Reached settings [] (empty settings)
  | next {acts : List Act} {sim next : Simulator} (act : Act) (before : Reached settings acts sim)
      (performed : sim.perform act.fallback act.event = .ok (act.sight, next)) :
      Reached settings (acts ++ [act]) next

theorem Reached.trace {settings : Settings} {acts : List Act} (before : Reached settings acts sim)
    {events : List Event} {seen : List (Event × Sight)}
    (completed : sim.trace fallback events = .ok (seen, next)) :
    Reached settings (acts ++ seen.map fun (event, sight) => ⟨fallback, event, sight⟩) next := by
  induction events generalizing sim acts seen with
  | nil =>
    cases completed
    simpa using before
  | cons event events ih =>
    obtain ⟨sight, middle, rest, performed, onward, rfl⟩ := trace_cons completed
    rw [List.map_cons, List.append_cons]
    exact ih (before.next ⟨fallback, event, sight⟩ performed) onward

/-! ## One act -/

section Step

variable {act : Act}

theorem Performs.shape (performs : sim.Performs act.fallback act.event act.sight next) :
    act.Shape := by
  obtain ⟨fallback, event, sight⟩ := act
  cases performs with
  | dispatch now json scope r routed parsed =>
    exact .dispatched r rfl (asRequest?_of_parsed routed parsed)
  | reject now json e unread _ => exact .rejected rfl (asRequest?_of_unread unread) rfl
  | reset | touch => exact .apart rfl rfl rfl

/-- A dispatched request is refused without a trace, or accepted as a step. -/
theorem dispatch_cases (sim : Simulator) (scope : Scope) (now : Timestamp) (r : Request) :
    ((sim.dispatch scope now r).1.isError = true ∧
      (sim.registry.backend scope).after now r = sim.registry.backend scope) ∨
    ((sim.dispatch scope now r).1.isError = false ∧
      (sim.registry.backend scope).Step now r ((sim.registry.backend scope).after now r)) := by
  rw [dispatch_fst]
  cases replied : ((sim.registry.backend scope).execute now r).result with
  | error e => exact .inl ⟨rfl, Backend.after_refused replied⟩
  | ok response => exact .inr ⟨rfl, Backend.step_of_accepted replied⟩

theorem metrics_dispatch (sim : Simulator) (scope : Scope) (now : Timestamp) (r : Request) :
    (sim.dispatch scope now r).2.metrics = (sim.touch scope).metrics.addAll
      (if (sim.dispatch scope now r).1.isError then [.operations r.action, .errors (some r.action)]
        else .operations r.action :: r.counters) := by
  have ends := Backend.execute_ends ((sim.touch scope).registry.backend scope) now r
  cases replied : (((sim.touch scope).registry.backend scope).execute now r).result with
  | error e =>
    have refused := ends.of_error replied
    simp only [dispatch, refused]
    rfl
  | ok response =>
    obtain ⟨-, counted⟩ := ends.of_ok replied
    simp only [dispatch, replied, counted]
    rfl

theorem counts_touch (sim : Simulator) (scope : Scope) :
    (sim.touch scope).metrics.counts = sim.metrics.counts := by
  unfold touch
  cases sim.registry.find? scope <;> rfl

theorem counts_reset (sim : Simulator) (scope : Scope) :
    (sim.reset scope).2.metrics.counts = sim.metrics.counts := by
  unfold reset
  cases sim.registry.find? scope <;> rfl

theorem Performs.counts (performs : sim.Performs act.fallback act.event act.sight next) :
    next.metrics.counts = (sim.metrics.addAll act.counters).counts := by
  obtain ⟨fallback, event, sight⟩ := act
  cases performs with
  | dispatch now json scope r routed parsed =>
    have read : asRequest? fallback json = some r := asRequest?_of_parsed routed parsed
    rw [metrics_dispatch, Metrics.counts_addAll, Metrics.counts_addAll, counts_touch]
    simp only [Act.counters, Act.request?, read]
    rfl
  | reject now json e unread _ =>
    have ignored : asRequest? fallback json = none := asRequest?_of_unread unread
    simp only [Act.counters, Act.request?, ignored]
    rfl
  | reset scope => exact counts_reset sim scope
  | touch scope => exact counts_touch sim scope

theorem stored_touch (sim : Simulator) (scope : Scope) (kind : ResourceKind) :
    (sim.touch scope).registry.stored kind = sim.registry.stored kind := by
  have same := sim.registry.stored_put scope (sim.registry.backend scope) kind
  rw [registry_touch]
  omega

theorem stored_dispatch (sim : Simulator) (scope : Scope) (now : Timestamp) (r : Request)
    (kind : ResourceKind) :
    (sim.dispatch scope now r).2.registry.stored kind + (sim.registry.backend scope).stored kind =
      sim.registry.stored kind + ((sim.registry.backend scope).after now r).stored kind := by
  have put := (sim.touch scope).registry.stored_put scope
    ((sim.registry.backend scope).after now r) kind
  rwa [backend_touch, stored_touch, ← registry_dispatch] at put

/-- Unless a backend is dropped, records come and go as they are counted. -/
theorem Performs.stored (performs : sim.Performs act.fallback act.event act.sight next)
    (keeps : act.isReset = false) (kind : ResourceKind) :
    next.registry.stored kind + act.counters.count (.deleted kind) =
      sim.registry.stored kind + act.counters.count (.created kind) := by
  obtain ⟨fallback, event, sight⟩ := act
  cases performs with
  | dispatch now json scope r routed parsed =>
    have read : asRequest? fallback json = some r := asRequest?_of_parsed routed parsed
    have moved := stored_dispatch sim scope now r kind
    simp only [Act.counters, Act.request?, read, Act.isRefusal]
    obtain ⟨refused, kept⟩ | ⟨accepted, step⟩ := dispatch_cases sim scope now r
    · rw [kept] at moved
      simp only [refused, if_true]
      exact Nat.add_right_cancel moved
    · have counted := Backend.stored_step step kind
      simp only [accepted]
      change _ + r.counters.count (.deleted kind) = _ + r.counters.count (.created kind)
      omega
  | reject now json e unread _ =>
    have ignored : asRequest? fallback json = none := asRequest?_of_unread unread
    simp only [Act.counters, Act.request?, ignored]
    rfl
  | reset scope => cases keeps
  | touch scope => exact stored_touch sim scope kind

/-- The gauge tells the number of backends once a scope was addressed; before, there are none. -/
structure Gauged (addressed : Bool) (sim : Simulator) : Prop where
  active : sim.metrics.activeBackends = if addressed then some sim.registry.size else none
  nothing : addressed = false → sim.registry.size = 0

theorem Gauged.addressed_of_found {addressed : Bool} (gauged : Gauged addressed sim)
    {scope : Scope} {b : Backend} (found : sim.registry.find? scope = some b) :
    addressed = true := by
  cases addressed with
  | true => rfl
  | false =>
    have none_held : sim.registry.backends = [] := List.length_eq_zero_iff.mp (gauged.nothing rfl)
    unfold Registry.find? at found
    rw [none_held] at found
    cases found

theorem Gauged.touch {addressed : Bool} (gauged : Gauged addressed sim) (scope : Scope) :
    Gauged true (sim.touch scope) := by
  cases found : sim.registry.find? scope with
  | some b =>
    rw [touch_of_found found]
    exact gauged.addressed_of_found found ▸ gauged
  | none =>
    refine ⟨?_, nofun⟩
    have grown := Registry.size_put_of_absent found (sim.registry.backend scope)
    rw [registry_touch, grown]
    simp only [Simulator.touch, found]
    rfl

theorem Gauged.dispatch {addressed : Bool} (gauged : Gauged addressed sim) (scope : Scope)
    (now : Timestamp) (r : Request) : Gauged true (sim.dispatch scope now r).2 := by
  refine ⟨?_, nofun⟩
  have found : (sim.touch scope).registry.find? scope = some (sim.registry.backend scope) := by
    rw [find?_touch, if_pos rfl]
  rw [metrics_dispatch, Metrics.activeBackends_addAll, registry_dispatch,
    Registry.size_put_of_found found]
  exact (gauged.touch scope).active

theorem Gauged.reset {addressed : Bool} (gauged : Gauged addressed sim) (scope : Scope) :
    Gauged addressed (sim.reset scope).2 := by
  unfold Simulator.reset
  cases found : sim.registry.find? scope with
  | none => exact gauged
  | some b =>
    rw [gauged.addressed_of_found found]
    exact ⟨rfl, nofun⟩

theorem Performs.gauged (performs : sim.Performs act.fallback act.event act.sight next)
    {addressed : Bool} (gauged : Gauged addressed sim) :
    Gauged (addressed || act.addresses) next := by
  obtain ⟨fallback, event, sight⟩ := act
  cases performs with
  | dispatch now json scope r routed parsed =>
    have read : asRequest? fallback json = some r := asRequest?_of_parsed routed parsed
    simp only [Act.addresses, Act.request?, read, Option.isSome, Bool.or_true]
    exact gauged.dispatch scope now r
  | reject now json e unread _ =>
    have ignored : asRequest? fallback json = none := asRequest?_of_unread unread
    simp only [Act.addresses, Act.request?, ignored, Option.isSome, Bool.or_false]
    exact ⟨gauged.active, gauged.nothing⟩
  | reset scope =>
    simp only [Act.addresses, Act.request?, Option.isSome, Bool.or_false]
    exact gauged.reset scope
  | touch scope =>
    simp only [Act.addresses, Bool.or_true]
    exact gauged.touch scope

end Step

/-! ## A whole run -/

section Run

variable {settings : Settings} {acts : List Act}

theorem Reached.shape (reached : Reached settings acts sim) : ∀ act ∈ acts, act.Shape := by
  induction reached with
  | start =>
    intro act member
    cases member
  | next act before performed ih =>
    intro other member
    obtain earlier | last := List.mem_append.mp member
    · exact ih other earlier
    · rw [List.mem_singleton.mp last]
      exact (performs_of_perform performed).shape

theorem Reached.counts (reached : Reached settings acts sim) :
    sim.metrics.counts = (Metrics.empty.addAll (acts.flatMap Act.counters)).counts := by
  induction reached with
  | start => rfl
  | next act before performed ih =>
    rw [(performs_of_perform performed).counts, List.flatMap_append, Metrics.addAll_append,
      Metrics.counts_addAll, Metrics.counts_addAll _ ([act].flatMap _), ih, List.flatMap_singleton]

/-- A counter holds the number of its occurrences. -/
theorem Reached.count (reached : Reached settings acts sim) (c : Counter) :
    sim.metrics.count c = (acts.flatMap Act.counters).count c := by
  have counted := Metrics.count_addAll .empty (acts.flatMap Act.counters) c
  unfold Metrics.count at counted ⊢
  rw [reached.counts, counted]
  exact Nat.zero_add _

theorem Reached.total (reached : Reached settings acts sim) (p : Counter → Bool) :
    sim.metrics.total p = (acts.flatMap Act.counters).countP p := by
  have counted := Metrics.total_addAll .empty (acts.flatMap Act.counters) p
  unfold Metrics.total at counted ⊢
  rw [reached.counts, counted]
  exact Nat.zero_add _

theorem Reached.gauged (reached : Reached settings acts sim) :
    Gauged (acts.any Act.addresses) sim := by
  induction reached with
  | start => exact ⟨rfl, fun _ => rfl⟩
  | next act before performed ih =>
    rw [List.any_append, List.any_cons, List.any_nil, Bool.or_false]
    exact (performs_of_perform performed).gauged ih

theorem Reached.stored (reached : Reached settings acts sim)
    (keeps : ∀ act ∈ acts, act.isReset = false) (kind : ResourceKind) :
    sim.metrics.count (.created kind) =
      sim.metrics.count (.deleted kind) + sim.registry.stored kind := by
  rw [reached.count, reached.count]
  induction reached with
  | start => rfl
  | next act before performed ih =>
    have earlier := ih fun other member => keeps other (List.mem_append_left _ member)
    have last := (performs_of_perform performed).stored (keeps act (by simp)) kind
    rw [List.flatMap_append, List.flatMap_singleton, List.count_append, List.count_append]
    omega

/-- Where every act counts one thing of a sort, or none, a run counts the acts that do. -/
theorem countP_counters {p : Counter → Bool} {q : Act → Bool} (shapes : ∀ act ∈ acts, act.Shape)
    (each : ∀ act : Act, act.Shape → act.counters.countP p = if q act then 1 else 0) :
    (acts.flatMap Act.counters).countP p = acts.countP q := by
  induction acts with
  | nil => rfl
  | cons act acts ih =>
    obtain ⟨first, rest⟩ := List.forall_mem_cons.mp shapes
    rw [List.flatMap_cons, List.countP_append, List.countP_cons, ih rest, each act first,
      Nat.add_comm]

/-- A counter that is counted only with requests for one action. -/
theorem Reached.count_of (reached : Reached settings acts sim) {c : Counter} {action : Action}
    {q : Act → Bool} (named : c ≠ .errors none)
    (each : ∀ act r, Act.request? act = some r →
      act.counters.count c = if act.isOf action && q act then 1 else 0) :
    sim.metrics.count c = acts.countP fun act => act.isOf action && q act := by
  rw [reached.count]
  refine countP_counters reached.shape fun act shape => ?_
  cases shape with
  | dispatched r asked read => exact each act r read
  | rejected asked unread refused =>
    rw [Act.countP_of_rejected asked unread]
    simp [Act.isOf, unread, Ne.symm named]
  | apart unasked unread accepted =>
    rw [Act.countP_of_apart unasked unread]
    simp [Act.isOf, unread]

theorem Reached.requests (reached : Reached settings acts sim) :
    acts.countP Act.isRequest =
      sim.metrics.total Counter.isOperation + sim.metrics.count (.errors none) := by
  rw [reached.total, reached.count, ← Counter.countP_requests]
  symm
  refine countP_counters reached.shape fun act shape => ?_
  cases shape with
  | dispatched r asked read =>
    rw [Act.countP_asked_of_dispatched read (fun _ => rfl) (fun _ => rfl) fun _ => rfl]
    simp [asked, Counter.isOperation]
  | rejected asked unread refused =>
    rw [Act.countP_of_rejected asked unread]
    simp [asked]
  | apart unasked unread accepted =>
    rw [Act.countP_of_apart unasked unread]
    simp [unasked]

theorem Reached.refusals (reached : Reached settings acts sim) :
    sim.metrics.total Counter.isError = acts.countP Act.isRefusal := by
  rw [reached.total]
  refine countP_counters reached.shape fun act shape => ?_
  cases shape with
  | dispatched r asked read =>
    rw [Act.countP_asked_of_dispatched read (fun _ => rfl) (fun _ => rfl) fun _ => rfl]
    simp [Counter.isError]
  | rejected asked unread refused =>
    rw [Act.countP_of_rejected asked unread]
    simp [refused, Counter.isError]
  | apart unasked unread accepted =>
    rw [Act.countP_of_apart unasked unread]
    simp [accepted]

theorem Reached.operations (reached : Reached settings acts sim) (action : Action) :
    sim.metrics.count (.operations action) = acts.countP (Act.isOf action) := by
  have counted : sim.metrics.count (.operations action) =
      acts.countP fun act => act.isOf action && true := by
    refine reached.count_of nofun fun act r read => ?_
    unfold List.count
    rw [Act.countP_asked_of_dispatched read (fun _ => rfl) (fun _ => rfl) fun _ => rfl]
    simp [Act.isOf, read]
  simpa only [Bool.and_true] using counted

theorem Reached.errors (reached : Reached settings acts sim) (action : Action) :
    sim.metrics.count (.errors (some action)) =
      acts.countP fun act => act.isOf action && act.isRefusal := by
  refine reached.count_of nofun fun act r read => ?_
  unfold List.count
  rw [Act.countP_asked_of_dispatched read (fun _ => rfl) (fun _ => rfl) fun _ => rfl]
  cases act.isRefusal <;> simp [Act.isOf, read]

theorem Reached.transitions (reached : Reached settings acts sim) (action : Action) :
    sim.metrics.count (.transitions action) =
      acts.countP fun act => act.isOf action && (action.isTransition && !act.isRefusal) := by
  refine reached.count_of nofun fun act r read => ?_
  have moved := r.count_transitions action
  unfold List.count at moved ⊢
  rw [Act.countP_of_dispatched read, moved]
  cases act.isRefusal <;> simp [Act.isOf, read]

end Run

/-! ## The books -/

/-- The books of a run: what the metrics say, in terms of the requests that were made, their
replies, and what is stored. -/
structure Accounts (acts : List Act) (sim : Simulator) : Prop where
  requests : acts.countP Act.isRequest =
    sim.metrics.total Counter.isOperation + sim.metrics.count (.errors none)
  refusals : sim.metrics.total Counter.isError = acts.countP Act.isRefusal
  operations : ∀ action, sim.metrics.count (.operations action) = acts.countP (Act.isOf action)
  errors : ∀ action, sim.metrics.count (.errors (some action)) =
    acts.countP fun act => act.isOf action && act.isRefusal
  transitions : ∀ action, sim.metrics.count (.transitions action) =
    acts.countP fun act => act.isOf action && (action.isTransition && !act.isRefusal)
  stored : (∀ act ∈ acts, act.isReset = false) → ∀ kind,
    sim.metrics.count (.created kind) =
      sim.metrics.count (.deleted kind) + sim.registry.stored kind
  active : sim.metrics.activeBackends =
    if acts.any Act.addresses then some sim.registry.size else none

/-- Every request is counted once and every refusal once, each under its action if it has one; what
was created and is not stored was deleted, unless a backend was dropped; and the gauge tells how
many backends there are as soon as there was one. -/
theorem accounts_of_reached (settings : Settings) (acts : List Act) (sim : Simulator)
    (reached : Reached settings acts sim) : Accounts acts sim where
  requests := reached.requests
  refusals := reached.refusals
  operations := reached.operations
  errors := reached.errors
  transitions := reached.transitions
  stored := reached.stored
  active := reached.gauged.active

/-- A model is created, refused as a duplicate and deleted; another is created in a second account,
and a request has no action. -/
def dayOfModels : List Event :=
  [.request .epoch (modelCreation []), .request .epoch (modelCreation []),
    .request .epoch (.object [("Action", .string "DeleteModel"), ("ModelName", .string "m")]),
    .request .epoch (modelCreation [("AccountId", .string "111111111111")]),
    .request .epoch (.object [])]

theorem accounts_of_reached_dayOfModels :
    ∃ acts sim, Reached .default acts sim ∧
      sim.metrics.total Counter.isOperation + sim.metrics.count (.errors none) = 5 ∧
      sim.metrics.total Counter.isError = 2 ∧
      sim.metrics.count (.created .model) =
        sim.metrics.count (.deleted .model) + sim.registry.stored .model ∧
      sim.registry.stored .model = 1 ∧ sim.metrics.activeBackends = some 2 := by
  obtain ⟨seen, sim, completed, asked, refused, keeps, left, backends⟩ : ∃ seen sim,
      (empty .default).trace home dayOfModels = .ok (seen, sim) ∧
      let acts : List Act := seen.map fun (event, sight) => ⟨home, event, sight⟩
      acts.countP Act.isRequest = 5 ∧ acts.countP Act.isRefusal = 2 ∧
      acts.all (fun act => !act.isReset) = true ∧ sim.registry.stored .model = 1 ∧
      (if acts.any Act.addresses then some sim.registry.size else none) = some 2 :=
    ⟨_, _, rfl, rfl, rfl, rfl, rfl, rfl⟩
  have reached := Reached.start.trace completed
  have accounts := accounts_of_reached .default _ sim reached
  have kept : ∀ act ∈ seen.map fun (event, sight) => Act.mk home event sight,
      act.isReset = false := by
    intro act member
    have other := List.all_eq_true.mp keeps act member
    simpa using other
  exact ⟨_, sim, reached, accounts.requests ▸ asked, accounts.refusals.trans refused,
    accounts.stored kept .model, left, accounts.active.trans backends⟩

end Simulator
end NotebookSim
