import NotebookSim.Proofs.Simulator
/-!
Runs of a simulator: what can be done with it, and what is seen of it.
-/
namespace NotebookSim.Simulator

inductive Event where
  | request (now : Timestamp) (json : Json)
  | reset (scope : Scope)
  | touch (scope : Scope)

/-- What is seen of an event: the reply, whether there was something to reset, the backend that
is handed out. -/
inductive Sight where
  | reply (reply : Reply)
  | removed (found : Bool)
  | backend (b : Backend)

/-- Whether an event is addressed to a scope. A request whose own scope is refused is addressed to
none. -/
def Event.concerns (fallback scope : Scope) : Event → Bool
  | .request _ json =>
    match requestScope json fallback with
    | .ok routed => decide (routed = scope)
    | .error _ => false
  | .reset s => decide (s = scope)
  | .touch s => decide (s = scope)

def perform (sim : Simulator) (fallback : Scope) : Event → Except Halt (Sight × Simulator)
  | .request now json =>
    match sim.handle fallback now json with
    | .ok (reply, sim) => .ok (.reply reply, sim)
    | .error halt => .error halt
  | .reset scope => .ok (.removed (sim.reset scope).1, (sim.reset scope).2)
  | .touch scope => .ok (.backend ((sim.touch scope).registry.backend scope), sim.touch scope)

/-- An event that is carried out, with what is seen of it and the simulator it leaves. -/
inductive Performs (sim : Simulator) (fallback : Scope) : Event → Sight → Simulator → Prop
  | dispatch (now : Timestamp) (json : Json) (scope : Scope) (r : Request)
      (routed : requestScope json fallback = .ok scope) (parsed : Request.ofJson json = .ok r) :
      Performs sim fallback (.request now json) (.reply (sim.dispatch scope now r).1)
        (sim.dispatch scope now r).2
  | reject (now : Timestamp) (json : Json) (e : ServiceError) (unread : Unread fallback json)
      (rejects : ∀ (other : Simulator) (now : Timestamp),
        other.handle fallback now json = .ok (other.reject json e)) :
      Performs sim fallback (.request now json) (.reply (sim.reject json e).1)
        (sim.reject json e).2
  | reset (scope : Scope) :
      Performs sim fallback (.reset scope) (.removed (sim.reset scope).1) (sim.reset scope).2
  | touch (scope : Scope) :
      Performs sim fallback (.touch scope) (.backend ((sim.touch scope).registry.backend scope))
        (sim.touch scope)

theorem performs_of_perform {sim next : Simulator} {fallback : Scope} {event : Event}
    {sight : Sight} (performed : sim.perform fallback event = .ok (sight, next)) :
    sim.Performs fallback event sight next := by
  cases event with
  | reset scope => cases performed; exact .reset scope
  | touch scope => cases performed; exact .touch scope
  | request now json =>
    unfold perform at performed
    obtain ⟨scope, r, routed, parsed⟩ | unread := parsed_or_unread fallback json
    · simp only [handle_of_parsed routed parsed] at performed
      cases performed
      exact .dispatch now json scope r routed parsed
    · obtain halts | ⟨e, rejects⟩ := handle_of_unread unread
      · simp only [halts] at performed; cases performed
      · simp only [rejects] at performed; cases performed
        exact .reject now json e unread rejects

/-- The events of a run with what is seen of each, and the simulator after them. -/
def trace (sim : Simulator) (fallback : Scope) :
    List Event → Except Halt (List (Event × Sight) × Simulator)
  | [] => .ok ([], sim)
  | event :: events =>
    match sim.perform fallback event with
    | .error halt => .error halt
    | .ok (sight, sim) =>
      match trace sim fallback events with
      | .error halt => .error halt
      | .ok (seen, sim) => .ok ((event, sight) :: seen, sim)

theorem trace_cons {sim final : Simulator} {fallback : Scope} {event : Event}
    {events : List Event} {seen : List (Event × Sight)}
    (completed : sim.trace fallback (event :: events) = .ok (seen, final)) :
    ∃ sight next rest, sim.perform fallback event = .ok (sight, next) ∧
      next.trace fallback events = .ok (rest, final) ∧ seen = (event, sight) :: rest := by
  unfold trace at completed
  cases performed : sim.perform fallback event with
  | error halt => simp only [performed] at completed; cases completed
  | ok first =>
    obtain ⟨sight, next⟩ := first
    simp only [performed] at completed
    cases later : next.trace fallback events with
    | error halt => simp only [later] at completed; cases completed
    | ok second =>
      simp only [later] at completed
      cases completed
      exact ⟨sight, next, second.1, rfl, later, rfl⟩

theorem trace_append {sim final : Simulator} {fallback : Scope} {before later : List Event}
    {seen : List (Event × Sight)}
    (completed : sim.trace fallback (before ++ later) = .ok (seen, final)) :
    ∃ first middle second, sim.trace fallback before = .ok (first, middle) ∧
      middle.trace fallback later = .ok (second, final) ∧ seen = first ++ second ∧
      first.length = before.length := by
  induction before generalizing sim seen with
  | nil => exact ⟨[], sim, seen, rfl, completed, rfl, rfl⟩
  | cons event before ih =>
    obtain ⟨sight, next, rest, performed, onward, rfl⟩ := trace_cons completed
    obtain ⟨first, middle, second, ran, after, rfl, length⟩ := ih onward
    refine ⟨(event, sight) :: first, middle, second, ?_, after, rfl, ?_⟩
    · simp only [trace, performed, ran]
    · simp [length]

/-- The settings are shared by all backends and never change. -/
theorem settings_perform {sim next : Simulator} {fallback : Scope} {event : Event} {sight : Sight}
    (performed : sim.perform fallback event = .ok (sight, next)) :
    next.registry.settings = sim.registry.settings := by
  cases performs_of_perform performed with
  | dispatch now json scope r => exact settings_dispatch sim scope now r
  | reject => rfl
  | reset scope => exact (registry_reset sim scope).1
  | touch scope => exact settings_touch sim scope

theorem settings_trace {sim final : Simulator} {fallback : Scope} {events : List Event}
    {seen : List (Event × Sight)} (completed : sim.trace fallback events = .ok (seen, final)) :
    final.registry.settings = sim.registry.settings := by
  induction events generalizing sim seen with
  | nil => cases completed; rfl
  | cons event events ih =>
    obtain ⟨sight, next, rest, performed, onward, rfl⟩ := trace_cons completed
    rw [ih onward, settings_perform performed]

end NotebookSim.Simulator
