import NotebookSim.Proofs.Trace
/-!
Scopes do not see each other. A run and what is left of it when only the events of one scope are
kept show the same to that scope, and leave the same backend for it.

The two runs are tied by `SameAt`: equal settings and equal backends at the scope. An event of the
scope is seen alike in both and keeps the tie; any other event changes one run only and keeps it
too.
-/
namespace NotebookSim.Simulator

structure SameAt (scope : Scope) (sim other : Simulator) : Prop where
  settings : sim.registry.settings = other.registry.settings
  stored : sim.registry.find? scope = other.registry.find? scope

namespace SameAt

variable {scope fallback : Scope} {sim other : Simulator}

theorem backend (same : SameAt scope sim other) :
    sim.registry.backend scope = other.registry.backend scope := by
  unfold Registry.backend
  rw [same.stored, same.settings]

theorem touch (same : SameAt scope sim other) :
    SameAt scope (sim.touch scope) (other.touch scope) where
  settings := by rw [settings_touch, settings_touch, same.settings]
  stored := by rw [find?_touch, find?_touch, same.backend, same.stored]

theorem reset (same : SameAt scope sim other) :
    SameAt scope (sim.reset scope).2 (other.reset scope).2 where
  settings := by rw [(registry_reset ..).1, (registry_reset ..).1, same.settings]
  stored := by rw [(registry_reset ..).2, (registry_reset ..).2, same.stored]

theorem dispatch (same : SameAt scope sim other) (now : Timestamp) (request : Request) :
    (sim.dispatch scope now request).1 = (other.dispatch scope now request).1 ∧
    SameAt scope (sim.dispatch scope now request).2 (other.dispatch scope now request).2 := by
  refine ⟨?_, ?_, ?_⟩
  · rw [dispatch_fst, dispatch_fst, same.backend]
  · rw [settings_dispatch, settings_dispatch, same.settings]
  · rw [find?_dispatch, find?_dispatch, same.backend, same.stored]

/-- An event of the scope is seen alike on both sides. -/
theorem perform (same : SameAt scope sim other) {event : Event}
    (concerned : event.concerns fallback scope = true) {sight : Sight} {next : Simulator}
    (performed : sim.perform fallback event = .ok (sight, next)) :
    ∃ beside, other.perform fallback event = .ok (sight, beside) ∧ SameAt scope next beside := by
  cases performs_of_perform performed with
  | dispatch now json routed r route parsed =>
    have here : routed = scope := by simpa [Event.concerns, route] using concerned
    subst here
    obtain ⟨replies, tied⟩ := same.dispatch now r
    refine ⟨(other.dispatch routed now r).2, ?_, tied⟩
    simp only [Simulator.perform, handle_of_parsed route parsed, replies]
  | reject now json e unread rejects =>
    refine ⟨(other.reject json e).2, ?_, same.settings, same.stored⟩
    simp only [Simulator.perform, rejects]
    rfl
  | reset s =>
    have here : s = scope := by simpa [Event.concerns] using concerned
    subst here
    refine ⟨(other.reset s).2, ?_, same.reset⟩
    simp only [Simulator.perform, reset_fst, same.stored]
  | touch s =>
    have here : s = scope := by simpa [Event.concerns] using concerned
    subst here
    refine ⟨other.touch s, ?_, same.touch⟩
    simp only [Simulator.perform, backend_touch, same.backend]

/-- Any other event leaves no trace at the scope. -/
theorem perform_elsewhere (same : SameAt scope sim other) {event : Event}
    (elsewhere : event.concerns fallback scope = false) {sight : Sight} {next : Simulator}
    (performed : sim.perform fallback event = .ok (sight, next)) : SameAt scope next other := by
  refine ⟨(settings_perform performed).trans same.settings, Eq.trans ?_ same.stored⟩
  cases performs_of_perform performed with
  | dispatch now json routed r route parsed =>
    have away : routed ≠ scope := by simpa [Event.concerns, route] using elsewhere
    exact (find?_dispatch ..).trans (if_neg away)
  | reject => rfl
  | reset s =>
    have away : s ≠ scope := by simpa [Event.concerns] using elsewhere
    exact ((registry_reset sim s).2 scope).trans (if_neg away)
  | touch s =>
    have away : s ≠ scope := by simpa [Event.concerns] using elsewhere
    exact (find?_touch ..).trans (if_neg away)

/-- The run of the scope's own events, beside the whole run. -/
theorem trace (same : SameAt scope sim other) {events : List Event} {seen : List (Event × Sight)}
    {final : Simulator} (completed : sim.trace fallback events = .ok (seen, final)) :
    ∃ alone, other.trace fallback (events.filter (·.concerns fallback scope)) =
        .ok (seen.filter (·.1.concerns fallback scope), alone) ∧
      SameAt scope final alone := by
  induction events generalizing sim other seen with
  | nil => cases completed; exact ⟨other, rfl, same⟩
  | cons event events ih =>
    obtain ⟨sight, next, rest, performed, onward, rfl⟩ := trace_cons completed
    cases concerned : event.concerns fallback scope with
    | true =>
      obtain ⟨beside, performed', tied⟩ := same.perform concerned performed
      obtain ⟨alone, completed', tied⟩ := ih tied onward
      refine ⟨alone, ?_, tied⟩
      simp [concerned, Simulator.trace, performed', completed']
    | false =>
      obtain ⟨alone, completed', tied⟩ := ih (same.perform_elsewhere concerned performed) onward
      exact ⟨alone, by simpa [concerned] using completed', tied⟩

end SameAt

/-- After a reset a scope is as in a simulator that never saw it. -/
theorem sameAt_empty_of_reset {sim : Simulator} {settings : Settings} {scope : Scope}
    (shared : sim.registry.settings = settings) :
    SameAt scope (sim.reset scope).2 (empty settings) where
  settings := (registry_reset sim scope).1.trans shared
  stored := ((registry_reset sim scope).2 scope).trans (if_pos rfl)

/-- What a scope sees of a run, and the backend it has in the end, are those of the run of its own
events alone; after a reset of the scope, they are those of its own later events on a simulator
that never saw it. -/
theorem scope_isolated (settings : Settings) (fallback scope : Scope) (events : List Event)
    (seen : List (Event × Sight)) (final : Simulator)
    (completed : (empty settings).trace fallback events = .ok (seen, final)) :
    (∃ alone, (empty settings).trace fallback (events.filter (·.concerns fallback scope)) =
        .ok (seen.filter (·.1.concerns fallback scope), alone) ∧
      alone.registry.find? scope = final.registry.find? scope) ∧
    (∀ before later, events = before ++ .reset scope :: later →
      ∃ alone, (empty settings).trace fallback (later.filter (·.concerns fallback scope)) =
          .ok ((seen.drop (before.length + 1)).filter (·.1.concerns fallback scope), alone) ∧
        alone.registry.find? scope = final.registry.find? scope) := by
  constructor
  · have same : SameAt scope (empty settings) (empty settings) := ⟨rfl, rfl⟩
    obtain ⟨alone, own, tied⟩ := same.trace completed
    exact ⟨alone, own, tied.stored.symm⟩
  · rintro before later rfl
    obtain ⟨first, middle, second, ran, after, rfl, length⟩ := trace_append completed
    obtain ⟨sight, next, rest, performed, onward, rfl⟩ := trace_cons after
    cases performed
    have same : SameAt scope (middle.reset scope).2 (empty settings) :=
      sameAt_empty_of_reset (settings_trace ran)
    obtain ⟨alone, own, tied⟩ := same.trace onward
    have later_seen : (first ++ (.reset scope, .removed (middle.reset scope).1) :: rest).drop
        (before.length + 1) = rest := by
      rw [List.append_cons]
      exact List.drop_left' (by simp [length])
    exact ⟨alone, by rw [own, later_seen], tied.stored.symm⟩

def modelCreation (scope : List (String × Json)) : Json :=
  .object (scope ++ [("Action", .string "CreateModel"), ("ExecutionRoleArn", .string "role"),
    ("ModelName", .string "m")])

/-- Two accounts use one name, a request is rejected, and both scopes are reset. -/
def twoAccounts : List Event :=
  let away : Scope := ⟨"111111111111", "us-east-1"⟩
  let inAway := modelCreation [("AccountId", .string away.accountId)]
  [.request .epoch (modelCreation []), .request .epoch inAway, .reset away,
    .request .epoch (.object [("Action", .string "DescribeModel")]), .reset home,
    .request .epoch inAway, .request .epoch (modelCreation []), .touch away]

theorem scope_isolated_twoAccounts :
    ∃ seen final, (empty .default).trace home twoAccounts = .ok (seen, final) ∧
      ∃ alone, (empty .default).trace home [.request .epoch (modelCreation [])] =
          .ok ((seen.drop 5).filter (·.1.concerns home home), alone) ∧
        alone.registry.find? home = final.registry.find? home := by
  refine ⟨_, _, rfl, ?_⟩
  exact (scope_isolated .default home home twoAccounts _ _ rfl).2
    (twoAccounts.take 4) (twoAccounts.drop 5) rfl

end NotebookSim.Simulator
