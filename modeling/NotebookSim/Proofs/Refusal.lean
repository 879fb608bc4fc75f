import NotebookSim.Proofs.Simulator
/-!
Refusals are atomic. An operation may mark, insert and tag before its last check, yet a refused
request leaves every backend as it was; all it can leave behind is an empty backend for the scope
it was sent to.
-/
namespace NotebookSim.Simulator

theorem isError_iff (reply : Reply) :
    reply.isError = true ↔ ∃ e, reply.result = .error e := by
  cases h : reply.result <;> simp [Reply.isError, Reply.error?, h]

theorem registry_dispatch_of_refused {sim : Simulator} {scope : Scope} {now : Timestamp}
    {request : Request} (refused : (sim.dispatch scope now request).1.isError = true) :
    (sim.dispatch scope now request).2.registry = (sim.touch scope).registry := by
  obtain ⟨e, he⟩ := (isError_iff _).mp refused
  rw [dispatch_fst] at he
  have kept := Backend.after_refused he
  have found : (sim.touch scope).registry.find? scope = some (sim.registry.backend scope) := by
    rw [find?_touch, if_pos rfl]
  rw [registry_dispatch, kept, Registry.put_of_found found]

/-- A refusal before dispatch leaves the registry alone. A refusal by the operation leaves every
backend alone, and adds an empty one exactly when the scope was not addressed before. -/
theorem refused_atomic (sim sim' : Simulator) (fallback : Scope) (now : Timestamp)
    (request : Json) (reply : Reply)
    (answered : sim.handle fallback now request = .ok (reply, sim'))
    (refused : reply.isError = true) :
    (Unread fallback request → sim'.registry = sim.registry) ∧
    (∀ scope r, requestScope request fallback = .ok scope → Request.ofJson request = .ok r →
      (∀ other b, sim.registry.find? other = some b →
        sim'.registry.find? other = some b) ∧
      (∀ b, sim.registry.find? scope = some b → sim'.registry = sim.registry) ∧
      (sim.registry.find? scope = none →
        sim'.registry = { sim.registry with
          backends := sim.registry.backends ++
            [(scope, .fresh scope sim.registry.settings)] })) := by
  constructor
  · intro unread
    obtain halts | ⟨e, rejects⟩ := handle_of_unread unread
    · rw [halts] at answered; cases answered
    · rw [rejects] at answered; cases answered; rfl
  · intro scope r routed parsed
    rw [handle_of_parsed routed parsed] at answered
    have gave := Except.ok.inj answered
    have replied : (sim.dispatch scope now r).1 = reply := congrArg Prod.fst gave
    have left : (sim.dispatch scope now r).2 = sim' := congrArg Prod.snd gave
    rw [← left, registry_dispatch_of_refused (replied ▸ refused)]
    have same {b : Backend} (found : sim.registry.find? scope = some b) :
        (sim.touch scope).registry = sim.registry := by rw [touch_of_found found]
    refine ⟨fun other b found => ?_, fun b found => same found, fun absent => ?_⟩
    · rw [find?_touch]
      split
      · next here => subst here; simp [Registry.backend, found]
      · exact found
    · have fresh : sim.registry.backend scope = .fresh scope sim.registry.settings := by
        simp [Registry.backend, absent]
      rw [registry_touch, fresh, Registry.put_of_absent absent]

/-- One instance, in service. -/
def withRunning : Simulator :=
  ((empty ⟨100, 50, 5, ["ml.t2.medium"]⟩).dispatch home .epoch
    (.createNotebook (.minimal "nb" "ml.t2.medium" "role"))).2

def deletion : Json :=
  .object [("Action", .string "DeleteNotebookInstance"), ("NotebookInstanceName", .string "nb")]

theorem refused_deletion_of_running :
    ∃ reply left, withRunning.handle home .epoch deletion = .ok (reply, left) ∧
      reply.isError = true ∧ left.registry = withRunning.registry := by
  have answered : withRunning.handle home .epoch deletion =
      .ok (withRunning.dispatch home .epoch (.deleteNotebook "nb")) := rfl
  have kept := (refused_atomic withRunning _ home .epoch deletion _ answered rfl).2 home
    (.deleteNotebook "nb") rfl rfl
  exact ⟨_, _, answered, rfl, kept.2.1 _ rfl⟩

end NotebookSim.Simulator
