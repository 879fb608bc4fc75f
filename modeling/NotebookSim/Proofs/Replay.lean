import NotebookSim.Proofs.Overflow
import NotebookSim.Proofs.Simulator
import NotebookSim.Replay
import Mathlib.Tactic.NormNum
/-!
Every request is answered or stops the simulator, and a replay has a reply to every request that it
comes to.
-/
namespace NotebookSim

/-- A success, or a refusal in its envelope. -/
def Reply.Enveloped (reply : Reply) : Prop :=
  (∃ response, reply.result = .ok response ∧ reply.statusCode = 200 ∧
    reply.body = response.members) ∨
  ∃ message, reply.statusCode = 400 ∧
    reply.body = [("Error",
      .object [("Code", .string "ValidationException"), ("Message", .string message)])]

theorem Reply.enveloped (reply : Reply) : reply.Enveloped := by
  obtain ⟨action, result⟩ := reply
  cases result with
  | ok response => exact .inl ⟨response, rfl, rfl, rfl⟩
  | error e => exact .inr ⟨e.message, rfl, rfl⟩

namespace Simulator

/-- A request that gets past its scope and gives a time bound that is too far. -/
def Stops (fallback : Scope) (request : Json) : Prop :=
  (∃ scope, requestScope request fallback = .ok scope) ∧ Request.Overflows request

theorem handle_cases (sim : Simulator) (fallback : Scope) (now : Timestamp) (request : Json) :
    (¬ Stops fallback request ∧
      ∃ reply sim', sim.handle fallback now request = .ok (reply, sim')) ∨
    Stops fallback request ∧ sim.handle fallback now request = .error .timeOverflow := by
  unfold handle
  cases routed : requestScope request fallback with
  | error e =>
    refine .inl ⟨?_, _, _, rfl⟩
    rintro ⟨⟨scope, found⟩, -⟩
    cases routed.symm.trans found
  | ok scope =>
    cases read : Request.ofJson request with
    | ok r =>
      refine .inl ⟨?_, _, _, rfl⟩
      rintro ⟨-, overflows⟩
      cases read.symm.trans ((Request.ofJson_eq_overflow_iff request).mpr overflows)
    | error misfit =>
      cases misfit with
      | timeOverflow =>
        exact .inr ⟨⟨⟨scope, routed⟩, (Request.ofJson_eq_overflow_iff request).mp read⟩, rfl⟩
      | _ =>
        refine .inl ⟨?_, _, _, rfl⟩
        rintro ⟨-, overflows⟩
        cases read.symm.trans ((Request.ofJson_eq_overflow_iff request).mpr overflows)

end Simulator

/-! ## Replays -/

/-- The entries of a replay, from the position of the first. Without a reply are only the requests
after a refusal, and only if the replay ends there. -/
structure Replay.Replied (failFast : Bool) (first : Nat) (requests : List Json)
    (entries : List ReplayEntry) : Prop where
  positions : entries.map ReplayEntry.index = List.range' first entries.length
  length_le : entries.length ≤ requests.length
  ended : entries.length < requests.length →
    failFast = true ∧ ∃ e, entries.getLast? = some e ∧ e.reply.isError = true

namespace Replay

variable {scope : Scope} {clock : Nat → Timestamp} {failFast : Bool} {first : Nat}
  {sim sim' : Simulator} {request : Json} {requests : List Json}

theorem entriesFrom_cons {reply : Reply}
    (answered : sim.handle scope (clock first) request = .ok (reply, sim')) :
    entriesFrom scope clock failFast first sim (request :: requests) =
      if failFast && reply.isError then .ok ([⟨first, reply⟩], sim')
      else (entriesFrom scope clock failFast (first + 1) sim' requests).map
        fun (entries, last) => (⟨first, reply⟩ :: entries, last) := by
  simp only [entriesFrom, answered, bind, Except.bind]
  cases failFast && reply.isError with
  | true => rfl
  | false =>
    cases entriesFrom scope clock failFast (first + 1) sim' requests <;> rfl

theorem entriesFrom_of_halt
    (halts : sim.handle scope (clock first) request = .error .timeOverflow) :
    entriesFrom scope clock failFast first sim (request :: requests) = .error .timeOverflow := by
  simp only [entriesFrom, halts, bind, Except.bind]

theorem Replied.last {reply : Reply} (ends : (failFast && reply.isError) = true) :
    Replied failFast first (request :: requests) [⟨first, reply⟩] where
  positions := rfl
  length_le := by simp
  ended := by
    intro
    obtain ⟨failFast, refused⟩ := Bool.and_eq_true_iff.mp ends
    exact ⟨failFast, _, rfl, refused⟩

theorem Replied.cons {entries : List ReplayEntry} (reply : Reply)
    (later : Replied failFast (first + 1) requests entries) :
    Replied failFast first (request :: requests) (⟨first, reply⟩ :: entries) where
  positions := by
    rw [List.map_cons, later.positions, List.length_cons, List.range'_succ]
  length_le := Nat.succ_le_succ later.length_le
  ended := by
    intro short
    obtain ⟨failFast, e, last, refused⟩ := later.ended (Nat.lt_of_succ_lt_succ short)
    refine ⟨failFast, e, ?_, refused⟩
    rw [List.getLast?_cons, last]
    rfl

variable (scope clock failFast first sim requests)

/-- A replay has a reply to every request that it comes to, or one of the requests stops it. -/
theorem entriesFrom_cases :
    (∃ entries sim', entriesFrom scope clock failFast first sim requests = .ok (entries, sim') ∧
      Replied failFast first requests entries) ∨
    entriesFrom scope clock failFast first sim requests = .error .timeOverflow ∧
      ∃ request ∈ requests, Simulator.Stops scope request := by
  induction requests generalizing first sim with
  | nil => exact .inl ⟨[], sim, rfl, rfl, Nat.le_refl 0, nofun⟩
  | cons request requests ih =>
    obtain ⟨-, reply, sim', answered⟩ | ⟨stops, halts⟩ :=
      sim.handle_cases scope (clock first) request
    · rw [entriesFrom_cons answered]
      cases ends : failFast && reply.isError with
      | true => exact .inl ⟨_, sim', rfl, .last ends⟩
      | false =>
        obtain ⟨entries, last, done, later⟩ | ⟨halts, request, member, stops⟩ := ih (first + 1) sim'
        · exact .inl ⟨_, last, by rw [done]; rfl, later.cons reply⟩
        · exact .inr ⟨by rw [halts]; rfl, request, List.mem_cons_of_mem _ member, stops⟩
    · exact .inr ⟨entriesFrom_of_halt halts, request, List.mem_cons_self, stops⟩

end Replay

namespace Simulator

/-- A request is answered with a success or an envelope, or stops the simulator; it does that
exactly if its scope is accepted and a time bound that is too far is the first of its parameters
that does not fit. Every nearer bound is turned into a time. A replay without such requests has a
reply to every request that it comes to. -/
theorem handle_replies (fallback : Scope) :
    (∀ (sim : Simulator) (now : Timestamp) (request : Json),
      (∃ reply sim', sim.handle fallback now request = .ok (reply, sim') ∧ reply.Enveloped) ∨
      sim.handle fallback now request = .error .timeOverflow) ∧
    (∀ (sim : Simulator) (now : Timestamp) (request : Json),
      sim.handle fallback now request = .error .timeOverflow ↔ Stops fallback request) ∧
    (∀ (place : Place) (j : Json), ¬ j.IsFar →
      (∃ x, Reader.number .request j = .ok x ∧
        Reader.timestamp place j = .ok (.ofExactSeconds x.toRat)) ∨
      Reader.timestamp place j = .error (.kind j "f64")) ∧
    ∀ (config : Config) (clock : Nat → Timestamp) (failFast withMetrics : Bool)
      (requests : List Json), (∀ request ∈ requests, ¬ Stops fallback request) →
      ∃ report, Replay.run config fallback clock failFast withMetrics requests = .ok report ∧
        Replay.Replied failFast 1 requests report.entries := by
  refine ⟨?_, ?_, ?_, ?_⟩
  · intro sim now request
    obtain ⟨-, reply, sim', answered⟩ | ⟨-, halts⟩ := sim.handle_cases fallback now request
    · exact .inl ⟨reply, sim', answered, reply.enveloped⟩
    · exact .inr halts
  · intro sim now request
    obtain ⟨goesOn, reply, sim', answered⟩ | ⟨stops, halts⟩ :=
      sim.handle_cases fallback now request
    · rw [answered]
      exact ⟨nofun, fun stops => absurd stops goesOn⟩
    · exact ⟨fun _ => stops, fun _ => halts⟩
  · intro place j near
    obtain ⟨-, other⟩ | ⟨far, -⟩ | ⟨x, read, -, time⟩ := Reader.timestamp_cases place j
    · exact .inr other
    · exact absurd far near
    · exact .inl ⟨x, read, time⟩
  · intro config clock failFast withMetrics requests goOn
    obtain ⟨entries, sim', done, replied⟩ | ⟨-, request, member, stops⟩ :=
      Replay.entriesFrom_cases fallback clock failFast 1 (.ofSettings config.settings) requests
    · exact ⟨_, by unfold Replay.run; rw [done]; rfl, replied⟩
    · exact absurd stops (goOn request member)

def modelsBefore (bound : Binary64) : Json :=
  .object [("Action", .string "ListModels"), ("CreationTimeBefore", .float bound)]

/-- The bounds are 10¹⁹ and 9·10¹⁸ seconds; only the first is past the last instant. -/
theorem handle_replies_modelsBefore :
    (empty .default).handle home .epoch (modelsBefore ⟨false, 4882812500000000, 11⟩) =
      .error .timeOverflow ∧
    ∃ report, Replay.run .default home (fun _ => .epoch) false false
      [modelsBefore ⟨false, 8789062500000000, 10⟩] = .ok report ∧ report.entries.length = 1 := by
  obtain ⟨-, halts, -, replays⟩ := handle_replies home
  constructor
  · refine (halts _ _ _).mpr ⟨⟨home, rfl⟩, .listModels, _, rfl, [], _, _, [], rfl, ⟨_, rfl⟩, ?_, ?_⟩
    · decide
    · exact ⟨_, rfl, by norm_num [Binary64.toRat, Timestamp.secondsLimit, Nat.shiftLeft_eq]⟩
  · have goesOn : ¬ Stops home (modelsBefore ⟨false, 8789062500000000, 10⟩) := by
      rintro ⟨-, action, parameters, parts, earlier, bound, far, later, given, -, -, x, read, past⟩
      cases parts
      change [("CreationTimeBefore", _)] = _ at given
      have here : (bound, far) ∈ earlier ++ (bound, far) :: later := by simp
      rw [← given] at here
      cases List.mem_singleton.mp here
      cases read
      norm_num [Binary64.toRat, Timestamp.secondsLimit, Nat.shiftLeft_eq] at past
    obtain ⟨report, done, replied⟩ := replays .default (fun _ => .epoch) false false
      [modelsBefore ⟨false, 8789062500000000, 10⟩] (by simpa using goesOn)
    refine ⟨report, done, Nat.le_antisymm replied.length_le ?_⟩
    by_contra short
    obtain ⟨failFast, -⟩ := replied.ended (Nat.lt_of_not_le short)
    cases failFast

end Simulator
end NotebookSim
