import Mathlib
import NotebookSim.CommandLine.Execution
import NotebookSim.Proofs.Isolation
import NotebookSim.Proofs.Replay
/-!
Replays that end at a refusal. Such a replay is the whole one cut after its first refusal, so it has
at most one; the command that asked for it ends with that very refusal as its error, and any other
replay is a success whatever the replies are.
-/
namespace NotebookSim

theorem Simulator.not_stops {fallback : Scope} {request : Json} {reply : Reply}
    {sim' : Simulator} (sim : Simulator) (now : Timestamp)
    (answered : sim.handle fallback now request = .ok (reply, sim')) :
    ¬ Stops fallback request := by
  obtain ⟨goesOn, -⟩ | ⟨-, halts⟩ := sim.handle_cases fallback now request
  · exact goesOn
  · cases answered.symm.trans halts

namespace Replay

variable {scope : Scope} {clock : Nat → Timestamp} {first : Nat} {sim : Simulator}
  {requests : List Json}

/-- The entries up to the first refusal, that one included. -/
def upToRefusal (entries : List ReplayEntry) : List ReplayEntry :=
  entries.take (entries.findIdx (·.reply.isError) + 1)

theorem upToRefusal_cons (e : ReplayEntry) (entries : List ReplayEntry) :
    upToRefusal (e :: entries) =
      if e.reply.isError then [e] else e :: upToRefusal entries := by
  unfold upToRefusal
  rw [List.findIdx_cons]
  cases e.reply.isError <;> simp

theorem countP_upToRefusal_le (entries : List ReplayEntry) :
    (upToRefusal entries).countP (·.reply.isError) ≤ 1 := by
  induction entries with
  | nil => simp [upToRefusal]
  | cons e entries ih =>
    rw [upToRefusal_cons]
    cases refused : e.reply.isError <;> simp [refused, ih]

/-- The entries are the replies to the requests in their order, as far as they go. The `k`-th
request is put to the simulator `before k`, and positions are counted from `first`. -/
def Answered (scope : Scope) (clock : Nat → Timestamp) (before : Nat → Simulator) (first : Nat)
    (requests : List Json) (entries : List ReplayEntry) : Prop :=
  ∀ k e, entries[k]? = some e → e.index = first + k ∧
    ∃ request, requests[k]? = some request ∧
      (before k).handle scope (clock e.index) request = .ok (e.reply, before (k + 1))

namespace Answered

variable {before : Nat → Simulator} {entries : List ReplayEntry}

theorem nil : Answered scope clock before first requests [] := by
  intro k e shown
  cases shown

theorem take (answered : Answered scope clock before first requests entries) (n : Nat) :
    Answered scope clock before first requests (entries.take n) := by
  intro k e shown
  rw [List.getElem?_take] at shown
  split at shown
  · exact answered k e shown
  · cases shown

theorem cons {request : Json} {reply : Reply}
    (replied : sim.handle scope (clock first) request = .ok (reply, before 0))
    (later : Answered scope clock before (first + 1) requests entries) :
    Answered scope clock (fun k => if k = 0 then sim else before (k - 1)) first
      (request :: requests) (⟨first, reply⟩ :: entries) := by
  intro k e shown
  cases k with
  | zero =>
    cases shown
    exact ⟨rfl, request, rfl, replied⟩
  | succ k =>
    obtain ⟨index, asked, there, replied⟩ := later k e shown
    exact ⟨by rw [index]; omega, asked, there, replied⟩

end Answered

/-- Without a request that stops the simulator the whole script is answered. -/
theorem exists_whole (clock : Nat → Timestamp) (first : Nat) (sim : Simulator)
    (goOn : ∀ request ∈ requests, ¬ Simulator.Stops scope request) :
    ∃ before entries last, before 0 = sim ∧ entries.length = requests.length ∧
      entriesFrom scope clock false first sim requests = .ok (entries, last) ∧
      Answered scope clock before first requests entries := by
  induction requests generalizing first sim with
  | nil => exact ⟨fun _ => sim, [], sim, rfl, rfl, rfl, .nil⟩
  | cons request requests ih =>
    obtain ⟨here, later⟩ := List.forall_mem_cons.mp goOn
    obtain ⟨-, reply, next, replied⟩ | ⟨stops, -⟩ :=
      sim.handle_cases scope (clock first) request
    · obtain ⟨before, entries, last, rfl, length, done, answered⟩ := ih (first + 1) next later
      refine ⟨_, ⟨first, reply⟩ :: entries, last, if_pos rfl, congrArg Nat.succ length, ?_,
        answered.cons replied⟩
      rw [entriesFrom_cons replied, done]
      rfl
    · exact absurd stops here

/-- To end at a refusal is to cut the whole replay there. -/
theorem entriesFrom_failFast {entries : List ReplayEntry} {last : Simulator}
    (done : entriesFrom scope clock false first sim requests = .ok (entries, last)) :
    ∃ last', entriesFrom scope clock true first sim requests =
      .ok (upToRefusal entries, last') := by
  induction requests generalizing first sim entries with
  | nil =>
    cases done
    exact ⟨last, rfl⟩
  | cons request requests ih =>
    obtain ⟨-, reply, next, replied⟩ | ⟨-, halts⟩ := sim.handle_cases scope (clock first) request
    · rw [entriesFrom_cons replied] at done ⊢
      cases later : entriesFrom scope clock false (first + 1) next requests with
      | error halt =>
        rw [later] at done
        cases done
      | ok rest =>
        obtain ⟨entries, last⟩ := rest
        rw [later] at done
        cases done
        -- at a refusal the one replay ends, and what the other does after it is cut off
        rw [upToRefusal_cons]
        cases reply.isError with
        | true => exact ⟨next, rfl⟩
        | false =>
          obtain ⟨last', cut⟩ := ih later
          exact ⟨last', by rw [cut]; rfl⟩
    · rw [entriesFrom_of_halt halts] at done
      cases done

theorem run_of_entriesFrom {config : Config} {failFast : Bool} {entries : List ReplayEntry}
    {last : Simulator}
    (done : entriesFrom scope clock failFast 1 (.ofSettings config.settings) requests =
      .ok (entries, last)) (withMetrics : Bool) :
    run config scope clock failFast withMetrics requests =
      .ok ⟨entries, if withMetrics then some last.metrics else none⟩ := by
  unfold run
  rw [done]
  rfl

/-- What a report tells of a script whose whole replay has the entries `whole`. -/
structure Reports (scope : Scope) (clock : Nat → Timestamp) (before : Nat → Simulator)
    (requests : List Json) (whole : List ReplayEntry) (failFast : Bool) (report : ReplayReport) :
    Prop where
  entries : report.entries = if failFast then upToRefusal whole else whole
  answered : Answered scope clock before 1 requests report.entries
  refusals : report.failed = (report.entries.filter (·.reply.isError)).length
  total : report.succeeded + report.failed = report.entries.length
  single : failFast = true → report.failed ≤ 1

end Replay

namespace ReplayReport

variable {report : ReplayReport}

theorem succeeded_add_failed (report : ReplayReport) :
    report.succeeded + report.failed = report.entries.length :=
  Nat.sub_add_cancel List.countP_le_length

theorem firstRefusal?_eq_none_iff :
    report.firstRefusal? = none ↔ ∀ e ∈ report.entries, e.reply.isError = false := by
  simp [firstRefusal?, Reply.isError]

/-- The only refusal is the first. -/
theorem firstRefusal?_of_single (single : report.failed ≤ 1) {k : Nat} {e : ReplayEntry}
    {refusal : ServiceError} (shown : report.entries[k]? = some e)
    (refused : e.reply.result = .error refusal) :
    report.firstRefusal? = some (e.index, e.reply.action, refusal) := by
  have error : e.reply.error? = some refusal := by simp [Reply.error?, refused]
  obtain ⟨earlier, later, split⟩ := List.append_of_mem (List.mem_of_getElem? shown)
  unfold failed at single
  unfold firstRefusal?
  rw [split] at single ⊢
  have clean : ∀ d ∈ earlier, d.reply.error? = none := by
    have isError : e.reply.isError = true := by simp [Reply.isError, error]
    simp only [List.countP_append, List.countP_cons, isError, if_true] at single
    have none := List.countP_eq_zero.mp (show earlier.countP (·.reply.isError) = 0 by omega)
    simpa [Reply.isError] using none
  rw [List.findSome?_append, List.findSome?_eq_none_iff.mpr (by simpa using clean)]
  simp [error]

end ReplayReport

theorem Replay.Reports.of_entries {scope : Scope} {clock : Nat → Timestamp}
    {before : Nat → Simulator} {requests : List Json} {whole : List ReplayEntry}
    {failFast : Bool} {report : ReplayReport}
    (answered : Answered scope clock before 1 requests whole)
    (entries : report.entries = if failFast then upToRefusal whole else whole) :
    Reports scope clock before requests whole failFast report where
  entries := entries
  answered := by
    rw [entries]
    split
    · exact answered.take _
    · exact answered
  refusals := List.countP_eq_length_filter
  total := report.succeeded_add_failed
  single := by
    intro ends
    rw [ReplayReport.failed, entries, if_pos ends]
    exact countP_upToRefusal_le whole

namespace RunCommand

/-- How a replay ends the command that asked for it. -/
structure Concludes (failFast : Bool) (report : ReplayReport) (outcome : Outcome) :
    Prop where
  reported : outcome.report = some (.replay report)
  succeeds : failFast = false ∨ (∀ e ∈ report.entries, e.reply.isError = false) →
    outcome.error = none ∧ outcome.exitCode = 0
  fails : failFast = true → ∀ k e refusal, report.entries[k]? = some e →
    e.reply.result = .error refusal →
      outcome.error = some (.requestFailed (k + 1) e.reply.action
        (refusal.body.code ++ ": " ++ refusal.body.message)) ∧
      outcome.exitCode = 1

theorem concludes {r : RunCommand} {report : ReplayReport}
    (single : r.failFast = true → report.failed ≤ 1)
    (positions : ∀ k e, report.entries[k]? = some e → e.index = 1 + k) :
    Concludes r.failFast report ⟨some (.replay report), r.errorOf report⟩ where
  reported := rfl
  succeeds := by
    intro clean
    have fine : r.errorOf report = none := by
      unfold errorOf
      cases ends : r.failFast with
      | false => rfl
      | true =>
        have none := clean.resolve_left (by simp [ends])
        rw [ReplayReport.firstRefusal?_eq_none_iff.mpr none]
        rfl
    simp [Outcome.exitCode, fine]
  fails := by
    intro ends k e refusal shown refused
    have error : r.errorOf report = some (.requestFailed (k + 1) e.reply.action
        (refusal.body.code ++ ": " ++ refusal.body.message)) := by
      unfold errorOf
      rw [if_pos ends, ReplayReport.firstRefusal?_of_single (single ends) shown refused,
        positions k e shown, Nat.add_comm]
      rfl
    simp [Outcome.exitCode, error, CommandError.exitCode]

theorem execute_of_script {files : Files} {env : Environment} {clock : Nat → Timestamp}
    {i : Invocation} {r : RunCommand} {config : Config} {requests : List Json}
    {report : ReplayReport} (asked : i.command = .run r)
    (loaded : Config.loadOrDefault files env i.configPath = .ok config)
    (scripted : readScript files r.script = .ok requests)
    (done : Replay.run config (r.scope config) clock r.failFast r.metrics requests = .ok report) :
    CommandLine.execute ⟨files, env, clock⟩ i =
      .ok ⟨some (.replay report), r.errorOf report⟩ := by
  simp only [CommandLine.execute, asked, loaded, execute, scripted, done]
  rfl

end RunCommand

namespace Replay

/-- The whole replay of a script answers all its requests, and one that ends at a refusal is the
whole one cut there; metrics make no difference. Both number their replies from 1, each is the reply
to the request at its position, and the refusals are counted, of which a replay that ends at one has
no second. The command that replays a script it could load ends with the refusal as its error if it
was to end there, and without an error otherwise. -/
theorem replay_upToRefusal (config : Config) (scope : Scope) (clock : Nat → Timestamp)
    (requests : List Json) (goOn : ∀ request ∈ requests, ¬ Simulator.Stops scope request) :
    ∃ before whole, before 0 = .ofSettings config.settings ∧
      whole.length = requests.length ∧
      (∀ failFast withMetrics, ∃ report,
        run config scope clock failFast withMetrics requests = .ok report ∧
        Reports scope clock before requests whole failFast report) ∧
      ∀ (files : Files) (env : Environment) (i : Invocation) (r : RunCommand),
        i.command = .run r → Config.loadOrDefault files env i.configPath = .ok config →
        RunCommand.readScript files r.script = .ok requests → r.scope config = scope →
        ∃ report outcome,
          run config scope clock r.failFast r.metrics requests = .ok report ∧
          CommandLine.execute ⟨files, env, clock⟩ i = .ok outcome ∧
          RunCommand.Concludes r.failFast report outcome := by
  obtain ⟨before, whole, last, start, length, done, answered⟩ :=
    exists_whole clock 1 (.ofSettings config.settings) goOn
  have replays (failFast withMetrics : Bool) : ∃ report,
      run config scope clock failFast withMetrics requests = .ok report ∧
      Reports scope clock before requests whole failFast report := by
    cases failFast with
    | false => exact ⟨_, run_of_entriesFrom done withMetrics, .of_entries answered rfl⟩
    | true =>
      obtain ⟨last', cut⟩ := entriesFrom_failFast done
      exact ⟨_, run_of_entriesFrom cut withMetrics, .of_entries answered rfl⟩
  refine ⟨before, whole, start, length, replays, ?_⟩
  rintro files env i r asked loaded scripted rfl
  obtain ⟨report, done, told⟩ := replays r.failFast r.metrics
  exact ⟨report, _, done, RunCommand.execute_of_script asked loaded scripted done,
    RunCommand.concludes told.single fun k e shown => (told.answered k e shown).1⟩

/-- A script that deletes a model which does not exist. -/
def missingModel : String :=
  "[\x7b\"Action\":\"ListModels\"\x7d," ++
    "\x7b\"Action\":\"DeleteModel\",\"ModelName\":\"m\"\x7d,\x7b\"Action\":\"ListModels\"\x7d]"

def missingModelRequests : List Json :=
  let listing : Json := .object [("Action", .string "ListModels")]
  [listing, .object [("Action", .string "DeleteModel"), ("ModelName", .string "m")], listing]

def replayMissingModel : Invocation :=
  ⟨.run ⟨"script.json", none, none, true, false⟩, "sagesim.toml", none, .text⟩

/-- There is no configuration file. -/
def besideMissingModel : Surroundings where
  files path := if path = "script.json" then .ok missingModel else .error .notFound
  env _ := none
  clock _ := .epoch

/-- The deletion is refused, and the command ends with that. -/
theorem replay_upToRefusal_missingModel :
    ∃ report outcome,
      run .default Simulator.home (fun _ => .epoch) true false missingModelRequests = .ok report ∧
      report.succeeded + report.failed = 2 ∧ report.failed ≤ 1 ∧
      CommandLine.execute besideMissingModel replayMissingModel = .ok outcome ∧
      outcome.report = some (.replay report) ∧
      outcome.error = some (.requestFailed 2 "DeleteModel"
        ("ValidationException: Could not find model " ++
          "\"arn:aws:sagemaker:us-east-1:123456789012:model/m\".")) ∧
      outcome.exitCode = 1 := by
  have goOn : ∀ request ∈ missingModelRequests, ¬ Simulator.Stops Simulator.home request := by
    simp only [missingModelRequests, List.forall_mem_cons]
    exact ⟨Simulator.not_stops (.empty .default) .epoch rfl,
      Simulator.not_stops (.empty .default) .epoch rfl,
      Simulator.not_stops (.empty .default) .epoch rfl, nofun⟩
  obtain ⟨before, whole, -, -, replays, commands⟩ :=
    replay_upToRefusal .default Simulator.home (fun _ => .epoch) missingModelRequests goOn
  obtain ⟨report, done, told⟩ := replays true false
  have scripted : RunCommand.readScript besideMissingModel.files "script.json" =
      .ok missingModelRequests := by cbv
  obtain ⟨_, outcome, again, executed, concluded⟩ :=
    commands _ besideMissingModel.env replayMissingModel _ rfl rfl scripted rfl
  cases done.symm.trans again
  obtain ⟨_, ran, two, e, second, action, refused⟩ : ∃ shown,
      run .default Simulator.home (fun _ => .epoch) true false missingModelRequests = .ok shown ∧
      shown.entries.length = 2 ∧ ∃ e, shown.entries[1]? = some e ∧
        e.reply.action = "DeleteModel" ∧ e.reply.result =
          .error (.modelNotFound "arn:aws:sagemaker:us-east-1:123456789012:model/m") :=
    ⟨_, rfl, rfl, _, rfl, rfl, rfl⟩
  cases done.symm.trans ran
  obtain ⟨error, code⟩ := concluded.fails rfl 1 e _ second refused
  refine ⟨_, _, done, told.total.trans two, told.single rfl, executed, concluded.reported, ?_, code⟩
  rw [error, action]
  rfl

end Replay
end NotebookSim
