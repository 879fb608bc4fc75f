import NotebookSim.Proofs.Arn
import NotebookSim.Proofs.Enforcement
import NotebookSim.Proofs.Routing
/-!
Which resources of different scopes have the same ARN. An account has no colon and a resource type
neither colon nor slash, but a region may be any text. Two ARNs are the same exactly if their
resources are, or if one region goes on where the other ends and takes in the other's account, type
and the beginning of its name. Nothing refuses such a region.
-/
namespace NotebookSim

/-- A resource by its scope, kind and name. -/
structure Resource where
  scope : Scope
  kind : ResourceKind
  name : String
  deriving DecidableEq, Repr

/-- What precedes a separator is longer than a text without it that stands at the same front. -/
theorem prefix_of_separator {α : Type} {separator : α} {first rest before after : List α}
    (h : first ++ rest = before ++ separator :: after) (absent : separator ∉ first) :
    ∃ between, before = first ++ between ∧ rest = between ++ separator :: after := by
  obtain ⟨between, longer, rests⟩ | ⟨between, shorter, rests⟩ := List.append_eq_append_iff.mp h
  · exact ⟨between, longer, rests⟩
  · cases between with
    | nil => exact ⟨[], by simpa using shorter.symm, by simpa using rests.symm⟩
    | cons c between =>
      -- the separator would be the next character of `first`
      obtain ⟨rfl, -⟩ := List.cons_eq_cons.mp rests
      exact absurd (shorter ▸ List.mem_append_right _ List.mem_cons_self) absent

theorem ResourceKind.colon_notMem_arnType (kind : ResourceKind) : ':' ∉ kind.arnType.toList := by
  cases kind <;> decide

/-- No type begins with a digit. -/
theorem ResourceKind.arnType_cons (kind : ResourceKind) :
    ∃ c cs, kind.arnType.toList = c :: cs ∧ c.isDigit = false := by
  cases kind <;> exact ⟨_, _, rfl, rfl⟩

namespace Scope.Proper

variable {scope : Scope} (proper : scope.Proper)
include proper

theorem length_account : scope.accountId.toList.length = 12 := by
  have account := proper.account
  unfold isAccountId at account
  simp only [Bool.and_eq_true, beq_iff_eq] at account
  exact account.1

theorem isDigit_of_mem_account {c : Char} (member : c ∈ scope.accountId.toList) :
    c.isDigit = true := by
  have account := proper.account
  unfold isAccountId at account
  rw [Bool.and_eq_true] at account
  exact List.all_eq_true.mp account.2 c member

theorem colon_notMem_account : ':' ∉ scope.accountId.toList :=
  fun member => absurd (proper.isDigit_of_mem_account member) (by decide)

theorem account_cons : ∃ c cs, scope.accountId.toList = c :: cs ∧ c.isDigit = true := by
  have length := proper.length_account
  cases account : scope.accountId.toList with
  | nil => simp [account] at length
  | cons c cs =>
    exact ⟨c, cs, rfl, proper.isDigit_of_mem_account (account ▸ List.mem_cons_self)⟩

end Scope.Proper

namespace Resource

variable {r s : Resource}

def arn (r : Resource) : String := r.scope.arn r.kind r.name

/-- What an ARN has after the region and its colon. -/
def tail (r : Resource) : List Char :=
  r.scope.accountId.toList ++ ':' :: (r.kind.arnType.toList ++ '/' :: r.name.toList)

/-- The region of `s` is that of `r` with the account, the type and some of the name of `r` after
it, and the rest of that name spells what follows the region in the ARN of `s`. -/
def OverrunBy (r s : Resource) : Prop :=
  ∃ between : String,
    s.scope.region =
      r.scope.region ++ ":" ++ r.scope.accountId ++ ":" ++ r.kind.arnType ++ "/" ++ between ∧
    r.name = between ++ ":" ++ s.scope.accountId ++ ":" ++ s.kind.arnType ++ "/" ++ s.name

theorem OverrunBy.colon_mem_region (overrun : r.OverrunBy s) : ':' ∈ s.scope.region.toList := by
  obtain ⟨between, region, -⟩ := overrun
  simp [region]

theorem arn_eq_iff_tails :
    r.arn = s.arn ↔
      r.scope.region.toList ++ ':' :: r.tail = s.scope.region.toList ++ ':' :: s.tail := by
  have colon : ":".toList = [':'] := by decide
  have slash : "/".toList = ['/'] := by decide
  unfold arn Scope.arn tail
  rw [← String.toList_inj]
  simp only [String.toList_append, List.append_assoc, List.append_cancel_left_eq, colon, slash,
    List.cons_append, List.nil_append]

theorem overrunBy_iff :
    r.OverrunBy s ↔ ∃ between : List Char,
      s.scope.region.toList = r.scope.region.toList ++ ':' :: (r.scope.accountId.toList ++
        ':' :: (r.kind.arnType.toList ++ '/' :: between)) ∧
      r.name.toList = between ++ ':' :: s.tail := by
  have colon : ":".toList = [':'] := by decide
  have slash : "/".toList = ['/'] := by decide
  unfold OverrunBy tail
  constructor
  · rintro ⟨between, region, name⟩
    refine ⟨between.toList, ?_, ?_⟩
    · simp [region, colon, slash]
    · simp [name, colon, slash]
  · rintro ⟨between, region, name⟩
    refine ⟨String.ofList between, String.toList_inj.mp ?_, String.toList_inj.mp ?_⟩
    · simp [region, colon, slash]
    · simp [name, colon, slash]

theorem arn_of_overrunBy (overrun : r.OverrunBy s) : r.arn = s.arn := by
  obtain ⟨between, region, name⟩ := overrunBy_iff.mp overrun
  rw [arn_eq_iff_tails, region]
  simp [tail, name]

section Proper

variable (hr : r.scope.Proper) (hs : s.scope.Proper)
include hr hs

theorem eq_of_tails (regions : r.scope.region = s.scope.region) (tails : r.tail = s.tail) :
    r = s := by
  obtain ⟨accounts, rests⟩ :=
    split_at_separator tails hr.colon_notMem_account hs.colon_notMem_account
  obtain ⟨types, names⟩ :=
    split_at_separator rests r.kind.slash_notMem_arnType s.kind.slash_notMem_arnType
  have account := String.toList_inj.mp accounts
  have kind := ResourceKind.arnType_inj types
  have name := String.toList_inj.mp names
  change (⟨⟨r.scope.accountId, r.scope.region⟩, r.kind, r.name⟩ : Resource) =
    ⟨⟨s.scope.accountId, s.scope.region⟩, s.kind, s.name⟩
  rw [account, kind, name, regions]

/-- A region that goes on behind the other's takes in the account, the type and its slash: no colon
among them could end it. -/
theorem between_of_tails {more : List Char} (tails : r.tail = more ++ ':' :: s.tail) :
    ∃ between : List Char,
      more = r.scope.accountId.toList ++ ':' :: (r.kind.arnType.toList ++ '/' :: between) ∧
      r.name.toList = between ++ ':' :: s.tail := by
  obtain ⟨behind, rfl, rest⟩ := prefix_of_separator tails hr.colon_notMem_account
  cases behind with
  | nil =>
    -- the account of `s` would begin like the type of `r`
    obtain ⟨c, cs, type, letter⟩ := r.kind.arnType_cons
    obtain ⟨d, ds, account, digit⟩ := hs.account_cons
    have same : c = d := by
      simp only [tail, type, account, List.nil_append, List.cons_append] at rest
      exact (List.cons_eq_cons.mp (List.cons_eq_cons.mp rest).2).1
    rw [same, digit] at letter
    cases letter
  | cons c behind =>
    have absent : ':' ∉ r.kind.arnType.toList ++ ['/'] := by
      simp [r.kind.colon_notMem_arnType]
    obtain ⟨rfl, later⟩ := List.cons_eq_cons.mp rest
    rw [List.append_cons] at later
    obtain ⟨between, rfl, name⟩ := prefix_of_separator later absent
    exact ⟨between, by simp, name⟩

theorem eq_or_overrunBy {more : List Char}
    (region : s.scope.region.toList = r.scope.region.toList ++ more)
    (tails : ':' :: r.tail = more ++ ':' :: s.tail) : r = s ∨ r.OverrunBy s := by
  cases more with
  | nil =>
    have regions : r.scope.region = s.scope.region :=
      String.toList_inj.mp (by simpa using region.symm)
    exact .inl (eq_of_tails hr hs regions (List.tail_eq_of_cons_eq tails))
  | cons c more =>
    obtain ⟨rfl, later⟩ := List.cons_eq_cons.mp tails
    obtain ⟨between, rfl, name⟩ := between_of_tails hr hs later
    exact .inr (overrunBy_iff.mpr ⟨between, region, name⟩)

theorem arn_eq_iff : r.arn = s.arn ↔ r = s ∨ r.OverrunBy s ∨ s.OverrunBy r := by
  constructor
  · intro same
    obtain ⟨more, region, tails⟩ | ⟨more, region, tails⟩ :=
      List.append_eq_append_iff.mp (arn_eq_iff_tails.mp same)
    · exact (eq_or_overrunBy hr hs region tails).imp_right .inl
    · exact (eq_or_overrunBy hs hr region tails).imp Eq.symm .inr
  · rintro (rfl | overrun | overrun)
    · rfl
    · exact arn_of_overrunBy overrun
    · exact (arn_of_overrunBy overrun).symm

end Proper

/-- Regions without colons cannot overrun. -/
theorem eq_of_arn (hr : r.scope.Proper) (hs : s.scope.Proper)
    (plain : ':' ∉ r.scope.region.toList) (plain' : ':' ∉ s.scope.region.toList)
    (same : r.arn = s.arn) : r = s := by
  obtain rfl | overrun | overrun := (arn_eq_iff hr hs).mp same
  · rfl
  · exact absurd overrun.colon_mem_region plain'
  · exact absurd overrun.colon_mem_region plain

end Resource

/-! ## Created resources -/

/-- The kind and the name of the resource that a request is to create. -/
def Request.creates? : Request → Option (ResourceKind × String)
  | .createNotebook p => some (.notebookInstance, p.name)
  | .createLifecycleConfig p => some (.lifecycleConfig, p.name)
  | .createModel p => some (.model, p.name)
  | _ => none

theorem Backend.response_of_creates {b : Backend} {now : Timestamp} {request : Request}
    {kind : ResourceKind} {name : String} {response : Response}
    (creates : request.creates? = some (kind, name))
    (accepted : (b.execute now request).result = .ok response) :
    response = .created kind (b.arn kind name) := by
  cases request with
  | createNotebook p =>
    cases creates
    rw [result_createNotebook] at accepted
    split at accepted <;> cases accepted
    rfl
  | createLifecycleConfig p =>
    cases creates
    simp only [execute, Request.operation, Operation.run_createLifecycleConfig] at accepted
    cases fit : Tag.validateAll p.tags <;> cases found : b.lifecycleConfigs.find? p.name <;>
      rw [fit, found] at accepted <;> cases accepted
    rfl
  | createModel p =>
    cases creates
    simp only [execute, Request.operation, Operation.run_createModel] at accepted
    cases fit : Tag.validateAll p.tags <;> cases found : b.models.find? p.name <;>
      rw [fit, found] at accepted <;> cases accepted
    rfl
  | _ => cases creates

namespace Simulator

/-- A request that is accepted for a new resource, and the ARN that it is answered with. -/
structure Creates (sim : Simulator) (fallback : Scope) (now : Timestamp) (request : Json)
    (r : Resource) (arn : String) : Prop where
  routed : requestScope request fallback = .ok r.scope
  asked : ∃ creation, Request.ofJson request = .ok creation ∧
    creation.creates? = some (r.kind, r.name)
  answered : ∃ reply next, sim.handle fallback now request = .ok (reply, next) ∧
    reply.result = .ok (.created r.kind arn)

namespace Creates

variable {sim : Simulator} {fallback : Scope} {now : Timestamp} {request : Json} {r : Resource}
  {arn : String}

theorem proper (creates : sim.Creates fallback now request r arn) : r.scope.Proper :=
  (requestScope_eq_ok_iff.mp creates.routed).2.2

theorem arn_eq (creates : sim.Creates fallback now request r arn) {settings : Settings}
    (reached : (Registry.empty settings).Reaches sim.registry) : arn = r.arn := by
  obtain ⟨creation, parsed, asked⟩ := creates.asked
  obtain ⟨reply, next, handled, answered⟩ := creates.answered
  rw [handle_of_parsed creates.routed parsed] at handled
  have replies : (sim.dispatch r.scope now creation).1 = reply :=
    congrArg Prod.fst (Except.ok.inj handled)
  rw [← replies, dispatch_fst] at answered
  have told := Backend.response_of_creates asked answered
  have own := ((reached.sound (Registry.sound_empty settings)).backend r.scope).scope_eq
  rw [(Response.created.inj told).2]
  unfold Backend.arn Resource.arn
  rw [own]

end Creates
end Simulator

/-- In proper scopes the ARN tells the resource, unless one region overruns the other; it does so
always when no region has a colon. This decides as well whether two accepted requests are answered
with the same new ARN, on whatever simulators. -/
theorem Resource.arn_shared_iff :
    (∀ r s : Resource, r.scope.validate = .ok () → s.scope.validate = .ok () →
      (r.arn = s.arn ↔ r = s ∨ r.OverrunBy s ∨ s.OverrunBy r) ∧
      (':' ∉ r.scope.region.toList → ':' ∉ s.scope.region.toList → r.arn = s.arn → r = s)) ∧
    ∀ (settings settings' : Settings) (sim sim' : Simulator),
      (Registry.empty settings).Reaches sim.registry →
      (Registry.empty settings').Reaches sim'.registry →
      ∀ fallback fallback' now now' request request' r s arn arn',
        sim.Creates fallback now request r arn → sim'.Creates fallback' now' request' s arn' →
        (arn = arn' ↔ r = s ∨ r.OverrunBy s ∨ s.OverrunBy r) := by
  constructor
  · intro r s valid valid'
    have hr := r.scope.validate_eq_ok_iff.mp valid
    have hs := s.scope.validate_eq_ok_iff.mp valid'
    exact ⟨arn_eq_iff hr hs, eq_of_arn hr hs⟩
  · intro settings settings' sim sim' reached reached' fallback fallback' now now' request request'
      r s arn arn' creates creates'
    rw [creates.arn_eq reached, creates'.arn_eq reached']
    exact arn_eq_iff creates.proper creates'.proper

namespace Resource

/-- A model whose name ends like an ARN. -/
def narrow : Resource := ⟨Simulator.home, .model, "m:123456789012:model/m"⟩

/-- A model in a region that goes on behind `home` as an ARN does. -/
def wide : Resource :=
  ⟨⟨Simulator.home.accountId, "us-east-1:123456789012:model/m"⟩, .model, "m"⟩

/-- A request for the model, which names its region. -/
def request (r : Resource) : Json :=
  .object [("Action", .string "CreateModel"), ("ExecutionRoleArn", .string "role"),
    ("ModelName", .string r.name), ("Region", .string r.scope.region)]

end Resource

namespace Simulator

open Resource (narrow wide)

/-- The simulator after the request for the narrow model. -/
def afterNarrow : Simulator :=
  ((empty .default).dispatch home .epoch (.createModel (.minimal narrow.name "role"))).2

theorem creates_narrow :
    (empty .default).Creates home .epoch narrow.request narrow narrow.arn where
  routed := rfl
  asked := ⟨_, rfl, rfl⟩
  answered := ⟨_, afterNarrow, rfl, rfl⟩

theorem creates_wide : afterNarrow.Creates home .epoch wide.request wide wide.arn where
  routed := rfl
  asked := ⟨_, rfl, rfl⟩
  answered := ⟨_, _, rfl, rfl⟩

theorem reaches_afterNarrow : (Registry.empty .default).Reaches afterNarrow.registry := by
  have start : (Registry.empty .default).Reaches (empty .default).registry := .refl
  unfold afterNarrow
  rw [registry_dispatch, ← backend_touch]
  exact (reaches_touch start home).address home
    [(.epoch, .createModel (.minimal narrow.name "role"))]

/-- Two requests are accepted, one after the other, and create models in different scopes that have
the same ARN. -/
theorem arn_shared_acrossRegions :
    narrow.scope.validate = .ok () ∧ wide.scope.validate = .ok () ∧ narrow.scope ≠ wide.scope ∧
    narrow.name ≠ wide.name ∧ narrow.arn = wide.arn ∧
    (empty .default).Creates home .epoch narrow.request narrow narrow.arn ∧
    afterNarrow.Creates home .epoch wide.request wide wide.arn :=
  ⟨rfl, rfl, by decide, by decide, by decide, creates_narrow, creates_wide⟩

/-- Of these two models the wide one overruns the narrow one; in plain regions one name makes two
ARNs. -/
theorem arn_shared_iff_narrowWide :
    (narrow.scope.validate = .ok () ∧ wide.scope.validate = .ok () ∧
      (Registry.empty .default).Reaches afterNarrow.registry ∧
      (empty .default).Creates home .epoch narrow.request narrow narrow.arn ∧
      afterNarrow.Creates home .epoch wide.request wide wide.arn ∧
      (narrow.arn = wide.arn ↔
        narrow = wide ∨ narrow.OverrunBy wide ∨ wide.OverrunBy narrow)) ∧
    (⟨home, .model, "m"⟩ : Resource).arn ≠
      (⟨⟨home.accountId, "eu-west-1"⟩, .model, "m"⟩ : Resource).arn := by
  obtain ⟨told, created⟩ := Resource.arn_shared_iff
  refine ⟨⟨rfl, rfl, reaches_afterNarrow, creates_narrow, creates_wide, ?_⟩, ?_⟩
  · exact created _ _ _ _ .refl reaches_afterNarrow _ _ _ _ _ _ _ _ _ _ creates_narrow creates_wide
  · intro same
    have equal := (told _ _ rfl rfl).2 (by decide) (by decide) same
    revert equal
    decide

end Simulator
end NotebookSim
