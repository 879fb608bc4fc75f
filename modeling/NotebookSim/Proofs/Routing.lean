import NotebookSim.Proofs.Isolation
/-!
Which scope a request is carried out in. It is the one whose account and region the request gives as
texts. A text that cannot be an account or a region is refused; a value that is no text is passed
over, and the fallback stands in its place.
-/
namespace NotebookSim

/-- A scope that requests can be carried out in. -/
structure Scope.Proper (scope : Scope) : Prop where
  account : Scope.isAccountId scope.accountId = true
  region : scope.region ≠ ""

theorem Scope.validate_eq_ok_iff (scope : Scope) : scope.validate = .ok () ↔ scope.Proper := by
  unfold validate
  constructor
  · intro accepted
    by_cases account : Scope.isAccountId scope.accountId = true
    · by_cases region : scope.region = ""
      · simp [account, region] at accepted
      · exact ⟨account, region⟩
    · simp [account] at accepted
  · rintro ⟨account, region⟩
    simp [account, region]

namespace Json

/-- The text that a request gives under a name, or the fallback if it gives none. -/
def GivesOr (request : Json) (name fallback text : String) : Prop :=
  request.member? name = some (.string text) ∨
    (∀ given, request.member? name ≠ some (.string given)) ∧ text = fallback

/-- A request gives a text in the place of an account or a region that cannot be one. -/
def MisnamesScope (request : Json) : Prop :=
  (∃ account, request.member? "AccountId" = some (.string account) ∧
    Scope.isAccountId account = false) ∨
  request.member? "Region" = some (.string "")

variable {request : Json} {name fallback text : String}

theorem givesOr_iff :
    request.GivesOr name fallback text ↔ (request.stringMember? name).getD fallback = text := by
  unfold GivesOr stringMember?
  cases request.member? name with
  | none => simp [eq_comm]
  | some j => cases j <;> simp [string?, eq_comm]

theorem GivesOr.eq_of_given {given : String} (gives : request.GivesOr name fallback text)
    (here : request.member? name = some (.string given)) : text = given := by
  obtain same | ⟨none, -⟩ := gives
  · exact string.inj (Option.some.inj (same.symm.trans here))
  · exact absurd here (none given)

/-- What holds of every text that may be given, and of the fallback, holds of the one that counts. -/
theorem exists_givesOr {p : String → Prop}
    (given : ∀ text, request.member? name = some (.string text) → p text) (instead : p fallback) :
    ∃ text, request.GivesOr name fallback text ∧ p text := by
  by_cases gives : ∃ text, request.member? name = some (.string text)
  · obtain ⟨text, here⟩ := gives
    exact ⟨text, .inl here, given text here⟩
  · exact ⟨fallback, .inr ⟨not_exists.mp gives, rfl⟩, instead⟩

end Json

/-! ## The scope of a request -/

section RequestScope

variable {request : Json} {fallback scope : Scope}

theorem requestScope_eq_ok_iff :
    requestScope request fallback = .ok scope ↔
      request.GivesOr "AccountId" fallback.accountId scope.accountId ∧
      request.GivesOr "Region" fallback.region scope.region ∧ scope.Proper := by
  rw [Json.givesOr_iff, Json.givesOr_iff, ← Scope.validate_eq_ok_iff]
  unfold requestScope
  constructor
  · intro routed
    cases valid : Scope.validate ⟨(request.stringMember? "AccountId").getD fallback.accountId,
        (request.stringMember? "Region").getD fallback.region⟩ with
    | error e =>
      simp only [valid] at routed
      cases routed
    | ok =>
      simp only [valid] at routed
      cases routed
      exact ⟨rfl, rfl, valid⟩
  · rintro ⟨account, region, valid⟩
    rw [account, region]
    simp only [valid]
    rfl

theorem requestScope_of_misnamed (misnames : request.MisnamesScope) (fallback : Scope) :
    ∃ e, requestScope request fallback = .error e := by
  cases routed : requestScope request fallback with
  | error e => exact ⟨e, rfl⟩
  | ok scope =>
    obtain ⟨account, region, proper⟩ := requestScope_eq_ok_iff.mp routed
    obtain ⟨text, given, wrong⟩ | given := misnames
    · have right := proper.account
      rw [account.eq_of_given given, wrong] at right
      cases right
    · exact absurd (region.eq_of_given given) proper.region

/-- With a proper fallback nothing else is refused. -/
theorem requestScope_accepts_iff (proper : fallback.Proper) :
    (∃ scope, requestScope request fallback = .ok scope) ↔ ¬ request.MisnamesScope := by
  constructor
  · rintro ⟨scope, routed⟩ misnames
    obtain ⟨e, refused⟩ := requestScope_of_misnamed misnames fallback
    cases routed.symm.trans refused
  · intro named
    obtain ⟨accounts, regions⟩ := not_or.mp named
    have right (text : String) (given : request.member? "AccountId" = some (.string text)) :
        Scope.isAccountId text = true := by
      cases checked : Scope.isAccountId text with
      | true => rfl
      | false => exact absurd ⟨text, given, checked⟩ accounts
    have inRegion (text : String) (given : request.member? "Region" = some (.string text)) :
        text ≠ "" := by
      rintro rfl
      exact regions given
    obtain ⟨account, givesAccount, isAccount⟩ := Json.exists_givesOr right proper.account
    obtain ⟨region, givesRegion, isRegion⟩ := Json.exists_givesOr inRegion proper.region
    exact ⟨⟨account, region⟩,
      requestScope_eq_ok_iff.mpr ⟨givesAccount, givesRegion, isAccount, isRegion⟩⟩

end RequestScope

/-! ## What a request reads and writes -/

namespace Simulator

/-- The reply to a request, and the backend it leaves in a scope, are the same in every simulator
that has the same backend there; all other scopes are left alone. -/
structure ConfinedTo (scope : Scope) (sim : Simulator) (fallback : Scope) (now : Timestamp)
    (request : Json) (reply : Reply) (next : Simulator) : Prop where
  reads : ∀ other, SameAt scope sim other → ∃ left,
    other.handle fallback now request = .ok (reply, left) ∧ SameAt scope next left
  writes : ∀ away, away ≠ scope → next.registry.find? away = sim.registry.find? away

theorem dispatch_confined {fallback scope : Scope} {request : Json} {r : Request}
    (routed : requestScope request fallback = .ok scope) (parsed : Request.ofJson request = .ok r)
    (sim : Simulator) (now : Timestamp) :
    ConfinedTo scope sim fallback now request (sim.dispatch scope now r).1
      (sim.dispatch scope now r).2 where
  reads := by
    intro other same
    obtain ⟨replies, left⟩ := same.dispatch now r
    exact ⟨(other.dispatch scope now r).2, by rw [handle_of_parsed routed parsed, replies], left⟩
  writes := by
    intro away elsewhere
    rw [find?_dispatch, if_neg (Ne.symm elsewhere)]

/-- A request that misnames its scope is refused and changes no backend. Any other answer comes of
the scope that the request names, by texts or by leaving the fallback in their place, and of no
other backend; the rest is refused unread. With a proper fallback, only misnaming makes a scope
refused. -/
theorem handle_routed (fallback : Scope) (request : Json) :
    (request.MisnamesScope → ∀ (sim : Simulator) (now : Timestamp),
      ∃ reply next, sim.handle fallback now request = .ok (reply, next) ∧ reply.statusCode = 400 ∧
        (∃ message, reply.body = [("Error", .object
          [("Code", .string "ValidationException"), ("Message", .string message)])]) ∧
        next.registry = sim.registry) ∧
    (∀ (sim next : Simulator) (now : Timestamp) (reply : Reply),
      sim.handle fallback now request = .ok (reply, next) →
      (Unread fallback request ∧ reply.isError = true ∧ next.registry = sim.registry) ∨
      ∃ scope, request.GivesOr "AccountId" fallback.accountId scope.accountId ∧
        request.GivesOr "Region" fallback.region scope.region ∧ scope.Proper ∧
        ConfinedTo scope sim fallback now request reply next) ∧
    (fallback.Proper →
      ((∃ scope, requestScope request fallback = .ok scope) ↔ ¬ request.MisnamesScope)) := by
  refine ⟨?_, ?_, requestScope_accepts_iff⟩
  · intro misnames sim now
    obtain ⟨e, refused⟩ := requestScope_of_misnamed misnames fallback
    have answered : sim.handle fallback now request = .ok (sim.reject request e) := by
      simp only [handle, refused]
    exact ⟨_, _, answered, rfl, ⟨e.message, rfl⟩, rfl⟩
  · intro sim next now reply answered
    obtain ⟨scope, r, routed, parsed⟩ | unread := parsed_or_unread fallback request
    · right
      obtain ⟨account, region, proper⟩ := requestScope_eq_ok_iff.mp routed
      rw [handle_of_parsed routed parsed] at answered
      cases answered
      exact ⟨scope, account, region, proper, dispatch_confined routed parsed sim now⟩
    · left
      obtain halts | ⟨e, rejects⟩ := handle_of_unread unread
      · rw [halts] at answered
        cases answered
      · rw [rejects] at answered
        cases answered
        exact ⟨unread, rfl, rfl⟩

/-- An account given as a short text is refused. Given as a number it is passed over, and the model
is created in the account that the caller did not name. -/
theorem handle_routed_numbered :
    (∃ reply next, (empty .default).handle home .epoch
        (modelCreation [("AccountId", .string "2109")]) = .ok (reply, next) ∧
      reply.statusCode = 400 ∧ next.registry.isEmpty = true) ∧
    ∃ reply next, (empty .default).handle home .epoch
        (modelCreation [("AccountId", .integer 210987654321)]) = .ok (reply, next) ∧
      reply.statusCode = 200 ∧
      ConfinedTo home (empty .default) home .epoch
        (modelCreation [("AccountId", .integer 210987654321)]) reply next ∧
      ∃ b, next.registry.find? home = some b ∧ b.models.names = ["m"] := by
  constructor
  · obtain ⟨refused, -, -⟩ := handle_routed home (modelCreation [("AccountId", .string "2109")])
    obtain ⟨reply, next, answered, status, -, kept⟩ :=
      refused (.inl ⟨"2109", rfl, by decide⟩) (empty .default) .epoch
    exact ⟨reply, next, answered, status, by rw [kept]; rfl⟩
  · obtain ⟨-, confined, -⟩ :=
      handle_routed home (modelCreation [("AccountId", .integer 210987654321)])
    obtain ⟨-, refused, -⟩ | ⟨⟨account, region⟩, givesAccount, givesRegion, -, here⟩ :=
      confined (empty .default) _ .epoch _ rfl
    · cases refused
    · have sameAccount : home.accountId = account := Json.givesOr_iff.mp givesAccount
      have sameRegion : home.region = region := Json.givesOr_iff.mp givesRegion
      subst sameAccount sameRegion
      exact ⟨_, _, rfl, rfl, here, _, rfl, rfl⟩

end Simulator
end NotebookSim
