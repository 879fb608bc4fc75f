import Mathlib.Data.List.Induction
import NotebookSim.Timestamp
/-!
What is done to one resource over time, and what is left of it. A resource exists when the last
turn of its history, creation or deletion, was a creation; the changes made before that turn are
forgotten.
-/
namespace NotebookSim

/-- Something done to a resource: it is created with parameters, changed, or deleted. -/
inductive Deed (P U : Type) where
  | create (p : P)
  | change (u : U)
  | delete

abbrev History (P U : Type) := List (Timestamp × Deed P U)

variable {P U R : Type}

/-- Creation and deletion are turns, a change is not. -/
def Deed.isTurn : Deed P U → Bool
  | .change _ => false
  | _ => true

/-- What becomes of a record that may be missing. -/
def Deed.apply (create : Timestamp → P → R) (change : Timestamp → U → R → R) (now : Timestamp) :
    Deed P U → Option R → Option R
  | .create p, _ => some (create now p)
  | .change u, found => found.map (change now u)
  | .delete, _ => none

namespace History

def lastTurn? (history : History P U) : Option (Timestamp × Deed P U) :=
  (history.filter fun (_, deed) => deed.isTurn).getLast?

/-- The changes since the last turn. -/
def changesSince (history : History P U) : List (Timestamp × U) :=
  history.foldl (fun changes (now, deed) =>
    match deed with
    | .change u => changes ++ [(now, u)]
    | _ => []) []

/-- What is told of a resource: its record, computed from the last creation and the changes since,
or that it is missing. -/
def told {A E : Type} (history : History P U)
    (record : Timestamp → P → List (Timestamp × U) → A) (missing : E) : Except E A :=
  match history.lastTurn? with
  | some (born, .create p) => .ok (record born p history.changesSince)
  | _ => .error missing

variable (create : Timestamp → P → R) (change : Timestamp → U → R → R)

/-- What the deeds make, one after the other, of a resource that is missing at first. -/
def outcome (history : History P U) : Option R :=
  history.foldl (fun found (now, deed) => deed.apply create change now found) none

@[simp] theorem outcome_snoc (history : History P U) (now : Timestamp) (deed : Deed P U) :
    outcome create change (history ++ [(now, deed)]) =
      deed.apply create change now (outcome create change history) := by
  simp [outcome]

theorem lastTurn?_snoc (history : History P U) (now : Timestamp) (deed : Deed P U) :
    (history ++ [(now, deed)]).lastTurn? =
      if deed.isTurn then some (now, deed) else history.lastTurn? := by
  unfold lastTurn?
  cases h : deed.isTurn <;> simp [h]

theorem changesSince_snoc (history : History P U) (now : Timestamp) (deed : Deed P U) :
    (history ++ [(now, deed)]).changesSince =
      match deed with
      | .change u => history.changesSince ++ [(now, u)]
      | _ => [] := by
  simp [changesSince]

/-- Only the last turn and the changes since count for the outcome. -/
theorem outcome_eq (history : History P U) :
    outcome create change history =
      match history.lastTurn? with
      | some (born, .create p) =>
        some (history.changesSince.foldl (fun r (now, u) => change now u r) (create born p))
      | _ => none := by
  induction history using List.reverseRecOn with
  | nil => rfl
  | append_singleton history entry ih =>
    obtain ⟨now, deed⟩ := entry
    rw [outcome_snoc, lastTurn?_snoc, changesSince_snoc, ih]
    cases deed with
    | create p => rfl
    | delete => rfl
    | change u =>
      -- the turn stays; there is something to change only if it was a creation
      simp only [Deed.isTurn, Deed.apply]
      obtain _ | ⟨born, p | u | _⟩ := lastTurn? history <;> simp

/-- What is told is the outcome. -/
theorem told_of_outcome {A E : Type} {history : History P U}
    {record : Timestamp → P → List (Timestamp × U) → A} {missing : E} {answer : R → A}
    (answered : ∀ born p changes,
      answer (changes.foldl (fun r (now, u) => change now u r) (create born p)) =
        record born p changes) :
    history.told record missing =
      (outcome create change history).elim (.error missing) fun r => .ok (answer r) := by
  rw [outcome_eq]
  unfold told
  obtain _ | ⟨born, p | u | _⟩ := lastTurn? history
  · rfl
  · exact congrArg Except.ok (answered born p _).symm
  · rfl
  · rfl

end History
end NotebookSim
