import NotebookSim.Resource
/-!
Within a scope an ARN tells the kind and the name of its resource: no resource type has a slash in
it, so the first slash ends the type, whatever is in the name.
-/
namespace NotebookSim

/-- The first separator of a text is where its first part ends. -/
theorem split_at_separator {α : Type} {separator : α} {first first' rest rest' : List α}
    (h : first ++ separator :: rest = first' ++ separator :: rest')
    (absent : separator ∉ first) (absent' : separator ∉ first') :
    first = first' ∧ rest = rest' := by
  induction first generalizing first' with
  | nil =>
    cases first' with
    | nil => exact ⟨rfl, List.tail_eq_of_cons_eq h⟩
    | cons c cs => exact absurd (List.head_eq_of_cons_eq h ▸ List.mem_cons_self) absent'
  | cons c cs ih =>
    cases first' with
    | nil => exact absurd (List.head_eq_of_cons_eq h ▸ List.mem_cons_self) absent
    | cons d ds =>
      obtain ⟨rfl, tails⟩ := List.cons_eq_cons.mp h
      obtain ⟨rfl, rests⟩ :=
        ih tails (List.not_mem_of_not_mem_cons absent) (List.not_mem_of_not_mem_cons absent')
      exact ⟨rfl, rests⟩

theorem ResourceKind.slash_notMem_arnType (kind : ResourceKind) : '/' ∉ kind.arnType.toList := by
  cases kind <;> decide

theorem ResourceKind.arnType_inj {kind kind' : ResourceKind}
    (h : kind.arnType.toList = kind'.arnType.toList) : kind = kind' := by
  revert h
  cases kind <;> cases kind' <;> decide

theorem Scope.arn_inj {scope : Scope} {kind kind' : ResourceKind} {name name' : String} :
    scope.arn kind name = scope.arn kind' name' ↔ kind = kind' ∧ name = name' := by
  constructor
  · intro h
    have slash : "/".toList = ['/'] := by decide
    have chars := congrArg String.toList h
    unfold arn at chars
    simp only [String.toList_append, List.append_assoc, List.append_cancel_left_eq, slash,
      List.singleton_append] at chars
    obtain ⟨types, names⟩ :=
      split_at_separator chars kind.slash_notMem_arnType kind'.slash_notMem_arnType
    exact ⟨ResourceKind.arnType_inj types, String.toList_inj.mp names⟩
  · rintro ⟨rfl, rfl⟩
    rfl

end NotebookSim
