import NotebookSim.Metrics
import NotebookSim.Proofs.Entries
/-!
Counters as a map from counters to numbers. To count is to add one at one place; a sum of counters
grows with each of its counters that is counted.
-/
namespace NotebookSim.Metrics

theorem lookup_increment (c d : Counter) (counts : List (Counter × Nat)) :
    ((increment c counts).lookup d).getD 0 =
      (counts.lookup d).getD 0 + if c = d then 1 else 0 := by
  induction counts with
  | nil =>
    unfold increment
    rw [Entries.lookup_cons]
    by_cases here : c = d <;> simp [here]
  | cons entry counts ih =>
    obtain ⟨k, n⟩ := entry
    unfold increment
    rw [Entries.lookup_cons]
    by_cases found : k = c
    · subst found
      rw [if_pos rfl, Entries.lookup_cons]
      by_cases here : k = d <;> simp [here]
    · rw [if_neg found, Entries.lookup_cons]
      by_cases here : k = d
      · subst here
        simp [Ne.symm found]
      · simp only [if_neg here, ih]

theorem count_add (m : Metrics) (c d : Counter) :
    (m.add c).count d = m.count d + if c = d then 1 else 0 :=
  lookup_increment c d m.counts

theorem count_addAll (m : Metrics) (cs : List Counter) (d : Counter) :
    (m.addAll cs).count d = m.count d + cs.count d := by
  induction cs generalizing m with
  | nil => rfl
  | cons c cs ih =>
    have later : (m.addAll (c :: cs)).count d = (m.add c).count d + cs.count d := ih (m.add c)
    simp only [later, count_add, List.count_cons, beq_iff_eq]
    omega

theorem total_cons (c : Counter) (n : Nat) (counts : List (Counter × Nat)) (gauge : Option Nat)
    (p : Counter → Bool) :
    total ⟨(c, n) :: counts, gauge⟩ p = (if p c then n else 0) + total ⟨counts, gauge⟩ p := by
  by_cases chosen : p c = true
  · simp [total, chosen]
  · simp [total, chosen]

theorem total_add (m : Metrics) (c : Counter) (p : Counter → Bool) :
    (m.add c).total p = m.total p + if p c then 1 else 0 := by
  obtain ⟨counts, gauge⟩ := m
  change total ⟨increment c counts, gauge⟩ p = _
  induction counts with
  | nil =>
    unfold increment
    rw [total_cons, Nat.add_comm]
  | cons entry counts ih =>
    obtain ⟨k, n⟩ := entry
    unfold increment
    by_cases found : k = c
    · subst found
      rw [if_pos rfl, total_cons, total_cons]
      split <;> omega
    · rw [if_neg found, total_cons, total_cons, ih, Nat.add_assoc]

theorem total_addAll (m : Metrics) (cs : List Counter) (p : Counter → Bool) :
    (m.addAll cs).total p = m.total p + cs.countP p := by
  induction cs generalizing m with
  | nil => rfl
  | cons c cs ih =>
    have later : (m.addAll (c :: cs)).total p = (m.add c).total p + cs.countP p := ih (m.add c)
    rw [later, total_add, List.countP_cons]
    omega

@[simp] theorem addAll_append (m : Metrics) (cs ds : List Counter) :
    m.addAll (cs ++ ds) = (m.addAll cs).addAll ds :=
  List.foldl_append

@[simp] theorem activeBackends_addAll (m : Metrics) (cs : List Counter) :
    (m.addAll cs).activeBackends = m.activeBackends := by
  induction cs generalizing m with
  | nil => rfl
  | cons c cs ih => exact ih (m.add c)

/-- The gauge has no part in counting. -/
theorem counts_addAll (m : Metrics) (cs : List Counter) :
    (m.addAll cs).counts = cs.foldl (fun counts c => increment c counts) m.counts := by
  induction cs generalizing m with
  | nil => rfl
  | cons c cs ih => exact ih (m.add c)

end NotebookSim.Metrics
