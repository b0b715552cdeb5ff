import CppMMO.Lib.Transition
import Mathlib.Algebra.GroupWithZero.Nat

/-! Steps that use up a measure bound the length of their runs.

The measure of a state with several threads is the sum of what each has left. -/

set_option autoImplicit false

namespace CppMMO.Lib

variable {State Label : Type} {step : State → Label → State → Prop}

/-- Where an invariant holds, the labels that cost a step use up the measure and no other adds
to it. -/
theorem Run.countP_add_measure_le (invariant : State → Prop) (measure : State → Nat)
    (costs : Label → Bool)
    (decreases : ∀ {before label after}, invariant before → step before label after →
      invariant after ∧ measure after + (costs label).toNat ≤ measure before)
    {start finish : State} {labels : List Label} (run : Run step start labels finish)
    (initially : invariant start) : labels.countP costs + measure finish ≤ measure start := by
  induction run with
  | nil => simp
  | @cons _ _ _ label _ taken _ ih =>
      obtain ⟨still, less⟩ := decreases initially taken
      have rest := ih still
      cases cost : costs label with
      | true =>
          rw [cost, Bool.toNat_true] at less
          rw [List.countP_cons_of_pos cost]
          omega
      | false =>
          rw [cost, Bool.toNat_false] at less
          rw [List.countP_cons_of_neg (by simp [cost])]
          omega

theorem Run.length_add_measure_le (measure : State → Nat)
    (decreases : ∀ {before label after}, step before label after → measure after < measure before)
    {start finish : State} {labels : List Label} (run : Run step start labels finish) :
    labels.length + measure finish ≤ measure start := by
  have counted := run.countP_add_measure_le (fun _ => True) measure (fun _ => true)
    (fun _ taken => ⟨trivial, decreases taken⟩) trivial
  simpa using counted

/-- What is served is paid for at a fixed price: from the credit of a state, from what the steps
gain, or by the labels that pay. -/
theorem Run.amortized (invariant : State → Prop) (credit gains : State → Nat)
    (serves pays : Label → Bool) (price : Nat)
    (settles : ∀ {before label after}, invariant before → step before label after →
      invariant after ∧ price * (serves label).toNat + credit after + gains before ≤
        credit before + gains after + price * (pays label).toNat)
    {start finish : State} {labels : List Label} (run : Run step start labels finish)
    (initially : invariant start) :
    price * labels.countP serves + credit finish + gains start ≤
      credit start + gains finish + price * labels.countP pays := by
  induction run with
  | nil => simp
  | @cons _ _ _ label labels taken _ ih =>
      obtain ⟨still, settled⟩ := settles initially taken
      have rest := ih still
      have served : (label :: labels).countP serves =
          labels.countP serves + (serves label).toNat := by
        cases serving : serves label <;> simp [serving]
      have paid : (label :: labels).countP pays = labels.countP pays + (pays label).toNat := by
        cases paying : pays label <;> simp [paying]
      rw [served, paid, Nat.mul_add, Nat.mul_add]
      omega

/-- Replacing one thread exchanges its share of a sum. -/
theorem sum_map_set {Thread : Type} (share : Thread → Nat) {threads : List Thread} {index : Nat}
    {old : Thread} (found : threads[index]? = some old) (new : Thread) :
    ((threads.set index new).map share).sum + share old = (threads.map share).sum + share new := by
  induction threads generalizing index with
  | nil => simp at found
  | cons first rest ih =>
      cases index with
      | zero =>
          cases found
          simp only [List.set_cons_zero, List.map_cons, List.sum_cons]
          omega
      | succ index =>
          have exchanged := ih (by simpa using found)
          simp only [List.set_cons_succ, List.map_cons, List.sum_cons]
          omega

/-- A positive sum has a thread with a share in it. -/
theorem exists_share_of_sum_pos {Thread : Type} (share : Thread → Nat) {threads : List Thread}
    (positive : 0 < (threads.map share).sum) :
    ∃ (index : Nat) (thread : Thread), threads[index]? = some thread ∧ 0 < share thread := by
  induction threads with
  | nil => simp at positive
  | cons first rest ih =>
      by_cases has : 0 < share first
      · exact ⟨0, first, rfl, has⟩
      · rw [List.map_cons, List.sum_cons] at positive
        obtain ⟨index, thread, found, shares⟩ := ih (by omega)
        exact ⟨index + 1, thread, found, shares⟩

end CppMMO.Lib
