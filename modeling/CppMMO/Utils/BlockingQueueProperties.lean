import Mathlib.Data.List.Perm.Basic
import CppMMO.Utils.BlockingQueue

/-! What becomes of the items of a queue, over every interleaving of its calls. -/

set_option autoImplicit false

namespace CppMMO.Utils

open CppMMO.Lib CppMMO.Game

/-- Replacing an element exchanges what it contributes. -/
theorem count_flatMap_set {α β : Type} [DecidableEq β] (contribution : α → List β) (item : β)
    {elements : List α} {index : Nat} {old : α} (found : elements[index]? = some old) (new : α) :
    ((elements.set index new).flatMap contribution).count item + (contribution old).count item =
      (elements.flatMap contribution).count item + (contribution new).count item := by
  induction elements generalizing index with
  | nil => simp at found
  | cons first rest ih =>
      cases index with
      | zero =>
          cases found
          simp only [List.set_cons_zero, List.flatMap_cons, List.count_append]
          omega
      | succ index =>
          have exchanged := ih (by simpa using found)
          simp only [List.set_cons_succ, List.flatMap_cons, List.count_append]
          omega

theorem forall_mem_set_iff {α : Type} (property : α → Prop) {elements : List α} {index : Nat}
    {old new : α} (found : elements[index]? = some old) (same : property new ↔ property old) :
    (∀ element ∈ elements.set index new, property element) ↔
      ∀ element ∈ elements, property element := by
  induction elements generalizing index with
  | nil => simp at found
  | cons first rest ih =>
      cases index with
      | zero =>
          cases found
          simp [same]
      | succ index =>
          have others := ih (by simpa using found)
          simp only [List.set_cons_succ, List.forall_mem_cons, others]

namespace Pop

variable {Item : Type}

/-- The call still has whatever it took out of the queue. -/
def Keeps (pop : Pop Item) : Prop := pop.dequeued = pop.job.toList

/-- A call takes nothing before the wait is over, and loses nothing before its second
dequeue. -/
def WellFormed (pop : Pop Item) : Prop :=
  match pop.phase with
  | .lock | .predicateDequeue | .predicateShuttingDown | .waiting =>
      pop.job = none ∧ pop.dequeued = []
  | .loadShuttingDown | .dequeueAgain => pop.Keeps
  | .returned => pop.job.toList.Sublist pop.dequeued

@[simp] theorem wake_dequeued (pop : Pop Item) : pop.wake.dequeued = pop.dequeued := by
  unfold wake
  split <;> rfl

@[simp] theorem wake_job (pop : Pop Item) : pop.wake.job = pop.job := by
  unfold wake
  split <;> rfl

@[simp] theorem wake_keeps_iff (pop : Pop Item) : pop.wake.Keeps ↔ pop.Keeps := by
  simp [Keeps]

theorem WellFormed.wake {pop : Pop Item} (wellFormed : pop.WellFormed) : pop.wake.WellFormed := by
  unfold Pop.wake
  split
  · next waiting =>
      unfold WellFormed at wellFormed ⊢
      rw [waiting] at wellFormed
      exact wellFormed
  · exact wellFormed

end Pop

namespace BlockingQueue

variable {Item : Type}

theorem tryDequeue_perm {items rest : List Item} {choice : Nat} {taken : Option Item}
    (dequeued : tryDequeue items choice = some (taken, rest)) :
    (taken.toList ++ rest).Perm items := by
  unfold tryDequeue at dequeued
  split at dequeued
  · cases dequeued
    exact .refl _
  · obtain ⟨item, found, same⟩ := Option.map_eq_some_iff.mp dequeued
    cases same
    obtain ⟨inside, rfl⟩ := List.getElem?_eq_some_iff.mp found
    exact List.getElem_cons_eraseIdx_perm inside

/-- Some of the waiting pops were woken and nothing else happened to any of them. -/
structure Woken (pops woken : List (Pop Item)) : Prop where
  dequeued_eq : woken.map (·.dequeued) = pops.map (·.dequeued)
  wellFormed : (∀ pop ∈ pops, pop.WellFormed) → ∀ pop ∈ woken, pop.WellFormed
  keeps_iff : (∀ pop ∈ woken, pop.Keeps) ↔ ∀ pop ∈ pops, pop.Keeps

theorem woken_set {pops : List (Pop Item)} {index : Nat} {pop : Pop Item}
    (found : pops[index]? = some pop) : Woken pops (pops.set index pop.wake) where
  dequeued_eq := by
    obtain ⟨inside, rfl⟩ := List.getElem?_eq_some_iff.mp found
    apply List.ext_getElem (by simp)
    intro other _ _
    by_cases same : index = other
    · subst same
      simp
    · simp [same]
  wellFormed := fun wellFormed other member => by
    rcases List.mem_or_eq_of_mem_set member with earlier | rfl
    · exact wellFormed other earlier
    · exact (wellFormed pop (List.mem_of_getElem? found)).wake
  keeps_iff := forall_mem_set_iff Pop.Keeps found pop.wake_keeps_iff

theorem woken_map (pops : List (Pop Item)) : Woken pops (pops.map Pop.wake) where
  dequeued_eq := by simp
  wellFormed := fun wellFormed other member => by
    obtain ⟨pop, isPop, rfl⟩ := List.mem_map.mp member
    exact (wellFormed pop isPop).wake
  keeps_iff := by simp

theorem woken_of_notifyOne {pops woken : List (Pop Item)} {choice : Option Nat}
    (notified : notifyOne pops choice = some woken) : Woken pops woken := by
  cases choice with
  | none =>
      simp only [notifyOne] at notified
      split at notified
      · cases notified
        exact ⟨rfl, id, Iff.rfl⟩
      · cases notified
  | some index =>
      obtain ⟨pop, found, taken⟩ := Option.bind_eq_some_iff.mp notified
      split at taken
      · cases taken
        exact woken_set found
      · cases taken

section Conservation

variable [DecidableEq Item]

/-- What the accounts say at every moment, whatever was lost: an accepted item is in the queue
or was taken out of it by one pop. -/
structure Consistent (queue : BlockingQueue Item) : Prop where
  pops : ∀ pop ∈ queue.pops, pop.WellFormed
  taken : ∀ item, queue.accepted.count item =
    queue.items.count item + (queue.pops.flatMap (·.dequeued)).count item

namespace Consistent

variable {queue : BlockingQueue Item}

/-- A pop goes on with whatever it has. -/
theorem set_pop (consistent : Consistent queue) {index : Nat} {pop next : Pop Item}
    (found : queue.pops[index]? = some pop) (wellFormed : next.WellFormed) {items : List Item}
    (dequeues : ∀ item, next.dequeued.count item + items.count item =
      pop.dequeued.count item + queue.items.count item) (mutex : Option Nat) :
    Consistent { queue with pops := queue.pops.set index next, items, mutex } where
  pops := fun other member => by
    rcases List.mem_or_eq_of_mem_set member with earlier | rfl
    · exact consistent.pops other earlier
    · exact wellFormed
  taken := fun item => by
    have before := consistent.taken item
    have exchanged := count_flatMap_set (·.dequeued) item found next
    have moved := dequeues item
    change queue.accepted.count item =
      items.count item + ((queue.pops.set index next).flatMap (·.dequeued)).count item
    omega

theorem set_push (consistent : Consistent queue) {index : Nat} {push next : Push Item}
    (found : queue.pushes[index]? = some push) {items : List Item}
    (accepts : ∀ item, next.accepted.count item + queue.items.count item =
      push.accepted.count item + items.count item) :
    Consistent { queue with pushes := queue.pushes.set index next, items } where
  pops := consistent.pops
  taken := fun item => by
    have before := consistent.taken item
    have exchanged := count_flatMap_set Push.accepted item found next
    have moved := accepts item
    change (queue.pushes.flatMap Push.accepted).count item = _ at before
    change ((queue.pushes.set index next).flatMap Push.accepted).count item =
      items.count item + (queue.pops.flatMap (·.dequeued)).count item
    omega

theorem wake (consistent : Consistent queue) {pops : List (Pop Item)}
    (woken : Woken queue.pops pops) : Consistent { queue with pops } where
  pops := woken.wellFormed consistent.pops
  taken := fun item => by
    have before := consistent.taken item
    rw [List.flatMap_def, ← woken.dequeued_eq] at before
    exact before

/-- A call of a pop that has taken all that it returns. -/
theorem add_pop (consistent : Consistent queue) {pop : Pop Item} (wellFormed : pop.WellFormed)
    {items : List Item}
    (dequeues : ∀ item, pop.dequeued.count item + items.count item = queue.items.count item) :
    Consistent { queue with pops := queue.pops ++ [pop], items } where
  pops := fun other member => by
    rcases List.mem_append.mp member with earlier | new
    · exact consistent.pops other earlier
    · rw [List.mem_singleton.mp new]
      exact wellFormed
  taken := fun item => by
    have before := consistent.taken item
    have moved := dequeues item
    change queue.accepted.count item =
      items.count item + ((queue.pops ++ [pop]).flatMap (·.dequeued)).count item
    simp only [List.flatMap_append, List.flatMap_singleton, List.count_append]
    omega

end Consistent

/-- No call has lost anything so far. -/
def Intact (queue : BlockingQueue Item) : Prop := ∀ pop ∈ queue.pops, pop.Keeps

/-- A pop that has an item already is about to dequeue another. -/
def Loses (queue : BlockingQueue Item) : Label Item → Prop
  | .popStep index _ =>
      ∃ pop ∈ queue.pops[index]?, pop.phase = .dequeueAgain ∧ pop.job.isSome = true
  | .push _ | .pushStep _ _ | .pop | .wakeUp _ | .tryPop _ | .shutdownStep => False

/-- What is proved of one step. -/
structure Advances (queue : BlockingQueue Item) (label : Label Item)
    (after : BlockingQueue Item) : Prop where
  consistent : Consistent after
  intact_iff : Intact after ↔ Intact queue ∧ ¬ Loses queue label

namespace Advances

variable {queue : BlockingQueue Item}

theorem of_pop (consistent : Consistent queue) {index choice : Nat} {pop : Pop Item}
    (found : queue.pops[index]? = some pop) (next : Pop Item) (wellFormed : next.WellFormed) {items : List Item}
    (dequeues : ∀ item, next.dequeued.count item + items.count item =
      pop.dequeued.count item + queue.items.count item)
    (keeps : pop.Keeps ∧ (next.Keeps ↔ ¬ (pop.phase = .dequeueAgain ∧ pop.job.isSome = true)))
    (mutex : Option Nat) :
    Advances queue (.popStep index choice)
      { queue with pops := queue.pops.set index next, items, mutex } where
  consistent := consistent.set_pop found wellFormed dequeues mutex
  intact_iff := by
    have member := List.mem_of_getElem? found
    have loses : Loses queue (.popStep index choice) ↔
        pop.phase = .dequeueAgain ∧ pop.job.isSome = true := by
      simp [Loses, found]
    rw [loses]
    by_cases lossy : pop.phase = .dequeueAgain ∧ pop.job.isSome = true
    · have inside : next ∈ queue.pops.set index next :=
        List.mem_set (List.getElem?_eq_some_iff.mp found).1 next
      constructor
      · exact fun intact => absurd lossy (keeps.2.mp (intact next inside))
      · exact fun both => absurd lossy both.2
    · have same : next.Keeps ↔ pop.Keeps := iff_of_true (keeps.2.mpr lossy) keeps.1
      have others := forall_mem_set_iff Pop.Keeps found same
      exact ⟨fun intact => ⟨others.mp intact, lossy⟩, fun both => others.mpr both.1⟩

/-- A step of a pop that dequeues nothing. -/
theorem of_phase (consistent : Consistent queue) {index choice : Nat} {pop : Pop Item}
    (found : queue.pops[index]? = some pop) (phase : PopPhase)
    (wellFormed : Pop.WellFormed { pop with phase }) (keeps : pop.Keeps)
    (notAgain : pop.phase ≠ .dequeueAgain) (mutex : Option Nat) :
    Advances queue (.popStep index choice)
      { queue with pops := queue.pops.set index { pop with phase }, mutex } :=
  of_pop consistent found { pop with phase } wellFormed (fun _ => rfl)
    ⟨keeps, iff_of_true keeps fun lossy => notAgain lossy.1⟩ mutex

theorem of_first_dequeue (consistent : Consistent queue) {index choice : Nat} {pop : Pop Item}
    (found : queue.pops[index]? = some pop) (phase : pop.phase = .predicateDequeue)
    (empty : pop.job = none ∧ pop.dequeued = []) {item : Item} {items : List Item}
    (dequeued : tryDequeue queue.items choice = some (some item, items)) :
    Advances queue (.popStep index choice) { queue with
      pops := queue.pops.set index ⟨.loadShuttingDown, some item, pop.dequeued ++ [item]⟩
      items } := by
  have keeps : pop.Keeps := by simp [Pop.Keeps, empty.1, empty.2]
  have kept : (Pop.mk .loadShuttingDown (some item) (pop.dequeued ++ [item])).Keeps := by
    simp [Pop.Keeps, empty.2]
  refine of_pop consistent found (Pop.mk .loadShuttingDown _ _) kept (fun other => ?_)
    ⟨keeps, iff_of_true kept (by simp [phase])⟩ _
  have counted := (tryDequeue_perm dequeued).count_eq other
  simp only [Option.toList_some, List.count_append] at counted
  simp only [List.count_append]
  omega

/-- What the call took in its predicate is kept only if that was nothing. -/
theorem of_second_dequeue (consistent : Consistent queue) {index choice : Nat} {pop : Pop Item}
    (found : queue.pops[index]? = some pop) (phase : pop.phase = .dequeueAgain)
    (keeps : pop.Keeps) {taken : Option Item} {items : List Item}
    (dequeued : tryDequeue queue.items choice = some (taken, items)) :
    Advances queue (.popStep index choice) { queue with
      pops := queue.pops.set index ⟨.returned, taken, pop.dequeued ++ taken.toList⟩
      items
      mutex := none } := by
  have returns : (Pop.mk .returned taken (pop.dequeued ++ taken.toList)).WellFormed :=
    List.sublist_append_right _ _
  refine of_pop consistent found _ returns (fun other => ?_) ⟨keeps, ?_⟩ _
  · have counted := (tryDequeue_perm dequeued).count_eq other
    simp only [List.count_append] at counted ⊢
    omega
  · have keeps_iff : (Pop.mk .returned taken (pop.dequeued ++ taken.toList)).Keeps ↔
        pop.dequeued = [] := by
      simp [Pop.Keeps]
    rw [keeps_iff, keeps, phase]
    cases pop.job <;> simp

theorem stepPop (consistent : Consistent queue) {index choice : Nat} {pop : Pop Item}
    (found : queue.pops[index]? = some pop) {after : BlockingQueue Item}
    (taken : queue.stepPop index choice pop = some after) :
    Advances queue (.popStep index choice) after := by
  have wellFormed := consistent.pops pop (List.mem_of_getElem? found)
  unfold Pop.WellFormed at wellFormed
  unfold BlockingQueue.stepPop at taken
  cases phase : pop.phase with
  | lock =>
      simp only [phase] at wellFormed taken
      have keeps : pop.Keeps := by simp [Pop.Keeps, wellFormed.1, wellFormed.2]
      split at taken
      · cases taken
        exact of_phase consistent found .predicateDequeue wellFormed keeps (by simp [phase]) _
      · cases taken
  | predicateDequeue =>
      simp only [phase] at wellFormed taken
      have keeps : pop.Keeps := by simp [Pop.Keeps, wellFormed.1, wellFormed.2]
      obtain ⟨⟨taken?, items⟩, dequeued, rfl⟩ := Option.map_eq_some_iff.mp taken
      cases taken? with
      | none =>
          exact of_phase consistent found .predicateShuttingDown wellFormed keeps (by simp [phase]) _
      | some item => exact of_first_dequeue consistent found phase wellFormed dequeued
  | predicateShuttingDown =>
      simp only [phase] at wellFormed taken
      have keeps : pop.Keeps := by simp [Pop.Keeps, wellFormed.1, wellFormed.2]
      split at taken
      · cases taken
        exact of_phase consistent found .loadShuttingDown keeps keeps (by simp [phase]) _
      · cases taken
        exact of_phase consistent found .waiting wellFormed keeps (by simp [phase]) _
  | waiting =>
      simp only [phase] at taken
      cases taken
  | loadShuttingDown =>
      simp only [phase] at wellFormed taken
      split at taken
      · cases taken
        exact of_phase consistent found .dequeueAgain wellFormed wellFormed (by simp [phase]) _
      · cases taken
        have returns : Pop.WellFormed { pop with phase := .returned } := by
          change pop.job.toList.Sublist pop.dequeued
          rw [wellFormed]
        exact of_phase consistent found .returned returns wellFormed (by simp [phase]) _
  | dequeueAgain =>
      simp only [phase] at wellFormed taken
      obtain ⟨⟨taken?, items⟩, dequeued, rfl⟩ := Option.map_eq_some_iff.mp taken
      exact of_second_dequeue consistent found phase wellFormed dequeued
  | returned =>
      simp only [phase] at taken
      cases taken

theorem of_woken (consistent : Consistent queue) {label : Label Item}
    (harmless : ¬ Loses queue label) {pops : List (Pop Item)} (woken : Woken queue.pops pops)
    (shutdown : ShutdownPhase) : Advances queue label { queue with pops, shutdown } where
  consistent := ⟨(consistent.wake woken).pops, (consistent.wake woken).taken⟩
  intact_iff := by
    change (∀ pop ∈ pops, pop.Keeps) ↔ (∀ pop ∈ queue.pops, pop.Keeps) ∧ ¬ Loses queue label
    simp [woken.keeps_iff, harmless]

theorem add_pop (consistent : Consistent queue) {label : Label Item}
    (harmless : ¬ Loses queue label) {pop : Pop Item} (wellFormed : pop.WellFormed)
    {items : List Item}
    (dequeues : ∀ item, pop.dequeued.count item + items.count item = queue.items.count item)
    (keeps : pop.Keeps) :
    Advances queue label { queue with pops := queue.pops ++ [pop], items } where
  consistent := consistent.add_pop wellFormed dequeues
  intact_iff := by
    change (∀ other ∈ queue.pops ++ [pop], other.Keeps) ↔
      (∀ other ∈ queue.pops, other.Keeps) ∧ ¬ Loses queue label
    rw [List.forall_mem_append, List.forall_mem_singleton]
    exact ⟨fun all => ⟨all.1, harmless⟩, fun all => ⟨all.1, keeps⟩⟩

theorem stepPush (consistent : Consistent queue) {index : Nat} {woken : Option Nat}
    {push : Push Item} (found : queue.pushes[index]? = some push) {after : BlockingQueue Item}
    (taken : queue.stepPush index woken push = some after) :
    Advances queue (.pushStep index woken) after := by
  have unchanged : ∀ {other : BlockingQueue Item}, other.pops = queue.pops →
      (Intact other ↔ Intact queue ∧ ¬ Loses queue (.pushStep index woken)) := by
    intro other same
    simp [Intact, same, Loses]
  unfold BlockingQueue.stepPush at taken
  cases phase : push.phase with
  | loadShuttingDown =>
      simp only [phase] at taken
      cases taken
      refine ⟨consistent.set_push found fun item => ?_, unchanged rfl⟩
      cases queue.shuttingDown <;> simp [Push.accepted, phase]
  | enqueue =>
      simp only [phase] at taken
      cases taken
      refine ⟨consistent.set_push found fun item => ?_, unchanged rfl⟩
      simp [Push.accepted, phase, List.count_append, Nat.add_comm]
  | notifyOne =>
      simp only [phase] at taken
      split at taken
      · obtain ⟨pops, notified, rfl⟩ := Option.map_eq_some_iff.mp taken
        have moved : Consistent { queue with
            pushes := queue.pushes.set index { push with phase := .accepted } } :=
          consistent.set_push found fun item => by simp [Push.accepted, phase]
        have awake := woken_of_notifyOne notified
        refine ⟨moved.wake awake, ?_⟩
        change (∀ pop ∈ pops, pop.Keeps) ↔ (∀ pop ∈ queue.pops, pop.Keeps) ∧ _
        simp [awake.keeps_iff, Loses]
      · cases taken
  | accepted | rejected =>
      simp only [phase] at taken
      cases taken

theorem of_step (consistent : Consistent queue) {label : Label Item}
    {after : BlockingQueue Item} (taken : queue.step label = some after) :
    Advances queue label after := by
  cases label with
  | push item =>
      cases taken
      refine ⟨⟨consistent.pops, fun other => ?_⟩, by simp [Intact, Loses]⟩
      have before := consistent.taken other
      simpa [accepted, Push.accepted] using before
  | pushStep index woken =>
      obtain ⟨push, found, stepped⟩ := Option.bind_eq_some_iff.mp taken
      exact stepPush consistent found stepped
  | pop =>
      cases taken
      have fresh : Pop.WellFormed ({} : Pop Item) := ⟨rfl, rfl⟩
      exact add_pop consistent (by simp [Loses]) fresh (by simp) rfl
  | popStep index choice =>
      obtain ⟨pop, found, stepped⟩ := Option.bind_eq_some_iff.mp taken
      exact stepPop consistent found stepped
  | wakeUp index =>
      obtain ⟨pop, found, stepped⟩ := Option.bind_eq_some_iff.mp taken
      split at stepped
      · cases stepped
        exact of_woken consistent (by simp [Loses]) (woken_set found) _
      · cases stepped
  | tryPop choice =>
      obtain ⟨⟨taken?, items⟩, dequeued, rfl⟩ := Option.map_eq_some_iff.mp taken
      have perm := tryDequeue_perm dequeued
      have returns : (Pop.mk .returned taken? taken?.toList).WellFormed := List.Sublist.refl _
      refine add_pop consistent (by simp [Loses]) returns (fun item => ?_) rfl
      have counted := perm.count_eq item
      simpa [List.count_append] using counted
  | shutdownStep =>
      simp only [step] at taken
      split at taken
      · cases taken
        exact ⟨⟨consistent.pops, consistent.taken⟩, by simp [Intact, Loses]⟩
      · split at taken
        · cases taken
          exact of_woken consistent (by simp [Loses]) (woken_map queue.pops) _
        · cases taken
      · cases taken

end Advances

/-- An accepted item was returned, is in the queue, or is in the hands of a pop between its
dequeue and its return; and what a pop took out of the queue is what it returned. -/
structure LosesNothing (queue : BlockingQueue Item) : Prop where
  conserved : queue.accepted.Perm (queue.returned ++ queue.items ++ queue.held)
  returns : ∀ pop ∈ queue.pops, pop.phase = .returned → pop.dequeued = pop.job.toList

instance (queue : BlockingQueue Item) : Decidable queue.LosesNothing :=
  decidable_of_iff
    (queue.accepted.Perm (queue.returned ++ queue.items ++ queue.held) ∧
      ∀ pop ∈ queue.pops, pop.phase = .returned → pop.dequeued = pop.job.toList)
    ⟨fun ⟨conserved, returns⟩ => ⟨conserved, returns⟩,
      fun ⟨conserved, returns⟩ => ⟨conserved, returns⟩⟩

theorem count_returned_add_held (pops : List (Pop Item)) (item : Item) :
    (pops.flatMap (·.returned)).count item + (pops.flatMap (·.held)).count item =
      (pops.flatMap (·.job.toList)).count item := by
  induction pops with
  | nil => rfl
  | cons pop pops ih =>
      simp only [List.flatMap_cons, List.count_append, ← ih]
      unfold Pop.returned Pop.held
      split <;> simp only [List.count_nil] <;> omega

theorem losesNothing_iff_intact {queue : BlockingQueue Item} (consistent : Consistent queue) :
    LosesNothing queue ↔ Intact queue := by
  constructor
  · intro nothingLost pop member
    have wellFormed := consistent.pops pop member
    unfold Pop.WellFormed at wellFormed
    cases phase : pop.phase with
    | lock | predicateDequeue | predicateShuttingDown | waiting =>
        simp only [phase] at wellFormed
        simp [Pop.Keeps, wellFormed.1, wellFormed.2]
    | loadShuttingDown | dequeueAgain =>
        simp only [phase] at wellFormed
        exact wellFormed
    | returned => exact nothingLost.returns pop member phase
  · intro intact
    refine ⟨List.perm_iff_count.mpr fun item => ?_, fun pop member _ => intact pop member⟩
    have kept : queue.pops.flatMap (·.dequeued) = queue.pops.flatMap (·.job.toList) :=
      List.flatMap_congr intact
    have taken := consistent.taken item
    rw [kept, ← count_returned_add_held] at taken
    simp only [List.count_append, returned, held]
    omega

theorem consistent_empty : Consistent ({} : BlockingQueue Item) :=
  ⟨fun _ member => (by cases member), fun _ => rfl⟩

/-- Over the runs of a queue that offers some of the calls. -/
theorem losesNothing_iff_avoids
    {offered : BlockingQueue Item → Label Item → Option (BlockingQueue Item)}
    (offers : ∀ {queue label after}, offered queue label = some after →
      queue.step label = some after)
    {labels : List (Label Item)} {finish : BlockingQueue Item}
    (run : Run (Taken offered) {} labels finish) :
    LosesNothing finish ↔
      Run (fun before label after => Taken offered before label after ∧ ¬ before.Loses label)
        {} labels finish := by
  have preserved : ∀ {before label after}, Consistent before → Taken offered before label after →
      Consistent after :=
    fun consistent taken => (Advances.of_step consistent (offers taken)).consistent
  have consistent := run.preserves Consistent preserved consistent_empty
  have avoids := run.holds_iff_avoids Consistent Intact Loses
    (fun taken again => Option.some.inj (taken.symm.trans again)) preserved
    (fun before taken => (Advances.of_step before (offers taken)).intact_iff) consistent_empty
  have starts : Intact ({} : BlockingQueue Item) := fun _ member => by cases member
  rw [losesNothing_iff_intact consistent, avoids]
  exact ⟨fun both => both.2, fun good => ⟨starts, good⟩⟩

end Conservation

end BlockingQueue

open BlockingQueue

theorem JobQueue.step_offers {queue after : BlockingQueue Job} {label : Label Job}
    (taken : JobQueue.step queue label = some after) : queue.step label = some after := by
  cases label with
  | tryPop => cases taken
  | _ => exact taken

/-- Nothing is lost as long as no pop goes on to its second dequeue with an item in hand. -/
theorem queues_lose_nothing_iff {jobCalls : List (Label Job)} {jobs : BlockingQueue Job}
    {commandCalls : List (Label GameCommand)} {commands : BlockingQueue GameCommand}
    (jobRun : Run (Taken JobQueue.step) {} jobCalls jobs)
    (commandRun : Run (Taken GameLogicQueue.step) {} commandCalls commands) :
    (LosesNothing jobs ↔ Run (fun before label after =>
      Taken JobQueue.step before label after ∧ ¬ before.Loses label) {} jobCalls jobs) ∧
    (LosesNothing commands ↔ Run (fun before label after =>
      Taken GameLogicQueue.step before label after ∧ ¬ before.Loses label)
        {} commandCalls commands) :=
  ⟨losesNothing_iff_avoids JobQueue.step_offers jobRun, losesNothing_iff_avoids id commandRun⟩

/-- A pop waits, a push wakes it, and it returns the item; then the queue is shut down and
another pop returns without one. -/
def handedOver {Item : Type} (item : Item) : List (Label Item) :=
  [.pop, .popStep 0 0, .popStep 0 0, .popStep 0 0, .push item, .pushStep 0 none, .pushStep 0 none,
    .pushStep 0 (some 0), .popStep 0 0, .popStep 0 0, .popStep 0 0, .shutdownStep, .shutdownStep,
    .pop, .popStep 1 0, .popStep 1 0, .popStep 1 0, .popStep 1 0, .popStep 1 0]

theorem queues_lose_nothing_iff_of_handedOver :
    ∃ jobs commands,
      Run (Taken JobQueue.step) {} (handedOver { session := 7, packet := none }) jobs ∧
      Run (Taken GameLogicQueue.step) {}
        (handedOver { payload := .playerDisconnect { playerId := 1 }, senderSessionId := 7 })
        commands ∧
      jobs.returned = [{ session := 7, packet := none }] ∧ LosesNothing jobs ∧
      LosesNothing commands ∧
      Run (fun before label after => Taken JobQueue.step before label after ∧ ¬ before.Loses label)
        {} (handedOver { session := 7, packet := none }) jobs ∧
      Run (fun before label after =>
          Taken GameLogicQueue.step before label after ∧ ¬ before.Loses label) {}
        (handedOver { payload := .playerDisconnect { playerId := 1 }, senderSessionId := 7 })
        commands := by
  obtain ⟨_, jobs, jobsCreated, jobRun, returned, jobsKept⟩ := exists_run_of_execute
    JobQueue.step (some {}) (handedOver { session := 7, packet := none })
    (fun jobs => jobs.returned = [{ session := 7, packet := none }] ∧ jobs.LosesNothing)
    (by decide +kernel)
  obtain ⟨_, commands, commandsCreated, commandRun, commandsKept⟩ := exists_run_of_execute
    GameLogicQueue.step (some {})
    (handedOver { payload := .playerDisconnect { playerId := 1 }, senderSessionId := 7 })
    (fun commands => commands.LosesNothing) (by decide +kernel)
  cases jobsCreated
  cases commandsCreated
  obtain ⟨jobs_iff, commands_iff⟩ := queues_lose_nothing_iff jobRun commandRun
  exact ⟨jobs, commands, jobRun, commandRun, returned, jobsKept, commandsKept,
    jobs_iff.mp jobsKept, commands_iff.mp commandsKept⟩

/-- The queue is shut down between the two dequeues of a pop that has an item. -/
def shutDownInBetween {Item : Type} (item : Item) : List (Label Item) :=
  [.push item, .pushStep 0 none, .pushStep 0 none, .pushStep 0 none, .pop, .popStep 0 0,
    .popStep 0 0, .shutdownStep, .popStep 0 0, .popStep 0 0, .shutdownStep]

/-- All calls have returned, and the one accepted item is nowhere. -/
theorem queues_lose_an_item :
    (∃ finish, Run (Taken JobQueue.step) {} (shutDownInBetween { session := 7, packet := none })
        finish ∧
      finish.accepted = [{ session := 7, packet := none }] ∧ finish.returned = [] ∧
      finish.items = [] ∧ (∀ pop ∈ finish.pops, pop.phase = .returned) ∧ ¬ finish.LosesNothing) ∧
    ∃ finish, Run (Taken GameLogicQueue.step) {}
        (shutDownInBetween { payload := .playerDisconnect { playerId := 1 }, senderSessionId := 7 })
        finish ∧
      finish.accepted = [{ payload := .playerDisconnect { playerId := 1 }, senderSessionId := 7 }] ∧
      finish.returned = [] ∧ finish.items = [] ∧
      (∀ pop ∈ finish.pops, pop.phase = .returned) ∧ ¬ finish.LosesNothing := by
  constructor
  · obtain ⟨start, finish, created, run, lost⟩ := exists_run_of_execute
      JobQueue.step (some {}) (shutDownInBetween { session := 7, packet := none })
      (fun finish => finish.accepted = [{ session := 7, packet := none }] ∧ finish.returned = [] ∧
        finish.items = [] ∧ (∀ pop ∈ finish.pops, pop.phase = .returned) ∧ ¬ finish.LosesNothing)
      (by decide +kernel)
    cases created
    exact ⟨finish, run, lost⟩
  · obtain ⟨start, finish, created, run, lost⟩ := exists_run_of_execute
      GameLogicQueue.step (some {})
      (shutDownInBetween { payload := .playerDisconnect { playerId := 1 }, senderSessionId := 7 })
      (fun finish =>
        finish.accepted =
          [{ payload := .playerDisconnect { playerId := 1 }, senderSessionId := 7 }] ∧
        finish.returned = [] ∧ finish.items = [] ∧
        (∀ pop ∈ finish.pops, pop.phase = .returned) ∧ ¬ finish.LosesNothing)
      (by decide +kernel)
    cases created
    exact ⟨finish, run, lost⟩

end CppMMO.Utils
