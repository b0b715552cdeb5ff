import CppMMO.Lib.Progress
import CppMMO.Utils.BlockingQueueProperties

/-! No pop sleeps on an item: a push enqueues before it takes the mutex to notify, and a pop
that has found nothing keeps the mutex until it sleeps. -/

set_option autoImplicit false

namespace CppMMO.Utils

open CppMMO.Lib CppMMO.Game

def PopPhase.holdsMutex : PopPhase → Bool
  | predicateDequeue | predicateShuttingDown | loadShuttingDown | dequeueAgain => true
  | lock | waiting | returned => false

/-- The call is still going to evaluate its predicate. -/
def PopPhase.isAwake : PopPhase → Bool
  | lock | predicateDequeue => true
  | predicateShuttingDown | waiting | loadShuttingDown | dequeueAgain | returned => false

def PushPhase.isNotifying : PushPhase → Bool
  | notifyOne => true
  | loadShuttingDown | enqueue | accepted | rejected => false

/-- A notification may send a sleeping pop back to the mutex, so it weighs more than that. -/
def PushPhase.stepsLeft : PushPhase → Nat
  | .loadShuttingDown => 6
  | .enqueue => 5
  | .notifyOne => 4
  | .accepted | .rejected => 0

def PopPhase.stepsLeft : PopPhase → Nat
  | .lock => 6
  | .predicateDequeue => 5
  | .predicateShuttingDown => 4
  | .waiting => 3
  | .loadShuttingDown => 2
  | .dequeueAgain => 1
  | .returned => 0

namespace BlockingQueue

variable {Item : Type}

def notifyingIn (pushes : List (Push Item)) : Nat :=
  (pushes.map (·.phase.isNotifying.toNat)).sum

def awakeIn (pops : List (Pop Item)) : Nat := (pops.map (·.phase.isAwake.toNat)).sum

def notifying (queue : BlockingQueue Item) : Nat := notifyingIn queue.pushes

def awake (queue : BlockingQueue Item) : Nat := awakeIn queue.pops

/-- While a pop sleeps, every item has a push that is about to notify or a pop that is about to
look. A pop that has just found nothing has the mutex, so no push can notify before it sleeps. -/
structure Watched (queue : BlockingQueue Item) : Prop where
  holder : ∀ (index : Nat) pop, queue.pops[index]? = some pop →
    (pop.phase.holdsMutex = true ↔ queue.mutex = some index)
  held : ∀ index, queue.mutex = some index → index < queue.pops.length
  checked : ∀ pop ∈ queue.pops, pop.phase = .predicateShuttingDown →
    queue.items.length ≤ queue.notifying
  asleep : ∀ pop ∈ queue.pops, pop.phase = .waiting →
    queue.items.length ≤ queue.notifying + queue.awake
  stored : queue.shutdown ≠ .store → queue.shuttingDown = true
  shutDown : queue.shutdown = .returned → ∀ pop ∈ queue.pops, pop.phase ≠ .waiting

theorem watched_empty : Watched ({} : BlockingQueue Item) where
  holder := fun index pop found => by simp at found
  held := fun index holds => by simp at holds
  checked := fun pop member => by simp at member
  asleep := fun pop member => by simp at member
  stored := fun started => absurd rfl started
  shutDown := fun returned => by simp at returned

/-- Some of the sleeping pops were woken, at least as many as counted. -/
structure Rouses (pops roused : List (Pop Item)) (count : Nat) : Prop where
  length_eq : roused.length = pops.length
  same_or_woken : ∀ (index : Nat) pop, roused[index]? = some pop →
    ∃ old, pops[index]? = some old ∧ (pop = old ∨ old.phase = .waiting ∧ pop.phase = .lock)
  awake_le : awakeIn pops + count ≤ awakeIn roused

theorem rouses_refl (pops : List (Pop Item)) : Rouses pops pops 0 where
  length_eq := rfl
  same_or_woken := fun _ pop found => ⟨pop, found, .inl rfl⟩
  awake_le := le_refl _

theorem wake_of_waiting {pop : Pop Item} (waiting : pop.phase = .waiting) :
    pop.wake.phase = .lock := by
  simp [Pop.wake, waiting]

theorem wake_of_not_waiting {pop : Pop Item} (notWaiting : pop.phase ≠ .waiting) :
    pop.wake = pop := by
  simp [Pop.wake, notWaiting]

theorem rouses_set {pops : List (Pop Item)} {index : Nat} {pop : Pop Item}
    (found : pops[index]? = some pop) (waiting : pop.phase = .waiting) :
    Rouses pops (pops.set index pop.wake) 1 where
  length_eq := List.length_set
  same_or_woken := fun other woken there => by
    by_cases same : index = other
    · subst same
      rw [List.getElem?_set_self (List.getElem?_eq_some_iff.mp found).1] at there
      cases there
      exact ⟨pop, found, .inr ⟨waiting, wake_of_waiting waiting⟩⟩
    · rw [List.getElem?_set_ne same] at there
      exact ⟨woken, there, .inl rfl⟩
  awake_le := by
    have exchanged := sum_map_set (fun pop : Pop Item => pop.phase.isAwake.toNat) found pop.wake
    have slept : pop.phase.isAwake.toNat = 0 := by rw [waiting]; rfl
    have wakes : pop.wake.phase.isAwake.toNat = 1 := by rw [wake_of_waiting waiting]; rfl
    simp only [awakeIn]
    omega

theorem rouses_map (pops : List (Pop Item)) : Rouses pops (pops.map Pop.wake) 0 where
  length_eq := List.length_map ..
  same_or_woken := fun index pop there => by
    rw [List.getElem?_map] at there
    obtain ⟨old, found, rfl⟩ := Option.map_eq_some_iff.mp there
    by_cases waiting : old.phase = .waiting
    · exact ⟨old, found, .inr ⟨waiting, wake_of_waiting waiting⟩⟩
    · exact ⟨old, found, .inl (wake_of_not_waiting waiting)⟩
  awake_le := by
    induction pops with
    | nil => exact le_refl _
    | cons first rest ih =>
        have share : first.phase.isAwake.toNat ≤ first.wake.phase.isAwake.toNat := by
          by_cases waiting : first.phase = .waiting
          · simp [waiting, PopPhase.isAwake]
          · rw [wake_of_not_waiting waiting]
        simp only [awakeIn, List.map_cons, List.sum_cons] at ih ⊢
        omega

/-- `notify_one` wakes a sleeping pop unless none sleeps. -/
theorem rouses_of_notifyOne {pops roused : List (Pop Item)} {woken : Option Nat}
    (notified : notifyOne pops woken = some roused) :
    Rouses pops roused 1 ∨ Rouses pops roused 0 ∧ ∀ pop ∈ pops, pop.phase ≠ .waiting := by
  cases woken with
  | none =>
      simp only [notifyOne] at notified
      split at notified
      · next nobody =>
          cases notified
          exact .inr ⟨rouses_refl pops, nobody⟩
      · cases notified
  | some index =>
      obtain ⟨pop, found, taken⟩ := Option.bind_eq_some_iff.mp notified
      split at taken
      · next waiting =>
          cases taken
          exact .inl (rouses_set found waiting)
      · cases taken

namespace Watched

variable {queue : BlockingQueue Item}

theorem rouse_holder (watched : queue.Watched) {pops : List (Pop Item)} {count : Nat}
    (rouses : Rouses queue.pops pops count) (index : Nat) (pop : Pop Item)
    (there : pops[index]? = some pop) :
    pop.phase.holdsMutex = true ↔ queue.mutex = some index := by
  obtain ⟨old, found, rfl | ⟨waiting, woken⟩⟩ := rouses.same_or_woken index pop there
  · exact watched.holder index pop found
  · have before := watched.holder index old found
    rw [waiting] at before
    rw [woken]
    exact before

theorem rouse_mem {pops : List (Pop Item)} {count : Nat} (rouses : Rouses queue.pops pops count)
    {pop : Pop Item} (member : pop ∈ pops) (notWoken : pop.phase ≠ .lock) : pop ∈ queue.pops := by
  obtain ⟨index, there⟩ := List.getElem?_of_mem member
  obtain ⟨old, found, rfl | ⟨-, woken⟩⟩ := rouses.same_or_woken index pop there
  · exact List.mem_of_getElem? found
  · exact absurd woken notWoken

theorem rouse (watched : queue.Watched) {pops : List (Pop Item)} {count : Nat}
    (rouses : Rouses queue.pops pops count) : Watched { queue with pops } where
  holder := watched.rouse_holder rouses
  held := fun index holds => by
    rw [rouses.length_eq]
    exact watched.held index holds
  checked := fun pop member phase =>
    watched.checked pop (rouse_mem rouses member (by simp [phase])) phase
  asleep := fun pop member phase => by
    have before := watched.asleep pop (rouse_mem rouses member (by simp [phase])) phase
    have more := rouses.awake_le
    simp only [notifying, awake] at before ⊢
    omega
  stored := watched.stored
  shutDown := fun returned pop member waiting =>
    watched.shutDown returned pop (rouse_mem rouses member (by simp [waiting])) waiting

/-- A push that notifies no longer counts, but the pop that it wakes does. -/
theorem notify (watched : queue.Watched) (free : queue.mutex = none)
    {pushes : List (Push Item)} (notified : notifyingIn pushes + 1 = queue.notifying)
    {pops : List (Pop Item)}
    (rouses : Rouses queue.pops pops 1 ∨
      Rouses queue.pops pops 0 ∧ ∀ pop ∈ queue.pops, pop.phase ≠ .waiting) :
    Watched { queue with pushes, pops } where
  holder := by
    rcases rouses with one | ⟨none, -⟩
    · exact watched.rouse_holder one
    · exact watched.rouse_holder none
  held := fun index holds => by
    rw [free] at holds
    cases holds
  checked := fun pop member phase => by
    obtain ⟨index, there⟩ := List.getElem?_of_mem member
    have holds : pop.phase.holdsMutex = true ↔ queue.mutex = some index := by
      rcases rouses with one | ⟨none, -⟩
      · exact watched.rouse_holder one index pop there
      · exact watched.rouse_holder none index pop there
    rw [phase, free] at holds
    simp [PopPhase.holdsMutex] at holds
  asleep := fun pop member phase => by
    rcases rouses with one | ⟨none, nobody⟩
    · have before := watched.asleep pop (rouse_mem one member (by simp [phase])) phase
      have more := one.awake_le
      simp only [awake, notifying] at before notified ⊢
      omega
    · exact absurd phase (nobody pop (rouse_mem none member (by simp [phase])))
  stored := watched.stored
  shutDown := fun returned pop member waiting => by
    rcases rouses with one | ⟨none, -⟩
    · exact watched.shutDown returned pop (rouse_mem one member (by simp [waiting])) waiting
    · exact watched.shutDown returned pop (rouse_mem none member (by simp [waiting])) waiting

theorem set_pushes (watched : queue.Watched) {pushes : List (Push Item)} {items : List Item}
    (counted : items.length + queue.notifying ≤ queue.items.length + notifyingIn pushes) :
    Watched { queue with pushes, items } where
  holder := watched.holder
  held := watched.held
  checked := fun pop member phase => by
    have before := watched.checked pop member phase
    simp only [notifying] at before counted ⊢
    omega
  asleep := fun pop member phase => by
    have before := watched.asleep pop member phase
    simp only [notifying, awake] at before counted ⊢
    omega
  stored := watched.stored
  shutDown := watched.shutDown

/-- A step of one pop. Nobody else has the mutex, and the step takes no more items than it gives
up looking; a pop that comes to rest has seen that the rest is accounted for. -/
theorem set_pop (watched : queue.Watched) {index : Nat} {pop next : Pop Item}
    (found : queue.pops[index]? = some pop)
    (mine : queue.mutex = none ∨ queue.mutex = some index) {items : List Item}
    {mutex : Option Nat} (mutex_eq : mutex = if next.phase.holdsMutex then some index else none)
    (counted : items = [] ∨
      items.length + pop.phase.isAwake.toNat ≤ queue.items.length + next.phase.isAwake.toNat)
    (rests : next.phase = .predicateShuttingDown ∨ next.phase = .waiting →
      items.length ≤ queue.notifying)
    (sleeps : next.phase = .waiting → queue.shuttingDown = false) :
    Watched { queue with pops := queue.pops.set index next, items, mutex } where
  holder := fun other there placed => by
    by_cases same : index = other
    · subst same
      rw [List.getElem?_set_self (List.getElem?_eq_some_iff.mp found).1] at placed
      cases placed
      rw [mutex_eq]
      split <;> simp [*]
    · rw [List.getElem?_set_ne same] at placed
      have before := watched.holder other there placed
      have notBefore : queue.mutex ≠ some other := by
        rcases mine with free | own
        · simp [free]
        · simp [own, same]
      have notAfter : mutex ≠ some other := by
        rw [mutex_eq]
        split <;> simp [same]
      exact before.trans (iff_of_false notBefore notAfter)
  held := fun other holds => by
    rw [List.length_set]
    simp only [mutex_eq] at holds
    split at holds
    · cases holds
      exact (List.getElem?_eq_some_iff.mp found).1
    · cases holds
  checked := fun other member phase => by
    rcases List.mem_or_eq_of_mem_set member with earlier | rfl
    · obtain ⟨place, there⟩ := List.getElem?_of_mem member
      by_cases same : index = place
      · subst same
        rw [List.getElem?_set_self (List.getElem?_eq_some_iff.mp found).1] at there
        cases there
        exact rests (.inl phase)
      · rw [List.getElem?_set_ne same] at there
        have holds := (watched.holder place other there).mp (by rw [phase]; rfl)
        rcases mine with free | own
        · rw [free] at holds
          cases holds
        · rw [own] at holds
          exact absurd (Option.some.inj holds) same
    · exact rests (.inl phase)
  asleep := fun other member phase => by
    rcases List.mem_or_eq_of_mem_set member with earlier | rfl
    · have before := watched.asleep other earlier phase
      have exchanged := sum_map_set (fun pop : Pop Item => pop.phase.isAwake.toNat) found next
      simp only [notifying, awake, awakeIn] at before ⊢
      rcases counted with nothing | counted
      · simp [nothing]
      · omega
    · exact (rests (.inr phase)).trans (Nat.le_add_right _ _)
  stored := watched.stored
  shutDown := fun returned other member waiting => by
    rcases List.mem_or_eq_of_mem_set member with earlier | rfl
    · exact watched.shutDown returned other earlier waiting
    · have shut := watched.stored (returned.trans_ne (by decide))
      rw [sleeps waiting] at shut
      cases shut

theorem add_pop (watched : queue.Watched) {pop : Pop Item} {items : List Item}
    (fewer : items.length ≤ queue.items.length)
    (starts : pop.phase = .lock ∨ pop.phase = .returned) :
    Watched { queue with pops := queue.pops ++ [pop], items } where
  holder := fun index other there => by
    by_cases inside : index < queue.pops.length
    · rw [List.getElem?_append_left inside] at there
      exact watched.holder index other there
    · have notHeld : queue.mutex ≠ some index := fun holds => inside (watched.held index holds)
      have isNew := List.mem_of_getElem? there
      rw [List.getElem?_append_right (Nat.not_lt.mp inside)] at there
      rw [List.mem_singleton.mp (List.mem_of_getElem? there)]
      rcases starts with phase | phase <;> simp [phase, PopPhase.holdsMutex, notHeld]
  held := fun index holds => by
    rw [List.length_append]
    exact Nat.lt_add_right _ (watched.held index holds)
  checked := fun other member phase => by
    rcases List.mem_append.mp member with earlier | new
    · exact fewer.trans (watched.checked other earlier phase)
    · rw [List.mem_singleton.mp new] at phase
      rcases starts with start | start <;> simp [start] at phase
  asleep := fun other member phase => by
    rcases List.mem_append.mp member with earlier | new
    · have before := watched.asleep other earlier phase
      simp only [notifying, awake, awakeIn, List.map_append, List.sum_append] at before ⊢
      omega
    · rw [List.mem_singleton.mp new] at phase
      rcases starts with start | start <;> simp [start] at phase
  stored := watched.stored
  shutDown := fun returned other member waiting => by
    rcases List.mem_append.mp member with earlier | new
    · exact watched.shutDown returned other earlier waiting
    · rw [List.mem_singleton.mp new] at waiting
      rcases starts with start | start <;> simp [start] at waiting

end Watched

theorem notifyingIn_set {pushes : List (Push Item)} {index : Nat} {push : Push Item}
    (found : pushes[index]? = some push) (phase : PushPhase) :
    notifyingIn (pushes.set index { push with phase }) + push.phase.isNotifying.toNat =
      notifyingIn pushes + phase.isNotifying.toNat :=
  sum_map_set (fun push : Push Item => push.phase.isNotifying.toNat) found { push with phase }

theorem length_of_tryDequeue {items rest : List Item} {choice : Nat} {taken : Option Item}
    (dequeued : tryDequeue items choice = some (taken, rest)) :
    rest.length + taken.toList.length = items.length ∧ (taken = none → rest = []) := by
  unfold tryDequeue at dequeued
  split at dequeued
  · cases dequeued
    simp
  · next first others =>
      obtain ⟨item, found, same⟩ := Option.map_eq_some_iff.mp dequeued
      cases same
      obtain ⟨inside, -⟩ := List.getElem?_eq_some_iff.mp found
      rw [List.length_eraseIdx_of_lt inside]
      simp

namespace Watched

variable {queue after : BlockingQueue Item}

theorem stepPush (watched : queue.Watched) {index : Nat} {woken : Option Nat} {push : Push Item}
    (found : queue.pushes[index]? = some push)
    (taken : queue.stepPush index woken push = some after) : after.Watched := by
  unfold BlockingQueue.stepPush at taken
  cases phase : push.phase with
  | loadShuttingDown =>
      simp only [phase] at taken
      cases taken
      have exchanged := notifyingIn_set found (if queue.shuttingDown then .rejected else .enqueue)
      have silent : (if queue.shuttingDown then PushPhase.rejected
          else .enqueue).isNotifying.toNat = 0 := by
        split <;> rfl
      have before : push.phase.isNotifying.toNat = 0 := by rw [phase]; rfl
      apply watched.set_pushes
      rw [notifying]
      omega
  | enqueue =>
      simp only [phase] at taken
      cases taken
      have exchanged := notifyingIn_set found .notifyOne
      have counts : PushPhase.notifyOne.isNotifying.toNat = 1 := rfl
      have before : push.phase.isNotifying.toNat = 0 := by rw [phase]; rfl
      apply watched.set_pushes
      rw [List.length_append, List.length_singleton, notifying]
      omega
  | notifyOne =>
      simp only [phase] at taken
      split at taken
      · next free =>
          obtain ⟨pops, notified, rfl⟩ := Option.map_eq_some_iff.mp taken
          have exchanged := notifyingIn_set found .accepted
          rw [phase] at exchanged
          exact watched.notify free exchanged (rouses_of_notifyOne notified)
      · cases taken
  | accepted | rejected =>
      simp only [phase] at taken
      cases taken

theorem stepPop (watched : queue.Watched) {index choice : Nat} {pop : Pop Item}
    (found : queue.pops[index]? = some pop)
    (taken : queue.stepPop index choice pop = some after) : after.Watched := by
  have holds := watched.holder index pop found
  unfold BlockingQueue.stepPop at taken
  cases phase : pop.phase with
  | lock =>
      simp only [phase] at taken
      split at taken
      · next free =>
          cases taken
          apply watched.set_pop found (.inl free)
          · rfl
          · exact .inr (by simp [phase, PopPhase.isAwake])
          · simp
          · simp
      · cases taken
  | predicateDequeue =>
      have mine := holds.mp (by rw [phase]; rfl)
      simp only [phase] at taken
      obtain ⟨⟨item?, items⟩, dequeued, rfl⟩ := Option.map_eq_some_iff.mp taken
      obtain ⟨counted, empty⟩ := length_of_tryDequeue dequeued
      cases item? with
      | some item =>
          apply watched.set_pop found (.inr mine) mine
          · exact .inr (by simpa [phase, PopPhase.isAwake] using counted.le)
          · simp
          · simp
      | none =>
          have nothing : queue.items = [] := by
            rw [empty rfl] at counted
            simpa using counted.symm
          apply watched.set_pop found (.inr mine) mine
          · exact .inl nothing
          · simp [nothing]
          · simp
  | predicateShuttingDown =>
      have mine := holds.mp (by rw [phase]; rfl)
      have checked := watched.checked pop (List.mem_of_getElem? found) phase
      simp only [phase] at taken
      split at taken
      · cases taken
        apply watched.set_pop found (.inr mine) mine
        · exact .inr (by simp [phase, PopPhase.isAwake])
        · simp
        · simp
      · next running =>
          cases taken
          apply watched.set_pop found (.inr mine)
          · rfl
          · exact .inr (by simp [phase, PopPhase.isAwake])
          · exact fun _ => checked
          · exact fun _ => by simpa using running
  | waiting =>
      simp only [phase] at taken
      cases taken
  | loadShuttingDown =>
      have mine := holds.mp (by rw [phase]; rfl)
      simp only [phase] at taken
      split at taken
      · cases taken
        apply watched.set_pop found (.inr mine) mine
        · exact .inr (by simp [phase, PopPhase.isAwake])
        · simp
        · simp
      · cases taken
        apply watched.set_pop found (.inr mine)
        · rfl
        · exact .inr (by simp [phase, PopPhase.isAwake])
        · simp
        · simp
  | dequeueAgain =>
      have mine := holds.mp (by rw [phase]; rfl)
      simp only [phase] at taken
      obtain ⟨⟨item?, items⟩, dequeued, rfl⟩ := Option.map_eq_some_iff.mp taken
      obtain ⟨counted, -⟩ := length_of_tryDequeue dequeued
      apply watched.set_pop found (.inr mine)
      · rfl
      · exact .inr (by simp only [phase, PopPhase.isAwake]; omega)
      · simp
      · simp
  | returned =>
      simp only [phase] at taken
      cases taken

theorem step (watched : queue.Watched) {label : Label Item}
    (taken : queue.step label = some after) : after.Watched := by
  cases label with
  | push item =>
      cases taken
      apply watched.set_pushes
      simp [notifying, notifyingIn, PushPhase.isNotifying]
  | pushStep index woken =>
      obtain ⟨push, found, moved⟩ := Option.bind_eq_some_iff.mp taken
      exact watched.stepPush found moved
  | pop =>
      cases taken
      exact watched.add_pop (le_refl _) (.inl rfl)
  | popStep index choice =>
      obtain ⟨pop, found, moved⟩ := Option.bind_eq_some_iff.mp taken
      exact watched.stepPop found moved
  | wakeUp index =>
      obtain ⟨pop, found, moved⟩ := Option.bind_eq_some_iff.mp taken
      split at moved
      · next waiting =>
          cases moved
          exact watched.rouse (rouses_set found waiting)
      · cases moved
  | tryPop choice =>
      obtain ⟨⟨item?, items⟩, dequeued, rfl⟩ := Option.map_eq_some_iff.mp taken
      obtain ⟨counted, -⟩ := length_of_tryDequeue dequeued
      exact watched.add_pop (by omega) (.inr rfl)
  | shutdownStep =>
      simp only [BlockingQueue.step] at taken
      split at taken
      · next begins =>
          cases taken
          exact { watched with stored := fun _ => rfl, shutDown := fun returned => by cases returned }
      · next stored =>
          split at taken
          · cases taken
            have roused := watched.rouse (rouses_map queue.pops)
            refine { roused with
              stored := fun _ => watched.stored (stored.trans_ne (by decide))
              shutDown := fun _ pop member waiting => ?_ }
            obtain ⟨old, -, rfl⟩ := List.mem_map.mp member
            by_cases slept : old.phase = .waiting
            · rw [wake_of_waiting slept] at waiting
              cases waiting
            · rw [wake_of_not_waiting slept] at waiting
              exact slept waiting
          · cases taken
      · cases taken

theorem of_run {labels : List (Label Item)}
    (run : Run (Taken BlockingQueue.step) {} labels queue) : queue.Watched :=
  run.preserves Watched (fun watched taken => watched.step taken) watched_empty

end Watched

/-! ## Calls that are under way go on by themselves -/

/-- A step of a call that is under way. -/
def Label.isOwn : Label Item → Bool
  | pushStep _ _ | popStep _ _ => true
  | push _ | pop | wakeUp _ | tryPop _ | shutdownStep => false

def ownStep (queue : BlockingQueue Item) (label : Label Item) : Option (BlockingQueue Item) :=
  if label.isOwn then queue.step label else none

def stepsLeft (queue : BlockingQueue Item) : Nat :=
  (queue.pushes.map (·.phase.stepsLeft)).sum +
    (queue.pops.map (·.phase.stepsLeft)).sum

theorem stepsLeft_of_pushStep {queue after : BlockingQueue Item} {index : Nat} {woken : Option Nat}
    {push : Push Item} (found : queue.pushes[index]? = some push)
    (taken : queue.stepPush index woken push = some after) : after.stepsLeft < queue.stepsLeft := by
  have less : ∀ next items pops gained, (pops.map (·.phase.stepsLeft)).sum ≤
      (queue.pops.map (·.phase.stepsLeft)).sum + gained →
      next.stepsLeft + gained < push.phase.stepsLeft →
      stepsLeft { queue with pushes := queue.pushes.set index { push with phase := next }, items,
                             pops } < queue.stepsLeft := by
    intro next items pops gained woke fewer
    have share : ((queue.pushes.set index { push with phase := next }).map
        (·.phase.stepsLeft)).sum + push.phase.stepsLeft =
          (queue.pushes.map (·.phase.stepsLeft)).sum + next.stepsLeft :=
      sum_map_set (fun push : Push Item => push.phase.stepsLeft) found { push with phase := next }
    simp only [stepsLeft]
    omega
  unfold BlockingQueue.stepPush at taken
  cases phase : push.phase with
  | loadShuttingDown =>
      simp only [phase] at taken
      cases taken
      apply less _ _ _ 0 (le_refl _)
      rw [phase]
      split <;> decide
  | enqueue =>
      simp only [phase] at taken
      cases taken
      exact less _ _ _ 0 (le_refl _) (by rw [phase]; decide)
  | notifyOne =>
      simp only [phase] at taken
      split at taken
      · obtain ⟨pops, notified, rfl⟩ := Option.map_eq_some_iff.mp taken
        apply less _ _ _ 3 _ (by rw [phase]; decide)
        cases woken with
        | none =>
            simp only [notifyOne] at notified
            split at notified <;> cases notified
            exact Nat.le_add_right _ _
        | some sleeper =>
            obtain ⟨pop, there, roused⟩ := Option.bind_eq_some_iff.mp notified
            split at roused
            · next waiting =>
                cases roused
                have share := sum_map_set (fun pop : Pop Item => pop.phase.stepsLeft) there pop.wake
                have slept : pop.phase.stepsLeft = 3 := by rw [waiting]; rfl
                have wakes : pop.wake.phase.stepsLeft = 6 := by rw [wake_of_waiting waiting]; rfl
                omega
            · cases roused
      · cases taken
  | accepted | rejected =>
      simp only [phase] at taken
      cases taken

theorem stepsLeft_of_popStep {queue after : BlockingQueue Item} {index choice : Nat}
    {pop : Pop Item} (found : queue.pops[index]? = some pop)
    (taken : queue.stepPop index choice pop = some after) : after.stepsLeft < queue.stepsLeft := by
  have less : ∀ (next : Pop Item) items mutex, next.phase.stepsLeft < pop.phase.stepsLeft →
      stepsLeft { queue with pops := queue.pops.set index next, items, mutex } <
        queue.stepsLeft := by
    intro next items mutex fewer
    have share := sum_map_set (fun pop : Pop Item => pop.phase.stepsLeft) found next
    simp only [stepsLeft]
    omega
  unfold BlockingQueue.stepPop at taken
  cases phase : pop.phase with
  | lock =>
      simp only [phase] at taken
      split at taken
      · cases taken
        exact less _ _ _ (by simp [phase, PopPhase.stepsLeft])
      · cases taken
  | predicateDequeue =>
      simp only [phase] at taken
      obtain ⟨⟨item?, items⟩, -, rfl⟩ := Option.map_eq_some_iff.mp taken
      cases item? with
      | some item => exact less _ _ _ (by simp [phase, PopPhase.stepsLeft])
      | none => exact less _ _ _ (by simp [phase, PopPhase.stepsLeft])
  | predicateShuttingDown | loadShuttingDown =>
      simp only [phase] at taken
      split at taken
      · cases taken
        exact less _ _ _ (by simp [phase, PopPhase.stepsLeft])
      · cases taken
        exact less _ _ _ (by simp [phase, PopPhase.stepsLeft])
  | dequeueAgain =>
      simp only [phase] at taken
      obtain ⟨⟨item?, items⟩, -, rfl⟩ := Option.map_eq_some_iff.mp taken
      exact less _ _ _ (by simp [phase, PopPhase.stepsLeft])
  | waiting | returned =>
      simp only [phase] at taken
      cases taken

theorem step_of_ownStep {queue after : BlockingQueue Item} {label : Label Item}
    (taken : queue.ownStep label = some after) : queue.step label = some after := by
  unfold ownStep at taken
  split at taken
  · exact taken
  · cases taken

theorem stepsLeft_of_ownStep {queue after : BlockingQueue Item} {label : Label Item}
    (taken : queue.ownStep label = some after) : after.stepsLeft < queue.stepsLeft := by
  have moved := step_of_ownStep taken
  cases label with
  | pushStep index woken =>
      obtain ⟨push, found, pushed⟩ := Option.bind_eq_some_iff.mp moved
      exact stepsLeft_of_pushStep found pushed
  | popStep index choice =>
      obtain ⟨pop, found, popped⟩ := Option.bind_eq_some_iff.mp moved
      exact stepsLeft_of_popStep found popped
  | push | pop | wakeUp | tryPop | shutdownStep => cases taken

theorem shutdown_of_ownStep {queue after : BlockingQueue Item} {label : Label Item}
    (taken : queue.ownStep label = some after) : after.shutdown = queue.shutdown := by
  have moved := step_of_ownStep taken
  cases label with
  | pushStep index woken =>
      obtain ⟨push, -, pushed⟩ := Option.bind_eq_some_iff.mp moved
      unfold BlockingQueue.stepPush at pushed
      split at pushed
      · cases pushed
        rfl
      · cases pushed
        rfl
      · split at pushed
        · obtain ⟨pops, -, rfl⟩ := Option.map_eq_some_iff.mp pushed
          rfl
        · cases pushed
      · cases pushed
      · cases pushed
  | popStep index choice =>
      obtain ⟨pop, -, popped⟩ := Option.bind_eq_some_iff.mp moved
      unfold BlockingQueue.stepPop at popped
      split at popped
      · split at popped <;> cases popped
        rfl
      · obtain ⟨⟨item?, items⟩, -, rfl⟩ := Option.map_eq_some_iff.mp popped
        cases item? <;> rfl
      · split at popped <;> cases popped <;> rfl
      · cases popped
      · split at popped <;> cases popped <;> rfl
      · obtain ⟨⟨item?, items⟩, -, rfl⟩ := Option.map_eq_some_iff.mp popped
        rfl
      · cases popped
  | push | pop | wakeUp | tryPop | shutdownStep => cases taken

theorem exists_tryDequeue (items : List Item) : ∃ taken, tryDequeue items 0 = some taken := by
  cases items with
  | nil => exact ⟨_, rfl⟩
  | cons first rest => exact ⟨_, rfl⟩

theorem exists_popStep {queue : BlockingQueue Item} {index : Nat} {pop : Pop Item}
    (found : queue.pops[index]? = some pop)
    (able : pop.phase.holdsMutex = true ∨ pop.phase = .lock ∧ queue.mutex = none) :
    ∃ after, queue.ownStep (.popStep index 0) = some after := by
  have steps : ∃ after, queue.stepPop index 0 pop = some after := by
    obtain ⟨dequeued, dequeues⟩ := exists_tryDequeue queue.items
    unfold BlockingQueue.stepPop
    cases phase : pop.phase with
    | lock =>
        simp only [phase, PopPhase.holdsMutex, Bool.false_eq_true, false_or] at able
        exact ⟨_, if_pos able.2⟩
    | predicateDequeue | dequeueAgain =>
        exact ⟨_, by simp only [dequeues, Option.map_some]; rfl⟩
    | predicateShuttingDown | loadShuttingDown =>
        cases queue.shuttingDown <;> exact ⟨_, rfl⟩
    | waiting | returned => simp [phase, PopPhase.holdsMutex] at able
  obtain ⟨after, moves⟩ := steps
  exact ⟨after, by simp [ownStep, Label.isOwn, step, found, moves]⟩

/-- A call that has not returned can go on, or another one can that will wake it. -/
theorem Watched.exists_ownStep {queue : BlockingQueue Item} (watched : queue.Watched)
    {pop : Pop Item} (member : pop ∈ queue.pops) (calling : pop.phase ≠ .returned)
    (due : queue.items ≠ [] ∨ queue.shutdown = .returned) :
    ∃ label after, queue.ownStep label = some after := by
  obtain ⟨index, found⟩ := List.getElem?_of_mem member
  cases holds : queue.mutex with
  | some holder =>
      have inside := watched.held holder holds
      have there := List.getElem?_eq_getElem inside
      obtain ⟨after, moves⟩ := exists_popStep there (.inl ((watched.holder _ _ there).mpr holds))
      exact ⟨_, after, moves⟩
  | none =>
      have nobody : ∀ (place : Nat) other, queue.pops[place]? = some other →
          other.phase.holdsMutex = false := by
        intro place other there
        have holder := watched.holder place other there
        rw [holds] at holder
        simpa using holder
      by_cases locks : ∃ (place : Nat) (other : Pop Item),
          queue.pops[place]? = some other ∧ other.phase = .lock
      · obtain ⟨place, other, there, phase⟩ := locks
        obtain ⟨after, moves⟩ := exists_popStep there (.inr ⟨phase, holds⟩)
        exact ⟨_, after, moves⟩
      · have waiting : pop.phase = .waiting := by
          have notHolding := nobody index pop found
          have notLocking : pop.phase ≠ .lock := fun phase => locks ⟨index, pop, found, phase⟩
          cases phase : pop.phase <;> simp_all [PopPhase.holdsMutex]
        have noneAwake : queue.awake = 0 := by
          by_contra awake
          obtain ⟨place, other, there, looks⟩ := exists_share_of_sum_pos
            (fun pop : Pop Item => pop.phase.isAwake.toNat) (Nat.pos_of_ne_zero awake)
          have notHolding := nobody place other there
          have notLocking : other.phase ≠ .lock := fun phase => locks ⟨place, other, there, phase⟩
          cases phase : other.phase <;> simp_all [PopPhase.holdsMutex, PopPhase.isAwake]
        rcases due with nonempty | returned
        · have covered := watched.asleep pop member waiting
          have positive := List.length_pos_iff.mpr nonempty
          have announced : 0 < queue.notifying := by omega
          obtain ⟨place, push, there, notifies⟩ := exists_share_of_sum_pos
            (fun push : Push Item => push.phase.isNotifying.toNat) announced
          have phase : push.phase = .notifyOne := by
            cases phase : push.phase <;> simp_all [PushPhase.isNotifying]
          refine ⟨.pushStep place (some index), Option.isSome_iff_exists.mp ?_⟩
          simp [ownStep, Label.isOwn, BlockingQueue.step, there, BlockingQueue.stepPush, phase,
            holds, notifyOne, found, waiting]
        · exact absurd waiting (watched.shutDown returned pop member)

/-- What becomes of the pops of a queue, from now on. -/
structure WakesUp (queue : BlockingQueue Item) : Prop where
  /-- While a pop sleeps, every item is about to be announced or looked for. -/
  covered : (∃ pop ∈ queue.pops, pop.phase = .waiting) →
    queue.items.length ≤ queue.notifying + queue.awake
  /-- The calls under way take a bounded number of steps. -/
  bounded : ∀ labels finish, Run (Taken ownStep) queue labels finish →
    labels.length ≤ queue.stepsLeft
  /-- When they have come to rest, no pop is left sleeping beside an item. -/
  served : ∀ labels finish, Run (Taken ownStep) queue labels finish →
    (∀ label, finish.ownStep label = none) →
    finish.items = [] ∨ ∀ pop ∈ finish.pops, pop.phase = .returned
  /-- After a shutdown they come to rest with every pop returned. -/
  released : queue.shutdown = .returned → ∀ labels finish,
    Run (Taken ownStep) queue labels finish → (∀ label, finish.ownStep label = none) →
    ∀ pop ∈ finish.pops, pop.phase = .returned

theorem Watched.wakesUp {queue : BlockingQueue Item} (watched : queue.Watched) :
    queue.WakesUp := by
  have rests : ∀ {labels finish}, Run (Taken ownStep) queue labels finish →
      (∀ label, finish.ownStep label = none) → finish.items ≠ [] ∨ finish.shutdown = .returned →
      ∀ pop ∈ finish.pops, pop.phase = .returned := by
    intro labels finish run stuck due pop member
    have still : finish.Watched := (run.mono step_of_ownStep).preserves Watched
      (fun before taken => before.step taken) watched
    by_contra calling
    obtain ⟨label, after, moves⟩ := still.exists_ownStep member calling due
    rw [stuck label] at moves
    cases moves
  refine ⟨?_, ?_, ?_, ?_⟩
  · intro asleep
    obtain ⟨pop, member, waiting⟩ := asleep
    exact watched.asleep pop member waiting
  · intro labels finish run
    exact (Nat.le_add_right _ _).trans (run.length_add_measure_le stepsLeft stepsLeft_of_ownStep)
  · intro labels finish run stuck
    by_cases empty : finish.items = []
    · exact .inl empty
    · exact .inr (rests run stuck (.inl empty))
  · intro returned labels finish run stuck
    have same : finish.shutdown = queue.shutdown := run.preserves (·.shutdown = queue.shutdown)
      (fun before taken => (shutdown_of_ownStep taken).trans before) rfl
    exact rests run stuck (.inr (same.trans returned))

end BlockingQueue

/-- Neither queue lets a pop sleep while it has an item. -/
theorem no_lost_wakeUp {jobCalls : List (BlockingQueue.Label Job)} {jobs : BlockingQueue Job}
    {commandCalls : List (BlockingQueue.Label GameCommand)} {commands : BlockingQueue GameCommand}
    (jobRun : Run (Taken JobQueue.step) {} jobCalls jobs)
    (commandRun : Run (Taken GameLogicQueue.step) {} commandCalls commands) :
    jobs.WakesUp ∧ commands.WakesUp := by
  have jobSteps : Run (Taken BlockingQueue.step) {} jobCalls jobs :=
    jobRun.mono JobQueue.step_offers
  exact ⟨(BlockingQueue.Watched.of_run jobSteps).wakesUp,
    (BlockingQueue.Watched.of_run commandRun).wakesUp⟩

/-- A pop sleeps, and a push has enqueued an item that it has not announced yet. -/
def enqueuedBesideSleeper {Item : Type} (item : Item) : List (BlockingQueue.Label Item) :=
  [.pop, .popStep 0 0, .popStep 0 0, .popStep 0 0, .push item, .pushStep 0 none, .pushStep 0 none]

theorem no_lost_wakeUp_of_sleeper :
    ∃ jobs commands,
      Run (Taken JobQueue.step) {} (enqueuedBesideSleeper { session := 7, packet := none }) jobs ∧
      Run (Taken GameLogicQueue.step) {}
        (enqueuedBesideSleeper { payload := .playerDisconnect { playerId := 1 }, senderSessionId := 7 })
        commands ∧
      (jobs.items.length = 1 ∧ ∃ pop ∈ jobs.pops, pop.phase = .waiting) ∧ jobs.WakesUp ∧
      commands.WakesUp := by
  obtain ⟨_, jobs, jobsCreated, jobRun, asleep⟩ := exists_run_of_execute
    JobQueue.step (some {}) (enqueuedBesideSleeper { session := 7, packet := none })
    (fun jobs => jobs.items.length = 1 ∧ ∃ pop ∈ jobs.pops, pop.phase = .waiting) (by decide +kernel)
  obtain ⟨_, commands, commandsCreated, commandRun, -⟩ := exists_run_of_execute
    GameLogicQueue.step (some {})
    (enqueuedBesideSleeper { payload := .playerDisconnect { playerId := 1 }, senderSessionId := 7 })
    (fun commands => commands.items.length = 1) (by decide +kernel)
  cases jobsCreated
  cases commandsCreated
  obtain ⟨jobsWake, commandsWake⟩ := no_lost_wakeUp jobRun commandRun
  exact ⟨jobs, commands, jobRun, commandRun, asleep, jobsWake, commandsWake⟩

end CppMMO.Utils
