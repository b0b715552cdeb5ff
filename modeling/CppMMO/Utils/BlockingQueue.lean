import CppMMO.Lib.Transition
import CppMMO.Utils.JobProcessor

/-! `JobQueue` and `GameLogicQueue`, call by call: the two classes have the same push, the
same blocking pop and the same shutdown, over different items.

The calls of all threads interleave at every access to the concurrent queue, the shutdown
flag, the mutex and the condition. The concurrent queue is a multiset: a dequeue takes any
item, and fails only when there is none. -/

set_option autoImplicit false

namespace CppMMO.Utils

open CppMMO.Lib CppMMO.Game

/-- What a push does next. -/
inductive PushPhase where
  | loadShuttingDown
  | enqueue
  | notifyOne
  | accepted
  | rejected
deriving DecidableEq

structure Push (Item : Type) where
  item : Item
  phase : PushPhase := .loadShuttingDown
deriving DecidableEq

/-- A push is accepted when its item is in the queue. -/
def Push.accepted {Item : Type} (push : Push Item) : List Item :=
  match push.phase with
  | .notifyOne | .accepted => [push.item]
  | .loadShuttingDown | .enqueue | .rejected => []

/-- What a pop does next. The predicate of the wait is its dequeue and, when that fails, its
load of the flag; a pop that is woken takes the mutex and evaluates it again. -/
inductive PopPhase where
  | lock
  | predicateDequeue
  | predicateShuttingDown
  | waiting
  | loadShuttingDown
  | dequeueAgain
  | returned
deriving DecidableEq

/-- `job` is the local variable that is returned, without an item while it is default
constructed. `dequeued` lists what the call took out of the queue, for reference only. -/
structure Pop (Item : Type) where
  phase : PopPhase := .lock
  job : Option Item := none
  dequeued : List Item := []
deriving DecidableEq

def Pop.returned {Item : Type} (pop : Pop Item) : List Item :=
  if pop.phase = .returned then pop.job.toList else []

/-- What a call that has not returned yet has taken and will return. -/
def Pop.held {Item : Type} (pop : Pop Item) : List Item :=
  if pop.phase = .returned then [] else pop.job.toList

def Pop.wake {Item : Type} (pop : Pop Item) : Pop Item :=
  if pop.phase = .waiting then { pop with phase := .lock } else pop

inductive ShutdownPhase where
  | store
  | notifyAll
  | returned
deriving DecidableEq

/-- `mutex` is the pop that holds the mutex. The other calls hold it only while they notify. -/
structure BlockingQueue (Item : Type) where
  items : List Item := []
  shuttingDown : Bool := false
  mutex : Option Nat := none
  pushes : List (Push Item) := []
  pops : List (Pop Item) := []
  shutdown : ShutdownPhase := .store
deriving DecidableEq

namespace BlockingQueue

variable {Item : Type}

inductive Label (Item : Type) where
  | push (item : Item)
  | pushStep (push : Nat) (woken : Option Nat)
  | pop
  | popStep (pop : Nat) (choice : Nat)
  | wakeUp (pop : Nat)
  | tryPop (choice : Nat)
  | shutdownStep
deriving DecidableEq

/-- `try_dequeue`: the item it takes, if any, and what is left. -/
def tryDequeue (items : List Item) (choice : Nat) : Option (Option Item × List Item) :=
  match items with
  | [] => some (none, [])
  | first :: rest =>
      ((first :: rest)[choice]?).map fun item => (some item, (first :: rest).eraseIdx choice)

/-- `notify_one` wakes one of the waiting pops, if there is one. -/
def notifyOne (pops : List (Pop Item)) (woken : Option Nat) : Option (List (Pop Item)) :=
  match woken with
  | none => if ∀ pop ∈ pops, pop.phase ≠ .waiting then some pops else none
  | some index => pops[index]?.bind fun pop =>
      if pop.phase = .waiting then some (pops.set index pop.wake) else none

def stepPush (queue : BlockingQueue Item) (index : Nat) (woken : Option Nat) (push : Push Item) :
    Option (BlockingQueue Item) :=
  let goOn (phase : PushPhase) := queue.pushes.set index { push with phase }
  match push.phase with
  | .loadShuttingDown =>
      some { queue with pushes := goOn (if queue.shuttingDown then .rejected else .enqueue) }
  | .enqueue =>
      some { queue with pushes := goOn .notifyOne, items := queue.items ++ [push.item] }
  | .notifyOne =>
      if queue.mutex = none then
        (notifyOne queue.pops woken).map fun pops =>
          { queue with pushes := goOn .accepted, pops }
      else none
  | .accepted | .rejected => none

def stepPop (queue : BlockingQueue Item) (index choice : Nat) (pop : Pop Item) :
    Option (BlockingQueue Item) :=
  let goOn (pop : Pop Item) := queue.pops.set index pop
  match pop.phase with
  | .lock =>
      if queue.mutex = none then
        some { queue with pops := goOn { pop with phase := .predicateDequeue }, mutex := some index }
      else none
  | .predicateDequeue =>
      (tryDequeue queue.items choice).map fun (taken, items) =>
        match taken with
        | some item => { queue with
            pops := goOn { phase := .loadShuttingDown, job := some item,
                           dequeued := pop.dequeued ++ [item] }
            items }
        | none => { queue with pops := goOn { pop with phase := .predicateShuttingDown } }
  | .predicateShuttingDown =>
      if queue.shuttingDown then
        some { queue with pops := goOn { pop with phase := .loadShuttingDown } }
      else some { queue with pops := goOn { pop with phase := .waiting }, mutex := none }
  | .waiting => none
  | .loadShuttingDown =>
      if queue.shuttingDown then
        some { queue with pops := goOn { pop with phase := .dequeueAgain } }
      else some { queue with pops := goOn { pop with phase := .returned }, mutex := none }
  | .dequeueAgain =>
      (tryDequeue queue.items choice).map fun (taken, items) =>
        { queue with
          pops := goOn { phase := .returned, job := taken,
                         dequeued := pop.dequeued ++ taken.toList }
          items
          mutex := none }
  | .returned => none

def step (queue : BlockingQueue Item) : Label Item → Option (BlockingQueue Item)
  | .push item => some { queue with pushes := queue.pushes ++ [{ item }] }
  | .pushStep index woken => queue.pushes[index]?.bind (queue.stepPush index woken)
  | .pop => some { queue with pops := queue.pops ++ [{}] }
  | .popStep index choice => queue.pops[index]?.bind (queue.stepPop index choice)
  | .wakeUp index => queue.pops[index]?.bind fun pop =>
      if pop.phase = .waiting then
        some { queue with pops := queue.pops.set index pop.wake }
      else none
  | .tryPop choice =>
      (tryDequeue queue.items choice).map fun (taken, items) =>
        { queue with
          pops := queue.pops ++ [{ phase := .returned, job := taken, dequeued := taken.toList }]
          items }
  | .shutdownStep =>
      match queue.shutdown with
      | .store => some { queue with shuttingDown := true, shutdown := .notifyAll }
      | .notifyAll =>
          if queue.mutex = none then
            some { queue with pops := queue.pops.map Pop.wake, shutdown := .returned }
          else none
      | .returned => none

def accepted (queue : BlockingQueue Item) : List Item := queue.pushes.flatMap (·.accepted)

def returned (queue : BlockingQueue Item) : List Item := queue.pops.flatMap (·.returned)

def held (queue : BlockingQueue Item) : List Item := queue.pops.flatMap (·.held)

end BlockingQueue

/-- `PushJob`, `PopJob` and `Shutdown`: this queue has no `tryPop`. -/
def JobQueue.step (queue : BlockingQueue Job) (label : BlockingQueue.Label Job) :
    Option (BlockingQueue Job) :=
  match label with
  | .tryPop _ => none
  | .push _ | .pushStep _ _ | .pop | .popStep _ _ | .wakeUp _ | .shutdownStep => queue.step label

/-- `PushGameCommand`, `PopGameCommand`, `TryPopGameCommand` and `Shutdown`. -/
def GameLogicQueue.step (queue : BlockingQueue GameCommand)
    (label : BlockingQueue.Label GameCommand) : Option (BlockingQueue GameCommand) :=
  queue.step label

end CppMMO.Utils
