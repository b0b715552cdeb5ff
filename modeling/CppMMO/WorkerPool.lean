import CppMMO.Server

/-! The job workers one by one, with both queues first in, first out.

A worker takes the packet at the front of the job queue, makes something of it and hands
that on before it takes the next. Packets are numbered in the order in which they were
read; the number is kept for reference only. -/

set_option autoImplicit false

namespace CppMMO

open CppMMO.Lib CppMMO.Protocol CppMMO.Game CppMMO.Utils

structure ReadPacket where
  number : Nat
  job : Job
deriving DecidableEq

/-- What a worker has in hand, and the packet it comes from. -/
structure Task where
  packet : ReadPacket
  work : Work
deriving DecidableEq

/-- A worker without a task waits in `PopJob`. `read` lists all packets that were read and
`pushed` the commands that workers put on the game logic queue. -/
structure WorkerPool where
  workers : List (Option Task)
  read : List Job := []
  jobQueue : List ReadPacket := []
  pushed : List (ReadPacket × GameCommand) := []

/-- What the worker itself goes on with. A ticket is verified on another thread. -/
def Utils.Handling.work? (session : SessionId) : Handling → Option Work
  | .ignore | .verifySessionTicket _ _ _ => none
  | .pushGameCommand command => some (.pushGameCommand command)
  | .publish playerId message => some (.publish session playerId message)
  | .sendLoginFailure => some (.sendLoginFailure session)

namespace WorkerPool

/-- `JobProcessor::Start`. -/
def start (numThreads : Nat) : WorkerPool := { workers := List.replicate numThreads none }

inductive Label where
  | receive (session : SessionId) (packet : Option UnifiedPacket)
  | popJob (worker : Nat)
  | processJob (worker : Nat) (playerId : PlayerId) (endpointKnown : Bool)
  | handOn (worker : Nat)
deriving DecidableEq

def step (pool : WorkerPool) : Label → Option WorkerPool
  | .receive session packet =>
      some { pool with
        read := pool.read ++ [{ session, packet }]
        jobQueue := pool.jobQueue ++ [{ number := pool.read.length, job := { session, packet } }] }
  | .popJob worker =>
      match pool.workers[worker]?, pool.jobQueue with
      | some none, packet :: jobQueue => some { pool with
          workers := pool.workers.set worker (some { packet, work := .job packet.job }), jobQueue }
      | _, _ => none
  | .processJob worker playerId endpointKnown =>
      match pool.workers[worker]? with
      | some (some { packet, work := .job job }) =>
          (handleJob job playerId endpointKnown).map fun handling => { pool with
            workers := pool.workers.set worker
              ((handling.work? job.session).map ({ packet, work := · })) }
      | _ => none
  | .handOn worker =>
      match pool.workers[worker]? with
      | some (some { packet, work := .pushGameCommand command }) => some { pool with
          workers := pool.workers.set worker none
          pushed := pool.pushed ++ [(packet, command)] }
      | some (some { work := .publish _ _ _, .. }) | some (some { work := .sendLoginFailure _, .. }) =>
          some { pool with workers := pool.workers.set worker none }
      | _ => none

abbrev Runs (start : WorkerPool) (labels : List Label) (finish : WorkerPool) : Prop :=
  Run (Taken step) start labels finish

def Holds (pool : WorkerPool) (worker : Nat) (packet : ReadPacket) : Prop :=
  ∃ work, pool.workers[worker]? = some (some { packet, work })

/-- A command in hand was made of the packet it comes with. -/
def Made (packet : ReadPacket) : Work → Prop
  | .job job => job = packet.job
  | .pushGameCommand command => ∃ playerId endpointKnown,
      handleJob packet.job playerId endpointKnown = some (.pushGameCommand command)
  | .publish _ _ _ | .sendLoginFailure _ => True

theorem made_of_work? {packet : ReadPacket} {playerId : PlayerId} {endpointKnown : Bool}
    {handling : Handling} (handled : handleJob packet.job playerId endpointKnown = some handling)
    {work : Work} (goesOn : handling.work? packet.job.session = some work) : Made packet work := by
  cases handling with
  | ignore | verifySessionTicket => cases goesOn
  | pushGameCommand command =>
      cases goesOn
      exact ⟨playerId, endpointKnown, handled⟩
  | publish | sendLoginFailure =>
      cases goesOn
      trivial

theorem waits_of_popJob {pool after : WorkerPool} {worker : Nat}
    (taken : pool.step (.popJob worker) = some after) : pool.workers[worker]? = some none := by
  simp only [step] at taken
  split at taken
  · next waits _ => exact waits
  · cases taken

/-- What a worker's own step may do: go on with the packet it has, or be done with it. -/
theorem step_cases {pool after : WorkerPool} {label : Label} (taken : pool.step label = some after) :
    (∃ session packet, label = .receive session packet ∧ after = { pool with
        read := pool.read ++ [{ session, packet }]
        jobQueue := pool.jobQueue ++ [{ number := pool.read.length, job := { session, packet } }] }) ∨
      (∃ worker packet jobQueue, label = .popJob worker ∧ pool.workers[worker]? = some none ∧
        pool.jobQueue = packet :: jobQueue ∧ after = { pool with
          workers := pool.workers.set worker (some { packet, work := .job packet.job }), jobQueue }) ∨
      (∃ worker old task, pool.workers[worker]? = some (some old) ∧
        (∀ other ∈ task, other.packet = old.packet ∧
          (Made old.packet old.work → Made old.packet other.work)) ∧
        after = { pool with workers := pool.workers.set worker task }) ∨
      ∃ worker packet command,
        pool.workers[worker]? = some (some { packet, work := .pushGameCommand command }) ∧
        after = { pool with
          workers := pool.workers.set worker none
          pushed := pool.pushed ++ [(packet, command)] } := by
  cases label with
  | receive session packet =>
      cases taken
      exact .inl ⟨session, packet, rfl, rfl⟩
  | popJob worker =>
      simp only [step] at taken
      split at taken
      · next packet jobQueue free front =>
          cases taken
          exact .inr (.inl ⟨worker, packet, jobQueue, rfl, free, front, rfl⟩)
      · cases taken
  | processJob worker playerId endpointKnown =>
      simp only [step] at taken
      split at taken
      · next packet job holds =>
          obtain ⟨handling, handled, rfl⟩ := Option.map_eq_some_iff.mp taken
          refine .inr (.inr (.inl ⟨worker, _, _, holds, ?_, rfl⟩))
          intro other member
          obtain ⟨work, goesOn, rfl⟩ := Option.map_eq_some_iff.mp member
          refine ⟨rfl, fun same => ?_⟩
          have same : job = packet.job := same
          subst same
          exact made_of_work? handled goesOn
      · cases taken
  | handOn worker =>
      simp only [step] at taken
      split at taken
      · next packet command holds =>
          cases taken
          exact .inr (.inr (.inr ⟨worker, packet, command, holds, rfl⟩))
      · next holds =>
          cases taken
          exact .inr (.inr (.inl ⟨worker, _, none, holds, by simp, rfl⟩))
      · next holds =>
          cases taken
          exact .inr (.inr (.inl ⟨worker, _, none, holds, by simp, rfl⟩))
      · cases taken

end WorkerPool

end CppMMO
