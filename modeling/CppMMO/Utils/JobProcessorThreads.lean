import CppMMO.Lib.Progress
import CppMMO.Utils.JobProcessor

/-! `JobProcessor::Start`, `Stop` and `WorkerLoop`: the worker threads over their life.

One thread calls `Start` and `Stop`. The jobs and the shutdown signals are in one queue, and
nothing calls `JobQueue::Shutdown`: a push is always accepted, and a pop takes any entry. -/

set_option autoImplicit false

namespace CppMMO.Utils

open CppMMO.Protocol CppMMO.Game CppMMO.Lib

/-- A job on the queue has its `isShutdownSignal` set or is a client packet. -/
inductive QueuedJob where
  | packet (job : Job)
  | shutdownSignal
deriving DecidableEq

def QueuedJob.packets : QueuedJob → List Job
  | .packet job => [job]
  | .shutdownSignal => []

inductive WorkerThread where
  | popJob
  | handleJob (job : Job)
  | exited
deriving DecidableEq

def WorkerThread.jobs : WorkerThread → List Job
  | .handleJob job => [job]
  | .popJob | .exited => []

/-- What a worker goes on with when `PopJob` returns. -/
def QueuedJob.received : QueuedJob → WorkerThread
  | .packet job => .handleJob job
  | .shutdownSignal => .exited

/-- Where the thread is that calls `Start` and `Stop`: the workers it still has to create, the
shutdown signals it still has to push, and the worker it joins. -/
inductive OwnerPhase where
  | idle
  | starting (left : Nat)
  | signalling (left : Nat)
  | joining (next : Nat)
deriving DecidableEq

/-- `pushed` and `handled` are kept for reference only. -/
structure JobProcessor where
  running : Bool := false
  workerThreads : List WorkerThread := []
  jobQueue : List QueuedJob := []
  owner : OwnerPhase := .idle
  pushed : List Job := []
  handled : List (Job × Handling) := []
deriving DecidableEq

namespace JobProcessor

inductive Label where
  | start (numThreads : Int)
  | stop
  | advance
  | pushJob (job : Job)
  | popJob (worker : Nat) (choice : Nat)
  | handleJob (worker : Nat) (playerId : PlayerId) (endpointKnown : Bool)
deriving DecidableEq

/-- `Start` never asks whether `Stop` was called: nothing clears `m_running`. -/
def start (processor : JobProcessor) (numThreads : Int) : JobProcessor :=
  if processor.running then processor
  else { processor with running := true, owner := .starting numThreads.toNat }

def stop (processor : JobProcessor) : JobProcessor :=
  if processor.running then
    { processor with owner := .signalling processor.workerThreads.length }
  else processor

/-- The next step of `Start` or `Stop`; a join blocks until the worker has exited. -/
def advance (processor : JobProcessor) : Option JobProcessor :=
  match processor.owner with
  | .idle => none
  | .starting 0 => some { processor with owner := .idle }
  | .starting (left + 1) => some { processor with
      workerThreads := processor.workerThreads ++ [.popJob], owner := .starting left }
  | .signalling 0 => some { processor with owner := .joining 0 }
  | .signalling (left + 1) => some { processor with
      jobQueue := processor.jobQueue ++ [.shutdownSignal], owner := .signalling left }
  | .joining next =>
      match processor.workerThreads[next]? with
      | none => some { processor with workerThreads := [], owner := .idle }
      | some .exited => some { processor with owner := .joining (next + 1) }
      | some .popJob | some (.handleJob _) => none

def popJob (processor : JobProcessor) (worker choice : Nat) : Option JobProcessor :=
  match processor.workerThreads[worker]?, processor.jobQueue[choice]? with
  | some .popJob, some entry => some { processor with
      workerThreads := processor.workerThreads.set worker entry.received
      jobQueue := processor.jobQueue.eraseIdx choice }
  | _, _ => none

/-- Whatever is made of the job, an exception included, the worker goes back to `PopJob`. -/
def handle (processor : JobProcessor) (worker : Nat) (playerId : PlayerId)
    (endpointKnown : Bool) : Option JobProcessor :=
  match processor.workerThreads[worker]? with
  | some (.handleJob job) => (Utils.handleJob job playerId endpointKnown).map fun handling =>
      { processor with
        workerThreads := processor.workerThreads.set worker .popJob
        handled := processor.handled ++ [(job, handling)] }
  | _ => none

def step (processor : JobProcessor) : Label → Option JobProcessor
  | .start numThreads => if processor.owner = .idle then some (processor.start numThreads) else none
  | .stop => if processor.owner = .idle then some processor.stop else none
  | .advance => processor.advance
  | .pushJob job => some { processor with
      jobQueue := processor.jobQueue ++ [.packet job], pushed := processor.pushed ++ [job] }
  | .popJob worker choice => processor.popJob worker choice
  | .handleJob worker playerId endpointKnown => processor.handle worker playerId endpointKnown

abbrev Runs (begin : JobProcessor) (labels : List Label) (finish : JobProcessor) : Prop :=
  Run (Taken step) begin labels finish

/-- The steps of the threads themselves, once a call has begun. -/
def Label.isOwn : Label → Bool
  | advance | popJob _ _ | handleJob _ _ _ => true
  | start _ | stop | pushJob _ => false

def ownStep (processor : JobProcessor) (label : Label) : Option JobProcessor :=
  if label.isOwn then processor.step label else none

/-- The jobs that wait in the queue. -/
def queued (processor : JobProcessor) : List Job := processor.jobQueue.flatMap QueuedJob.packets

/-- The jobs that workers have in hand. -/
def inHand (processor : JobProcessor) : List Job := processor.workerThreads.flatMap WorkerThread.jobs

def isStopping (processor : JobProcessor) : Bool :=
  match processor.owner with
  | .signalling _ | .joining _ => true
  | .idle | .starting _ => false

end JobProcessor

end CppMMO.Utils
