import CppMMO.Game.Managers.GameLoop
import CppMMO.Utils.BlockingQueue

/-! `ProcessPendingCommands`, access by access, in a game thread that ticks. The job workers and
the network threads push between any two accesses, and `Stop` clears the running flag at any
moment. -/

set_option autoImplicit false

namespace CppMMO.Game.Managers

open CppMMO.Lib CppMMO.Utils

/-- What the game thread does next. A popped command is not in the batch until `m_running` has been
looked at; the batch is processed from its front. -/
inductive CommandPhase where
  | notRunning
  | loadRunning
  | collect (commandBatch : List GameCommand)
  | tryPop (commandBatch : List GameCommand)
  | checkRunning (commandBatch : List GameCommand) (command : GameCommand)
  | process (commandBatch : List GameCommand)
  | laterStages
deriving DecidableEq

/-- The commands in the local variables of the call. -/
def CommandPhase.inHand : CommandPhase → List GameCommand
  | collect commandBatch | tryPop commandBatch | process commandBatch => commandBatch
  | checkRunning commandBatch command => commandBatch ++ [command]
  | notRunning | loadRunning | laterStages => []

/-- `processed` lists the commands that were passed to `ProcessGameCommand`, for reference only. -/
structure CommandLoop where
  commandBatchSize : Nat
  manager : GameManager
  queue : BlockingQueue GameCommand := {}
  running : Bool := false
  phase : CommandPhase := .notRunning
  processed : List GameCommand := []

namespace CommandLoop

/-- `exceeded` is the answer of the time limit. A dequeue that races with a push may fail although
the queue has items. A command that throws, or a later stage that does, leaves some manager. -/
inductive Label where
  | queue (call : BlockingQueue.Label GameCommand)
  | start
  | stop
  | loadRunning (due : Bool)
  | checkTime (exceeded : Bool)
  | tryPop (choice : Nat)
  | tryPopFails
  | checkRunning
  | processGameCommand (sessionFound : Bool) (spawnPosition : Vec3) (now later : TimePoint)
      (delivered : List Bool)
  | processThrows (manager : GameManager)
  | batchDone
  | stage (event : Event)
  | stageThrows (manager : GameManager)
  | tickDone

/-- The calls that other threads make of the queue. -/
def others (queue : BlockingQueue GameCommand) (call : BlockingQueue.Label GameCommand) :
    Option (BlockingQueue GameCommand) :=
  match call with
  | .push _ | .pushStep _ _ | .shutdownStep => GameLogicQueue.step queue call
  | .pop | .popStep _ _ | .wakeUp _ | .tryPop _ => none

/-- `TryPopGameCommand`: its result and the queue it leaves. -/
def tryPopGameCommand (queue : BlockingQueue GameCommand) (choice : Nat) :
    Option (Option GameCommand × BlockingQueue GameCommand) :=
  (BlockingQueue.tryDequeue queue.items choice).bind fun (optCommand, _) =>
    (GameLogicQueue.step queue (.tryPop choice)).map (optCommand, ·)

def step (loop : CommandLoop) : Label → Option CommandLoop
  | .queue call => (others loop.queue call).map ({ loop with queue := · })
  | .start =>
      if loop.running then some loop
      else if loop.phase = .notRunning then
        some { loop with running := true, phase := .loadRunning }
      else none
  | .stop => some { loop with running := false }
  | .loadRunning due =>
      match loop.phase with
      | .loadRunning =>
          some { loop with
            phase := if loop.running then if due then .collect [] else .loadRunning else .notRunning }
      | _ => none
  | .checkTime exceeded =>
      match loop.phase with
      | .collect commandBatch =>
          some { loop with
            phase := if commandBatch.length < loop.commandBatchSize ∧ exceeded = false
              then .tryPop commandBatch else .process commandBatch }
      | _ => none
  | .tryPop choice =>
      match loop.phase with
      | .tryPop commandBatch =>
          (tryPopGameCommand loop.queue choice).map fun (optCommand, queue) =>
            { loop with
              queue
              phase := match optCommand with
                | none => .process commandBatch
                | some command => .checkRunning commandBatch command }
      | _ => none
  | .tryPopFails =>
      match loop.phase with
      | .tryPop commandBatch => some { loop with phase := .process commandBatch }
      | _ => none
  | .checkRunning =>
      match loop.phase with
      | .checkRunning commandBatch command =>
          -- the break leaves the popped command behind
          some { loop with
            phase := if loop.running then .collect (commandBatch ++ [command])
              else .process commandBatch }
      | _ => none
  | .processGameCommand sessionFound spawnPosition now later delivered =>
      match loop.phase with
      | .process (command :: commandBatch) =>
          some { loop with
            manager := (loop.manager.step
              (.processGameCommand command sessionFound spawnPosition now later delivered)).1
            phase := .process commandBatch
            processed := loop.processed ++ [command] }
      | _ => none
  | .processThrows manager =>
      match loop.phase with
      | .process (command :: commandBatch) =>
          some { loop with
            manager
            phase := .process commandBatch
            processed := loop.processed ++ [command] }
      | _ => none
  | .batchDone =>
      if loop.phase = .process [] then some { loop with phase := .laterStages } else none
  | .stage event =>
      if loop.phase = .laterStages ∧ event.command? = none then
        some { loop with manager := (loop.manager.step event).1 }
      else none
  | .stageThrows manager =>
      if loop.phase = .laterStages then some { loop with manager, phase := .loadRunning } else none
  | .tickDone =>
      if loop.phase = .laterStages then some { loop with phase := .loadRunning } else none

abbrev Runs (first : CommandLoop) (labels : List Label) (last : CommandLoop) : Prop :=
  Run (Taken step) first labels last

/-- What `TryPopGameCommand` has returned so far, in that order. -/
def taken (loop : CommandLoop) : List GameCommand := loop.queue.returned

end CommandLoop

end CppMMO.Game.Managers
