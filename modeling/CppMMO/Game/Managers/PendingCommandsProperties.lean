import CppMMO.Game.Managers.PendingCommands
import CppMMO.Utils.BlockingQueueProperties

/-! Every command that the game thread takes out of its queue is processed once and in order,
unless `Stop` comes between the pop and the look at `m_running`. -/

set_option autoImplicit false

namespace CppMMO.Game.Managers

open CppMMO.Lib CppMMO.Utils

namespace CommandLoop

/-! ## The queue -/

/-- Every call of a consumer has returned what it took. -/
structure Settled (queue : BlockingQueue GameCommand) : Prop where
  consistent : queue.Consistent
  intact : queue.Intact
  returned : ∀ pop ∈ queue.pops, pop.phase = .returned

theorem settled_empty : Settled {} where
  consistent := BlockingQueue.consistent_empty
  intact := fun pop member => by cases member
  returned := fun pop member => by cases member

namespace Settled

variable {queue after : BlockingQueue GameCommand}

theorem map_wake (settled : Settled queue) : queue.pops.map Pop.wake = queue.pops := by
  have asleep : ∀ pop ∈ queue.pops, pop.wake = pop := by
    intro pop member
    simp [Pop.wake, settled.returned pop member]
  exact (List.map_congr_left asleep).trans (List.map_id' queue.pops)

theorem notifyOne_eq (settled : Settled queue) {woken : Option Nat}
    {pops : List (Pop GameCommand)}
    (notified : BlockingQueue.notifyOne queue.pops woken = some pops) : pops = queue.pops := by
  cases woken with
  | none =>
      simp only [BlockingQueue.notifyOne] at notified
      split at notified
      · exact (Option.some.inj notified).symm
      · cases notified
  | some index =>
      obtain ⟨pop, found, notified⟩ := Option.bind_eq_some_iff.mp notified
      simp [settled.returned pop (List.mem_of_getElem? found)] at notified

/-- Nobody waits, so pushes and the shutdown wake nobody. -/
theorem others_pops (settled : Settled queue) {call : BlockingQueue.Label GameCommand}
    (called : others queue call = some after) : after.pops = queue.pops := by
  cases call with
  | push item =>
      cases called
      rfl
  | pushStep index woken =>
      obtain ⟨push, -, called⟩ := Option.bind_eq_some_iff.mp called
      unfold BlockingQueue.stepPush at called
      split at called
      · cases called
        rfl
      · cases called
        rfl
      · split at called
        · obtain ⟨pops, notified, rfl⟩ := Option.map_eq_some_iff.mp called
          exact settled.notifyOne_eq notified
        · cases called
      · cases called
      · cases called
  | shutdownStep =>
      simp only [others, GameLogicQueue.step, BlockingQueue.step] at called
      split at called
      · cases called
        rfl
      · split at called
        · cases called
          exact settled.map_wake
        · cases called
      · cases called
  | pop | popStep | wakeUp | tryPop => cases called

theorem others (settled : Settled queue) {call : BlockingQueue.Label GameCommand}
    (called : others queue call = some after) :
    Settled after ∧ after.returned = queue.returned := by
  have pops_eq := settled.others_pops called
  have stepped : queue.step call = some after := by
    cases call with
    | push | pushStep | shutdownStep => exact called
    | pop | popStep | wakeUp | tryPop => cases called
  have advances := BlockingQueue.Advances.of_step settled.consistent stepped
  refine ⟨⟨advances.consistent, ?_, ?_⟩, ?_⟩
  · rw [BlockingQueue.Intact, pops_eq]
    exact settled.intact
  · rw [pops_eq]
    exact settled.returned
  · rw [BlockingQueue.returned, pops_eq, BlockingQueue.returned]

theorem tryPopGameCommand (settled : Settled queue) {choice : Nat}
    {optCommand : Option GameCommand}
    (popped : tryPopGameCommand queue choice = some (optCommand, after)) :
    Settled after ∧ after.returned = queue.returned ++ optCommand.toList := by
  obtain ⟨⟨taken, items⟩, dequeued, rest⟩ := Option.bind_eq_some_iff.mp popped
  obtain ⟨queueAfter, stepped, same⟩ := Option.map_eq_some_iff.mp rest
  cases same
  have advances := BlockingQueue.Advances.of_step settled.consistent stepped
  simp only [GameLogicQueue.step, BlockingQueue.step, dequeued, Option.map_some,
    Option.some.injEq] at stepped
  subst stepped
  refine ⟨⟨advances.consistent, ?_, ?_⟩, ?_⟩
  · exact advances.intact_iff.mpr ⟨settled.intact, fun loses => loses⟩
  · intro pop member
    rcases List.mem_append.mp member with earlier | new
    · exact settled.returned pop earlier
    · rw [List.mem_singleton.mp new]
  · simp [BlockingQueue.returned, Pop.returned]

/-- Nothing is on its way out of a settled queue. -/
theorem conserved (settled : Settled queue) :
    queue.accepted.Perm (queue.returned ++ queue.items) := by
  have conserved :=
    ((BlockingQueue.losesNothing_iff_intact settled.consistent).mpr settled.intact).conserved
  have empty : queue.held = [] := by
    refine List.flatMap_eq_nil_iff.mpr fun pop member => ?_
    simp [Pop.held, settled.returned pop member]
  rw [empty, List.append_nil] at conserved
  exact conserved

end Settled

/-! ## One step -/

/-- `m_running` is found cleared while a popped command is not in the batch yet. -/
def Drops (loop : CommandLoop) : Label → Prop
  | .checkRunning => loop.running = false ∧
      ∃ commandBatch command, loop.phase = .checkRunning commandBatch command
  | _ => False

/-- The commands that were processed or are about to be, in order. -/
def handled (loop : CommandLoop) : List GameCommand := loop.processed ++ loop.phase.inHand

/-- Everything a step can do to the commands. -/
inductive StepOutcome (loop : CommandLoop) (label : Label) (after : CommandLoop) : Prop where
  | kept (harmless : ¬ loop.Drops label) (handled_eq : after.handled = loop.handled)
      (queue_eq : after.queue = loop.queue)
  | called (harmless : ¬ loop.Drops label) (handled_eq : after.handled = loop.handled)
      (call : BlockingQueue.Label GameCommand) (called : others loop.queue call = some after.queue)
  | popped (harmless : ¬ loop.Drops label) (choice : Nat) (optCommand : Option GameCommand)
      (popped : tryPopGameCommand loop.queue choice = some (optCommand, after.queue))
      (handled_eq : after.handled = loop.handled ++ optCommand.toList)
  | dropped (drops : loop.Drops label) (command : GameCommand)
      (handled_eq : loop.handled = after.handled ++ [command]) (queue_eq : after.queue = loop.queue)

theorem step_outcome {loop after : CommandLoop} {label : Label}
    (taken : loop.step label = some after) : StepOutcome loop label after := by
  cases label with
  | queue call =>
      obtain ⟨queue, called, rfl⟩ := Option.map_eq_some_iff.mp taken
      exact .called (fun drops => drops) rfl call called
  | start =>
      simp only [step] at taken
      split at taken
      · cases taken
        exact .kept (fun drops => drops) rfl rfl
      · split at taken
        · next stopped =>
            cases taken
            exact .kept (fun drops => drops) (by simp [handled, stopped, CommandPhase.inHand]) rfl
        · cases taken
  | stop =>
      cases taken
      exact .kept (fun drops => drops) rfl rfl
  | loadRunning due =>
      simp only [step] at taken
      split at taken
      · next phase =>
          cases taken
          refine .kept (fun drops => drops) ?_ rfl
          simp only [handled, phase]
          split_ifs <;> rfl
      · cases taken
  | checkTime exceeded =>
      simp only [step] at taken
      split at taken
      · next phase =>
          cases taken
          refine .kept (fun drops => drops) ?_ rfl
          simp only [handled, phase]
          split_ifs <;> rfl
      · cases taken
  | tryPop choice =>
      simp only [step] at taken
      split at taken
      · next commandBatch phase =>
          obtain ⟨⟨optCommand, queue⟩, popped, rfl⟩ := Option.map_eq_some_iff.mp taken
          refine .popped (fun drops => drops) choice optCommand popped ?_
          cases optCommand with
          | none => simp [handled, phase, CommandPhase.inHand]
          | some command => simp [handled, phase, CommandPhase.inHand]
      · cases taken
  | checkRunning =>
      simp only [step] at taken
      split at taken
      · next commandBatch command phase =>
          cases taken
          cases running : loop.running with
          | true =>
              refine .kept (fun drops => ?_) ?_ rfl
              · cases running.symm.trans drops.1
              · simp [handled, phase, CommandPhase.inHand]
          | false =>
              refine .dropped ⟨running, commandBatch, command, phase⟩ command ?_ rfl
              simp [handled, phase, CommandPhase.inHand]
      · cases taken
  | tryPopFails | processGameCommand | processThrows | batchDone | stageThrows | tickDone =>
      simp only [step] at taken
      split at taken
      · next phase =>
          cases taken
          exact .kept (fun drops => drops) (by simp [handled, phase, CommandPhase.inHand]) rfl
      · cases taken
  | stage event =>
      simp only [step] at taken
      split at taken
      · cases taken
        exact .kept (fun drops => drops) rfl rfl
      · cases taken

/-! ## Runs -/

/-- What was taken is what was processed and what is in hand, possibly with gaps. -/
structure Sound (loop : CommandLoop) : Prop where
  settled : Settled loop.queue
  sublist : loop.handled.Sublist loop.taken

theorem Sound.step {loop after : CommandLoop} {label : Label} (sound : Sound loop)
    (taken : loop.step label = some after) : Sound after := by
  cases step_outcome taken with
  | kept harmless handled_eq queue_eq =>
      refine ⟨queue_eq ▸ sound.settled, ?_⟩
      rw [handled_eq, CommandLoop.taken, queue_eq]
      exact sound.sublist
  | called harmless handled_eq call called =>
      obtain ⟨settled, returned_eq⟩ := sound.settled.others called
      refine ⟨settled, ?_⟩
      rw [handled_eq, CommandLoop.taken, returned_eq]
      exact sound.sublist
  | popped harmless choice optCommand popped handled_eq =>
      obtain ⟨settled, returned_eq⟩ := sound.settled.tryPopGameCommand popped
      refine ⟨settled, ?_⟩
      rw [handled_eq, CommandLoop.taken, returned_eq]
      exact sound.sublist.append (.refl _)
  | dropped drops command handled_eq queue_eq =>
      refine ⟨queue_eq ▸ sound.settled, ?_⟩
      rw [CommandLoop.taken, queue_eq]
      have shorter : after.handled.Sublist loop.handled := by
        rw [handled_eq]
        exact List.sublist_append_left _ _
      exact shorter.trans sound.sublist

/-- A command that is dropped is missing for good. -/
theorem Sound.handled_eq_taken_iff {loop after : CommandLoop} {label : Label} (sound : Sound loop)
    (taken : loop.step label = some after) :
    after.handled = after.taken ↔ loop.handled = loop.taken ∧ ¬ loop.Drops label := by
  cases step_outcome taken with
  | kept harmless handled_eq queue_eq => simp [harmless, handled_eq, CommandLoop.taken, queue_eq]
  | called harmless handled_eq call called =>
      obtain ⟨-, returned_eq⟩ := sound.settled.others called
      simp [harmless, handled_eq, CommandLoop.taken, returned_eq]
  | popped harmless choice optCommand popped handled_eq =>
      obtain ⟨-, returned_eq⟩ := sound.settled.tryPopGameCommand popped
      simp [harmless, handled_eq, CommandLoop.taken, returned_eq]
  | dropped drops command handled_eq queue_eq =>
      have missing : after.handled ≠ after.taken := by
        intro same
        have bound := sound.sublist.length_le
        rw [CommandLoop.taken, queue_eq] at same
        rw [handled_eq, CommandLoop.taken, ← same, List.length_append] at bound
        simp at bound
      simp [missing, drops]

def create (commandBatchSize : Nat) (manager : GameManager) : CommandLoop :=
  { commandBatchSize, manager }

theorem sound_create (commandBatchSize : Nat) (manager : GameManager) :
    Sound (create commandBatchSize manager) :=
  ⟨settled_empty, .refl _⟩

/-- The commands that were taken out of the queue are those that were passed to
`ProcessGameCommand`, in the same order, followed by those that a call still holds; the commands
that were not taken are in the queue. -/
structure ExactlyOnce (loop : CommandLoop) : Prop where
  processed_eq : loop.processed ++ loop.phase.inHand = loop.taken
  kept : loop.queue.accepted.Perm (loop.taken ++ loop.queue.items)

theorem exactlyOnce_iff {commandBatchSize : Nat} {manager : GameManager} {labels : List Label}
    {finish : CommandLoop} (run : Runs (create commandBatchSize manager) labels finish) :
    ExactlyOnce finish ↔
      Run (fun before label after => Taken step before label after ∧ ¬ before.Drops label)
        (create commandBatchSize manager) labels finish := by
  have sound := run.preserves Sound (fun before taken => before.step taken)
    (sound_create commandBatchSize manager)
  have avoids := run.holds_iff_avoids Sound (fun loop => loop.handled = loop.taken) Drops
    (fun taken again => Option.some.inj (taken.symm.trans again))
    (fun before taken => before.step taken)
    (fun before taken => before.handled_eq_taken_iff taken) (sound_create commandBatchSize manager)
  constructor
  · intro once
    exact (avoids.mp once.processed_eq).2
  · intro avoiding
    exact ⟨avoids.mpr ⟨rfl, avoiding⟩, sound.settled.conserved⟩

/-! ## Every call comes to its end -/

/-- The accesses that `ProcessPendingCommands` makes itself. -/
def Label.isOwn : Label → Bool
  | checkTime _ | tryPop _ | tryPopFails | checkRunning | processGameCommand _ _ _ _ _
  | processThrows _ | batchDone => true
  | queue _ | start | stop | loadRunning _ | stage _ | stageThrows _ | tickDone => false

def Label.isLoadRunning : Label → Bool
  | loadRunning _ => true
  | _ => false

/-- How many accesses the call can still make: one round of the collecting loop has three of them
and adds one command to the batch. -/
def stepsLeft (loop : CommandLoop) : Nat :=
  match loop.phase with
  | .collect commandBatch =>
      4 * (loop.commandBatchSize - commandBatch.length) + commandBatch.length + 2
  | .tryPop commandBatch =>
      4 * (loop.commandBatchSize - commandBatch.length - 1) + commandBatch.length + 5
  | .checkRunning commandBatch _ =>
      4 * (loop.commandBatchSize - commandBatch.length - 1) + commandBatch.length + 4
  | .process commandBatch => commandBatch.length + 1
  | .notRunning | .loadRunning | .laterStages => 0

theorem stepsLeft_of_own {loop after : CommandLoop} {label : Label}
    (taken : loop.step label = some after) (own : label.isOwn = true) :
    after.stepsLeft < loop.stepsLeft := by
  cases label with
  | checkTime exceeded =>
      simp only [step] at taken
      split at taken
      · next commandBatch phase =>
          cases taken
          simp only [stepsLeft, phase]
          split_ifs <;> simp only <;> omega
      · cases taken
  | tryPop choice =>
      simp only [step] at taken
      split at taken
      · next commandBatch phase =>
          obtain ⟨⟨optCommand, queue⟩, -, rfl⟩ := Option.map_eq_some_iff.mp taken
          cases optCommand <;> simp only [stepsLeft, phase] <;> omega
      · cases taken
  | tryPopFails =>
      simp only [step] at taken
      split at taken
      · next commandBatch phase =>
          cases taken
          simp only [stepsLeft, phase]
          omega
      · cases taken
  | checkRunning =>
      simp only [step] at taken
      split at taken
      · next commandBatch command phase =>
          cases taken
          simp only [stepsLeft, phase]
          split_ifs <;> simp only [List.length_append, List.length_singleton] <;> omega
      · cases taken
  | processGameCommand | processThrows | batchDone =>
      simp only [step] at taken
      split at taken
      · next phase =>
          cases taken
          simp [stepsLeft, phase]
      · cases taken
  | queue | start | stop | loadRunning | stage | stageThrows | tickDone => cases own

theorem stepsLeft_of_others {loop after : CommandLoop} {label : Label}
    (taken : loop.step label = some after) (own : label.isOwn = false)
    (sameCall : label.isLoadRunning = false) : after.stepsLeft = loop.stepsLeft := by
  cases label with
  | queue call =>
      obtain ⟨queue, -, rfl⟩ := Option.map_eq_some_iff.mp taken
      rfl
  | start =>
      simp only [step] at taken
      split at taken
      · cases taken
        rfl
      · split at taken
        · next stopped =>
            cases taken
            simp [stepsLeft, stopped]
        · cases taken
  | stop =>
      cases taken
      rfl
  | stage event =>
      simp only [step] at taken
      split at taken
      · cases taken
        rfl
      · cases taken
  | stageThrows | tickDone =>
      simp only [step] at taken
      split at taken
      · next phase =>
          cases taken
          simp [stepsLeft, phase]
      · cases taken
  | loadRunning => cases sameCall
  | checkTime | tryPop | tryPopFails | checkRunning | processGameCommand | processThrows
  | batchDone => cases own

/-- While a call lasts, it makes no more accesses than it had left, whatever happens in between. -/
theorem own_steps_le {loop after : CommandLoop} {labels : List Label}
    (run : Runs loop labels after) (sameCall : ∀ label ∈ labels, label.isLoadRunning = false) :
    (labels.filter Label.isOwn).length + after.stepsLeft ≤ loop.stepsLeft := by
  induction run with
  | nil => simp
  | @cons start middle finish label labels taken rest ih =>
      have later := ih fun other member => sameCall other (List.mem_cons_of_mem _ member)
      cases own : label.isOwn with
      | true =>
          have less := stepsLeft_of_own taken own
          rw [List.filter_cons_of_pos own, List.length_cons]
          omega
      | false =>
          have same := stepsLeft_of_others taken own (sameCall label List.mem_cons_self)
          rw [List.filter_cons_of_neg (by simp [own])]
          omega

/-- Within a call there is always an access that it can make. -/
theorem exists_own_step {loop : CommandLoop} (inside : 0 < loop.stepsLeft) :
    ∃ label after, label.isOwn = true ∧ loop.step label = some after := by
  unfold stepsLeft at inside
  split at inside
  · next commandBatch phase =>
      exact ⟨.checkTime false, _, rfl, by rw [step, phase]⟩
  · next commandBatch phase => exact ⟨.tryPopFails, _, rfl, by rw [step, phase]⟩
  · next commandBatch command phase => exact ⟨.checkRunning, _, rfl, by rw [step, phase]⟩
  · next commandBatch phase =>
      cases commandBatch with
      | nil => exact ⟨.batchDone, _, rfl, by rw [step, if_pos phase]⟩
      | cons command commandBatch =>
          exact ⟨.processThrows loop.manager, _, rfl, by rw [step, phase]⟩
  · cases inside
  · cases inside
  · cases inside

/-- In every state of every run: commands are processed exactly once as long as no check of
`m_running` found it cleared right after a pop, and every call comes to its end. -/
theorem commands_processed_once_iff {commandBatchSize : Nat} {manager : GameManager}
    {labels : List Label} {finish : CommandLoop}
    (run : Runs (create commandBatchSize manager) labels finish) :
    (ExactlyOnce finish ↔
      Run (fun before label after => Taken step before label after ∧ ¬ before.Drops label)
        (create commandBatchSize manager) labels finish) ∧
    (∀ later after, Runs finish later after →
      (∀ label ∈ later, label.isLoadRunning = false) →
      (later.filter Label.isOwn).length + after.stepsLeft ≤ finish.stepsLeft) ∧
    (0 < finish.stepsLeft → ∃ label after, label.isOwn = true ∧ finish.step label = some after) :=
  ⟨exactlyOnce_iff run, fun _ _ continues sameCall => own_steps_le continues sameCall,
    exists_own_step⟩

/-- Two pushes, and a tick that takes and processes both. -/
def tickLabels (first second : GameCommand) : List Label := [
  .queue (.push first), .queue (.pushStep 0 none), .queue (.pushStep 0 none), .start,
  .loadRunning true, .checkTime false, .tryPop 0, .checkRunning,
  .queue (.push second), .queue (.pushStep 1 none), .queue (.pushStep 1 none),
  .checkTime false, .tryPop 0, .checkRunning, .checkTime true, .stop,
  .processGameCommand true ⟨50, 50, 0⟩ 0 0 [],
  .processGameCommand false ⟨50, 50, 0⟩ 0 0 [], .batchDone, .tickDone, .loadRunning true]

theorem commands_processed_once_iff_of_tick :
    ∃ manager finish,
      Runs (create 500 manager) (tickLabels
        ⟨.enterZone { playerId := 1, zoneId := 1, sessionId := 7 }, 7⟩
        ⟨.playerDisconnect { playerId := 1 }, 7⟩) finish ∧
      finish.processed = [⟨.enterZone { playerId := 1, zoneId := 1, sessionId := 7 }, 7⟩,
        ⟨.playerDisconnect { playerId := 1 }, 7⟩] ∧
      finish.phase = .notRunning ∧ ExactlyOnce finish ∧
      Run (fun before label after => Taken step before label after ∧ ¬ before.Drops label)
        (create 500 manager) (tickLabels
          ⟨.enterZone { playerId := 1, zoneId := 1, sessionId := 7 }, 7⟩
          ⟨.playerDisconnect { playerId := 1 }, 7⟩) finish := by
  obtain ⟨start, finish, created, run, processed, phase, taken, kept⟩ := exists_run_of_execute step
    ((GameManager.create? {}).map (create 500)) (tickLabels
      ⟨.enterZone { playerId := 1, zoneId := 1, sessionId := 7 }, 7⟩
      ⟨.playerDisconnect { playerId := 1 }, 7⟩)
    (fun finish => finish.processed =
        [⟨.enterZone { playerId := 1, zoneId := 1, sessionId := 7 }, 7⟩,
          ⟨.playerDisconnect { playerId := 1 }, 7⟩] ∧
      finish.phase = .notRunning ∧ finish.processed ++ finish.phase.inHand = finish.taken ∧
      finish.queue.accepted.Perm (finish.taken ++ finish.queue.items)) (by decide +kernel)
  obtain ⟨manager, -, rfl⟩ := Option.map_eq_some_iff.mp created
  have once : ExactlyOnce finish := ⟨taken, kept⟩
  exact ⟨manager, finish, run, processed, phase, once, (commands_processed_once_iff run).1.mp once⟩

/-- `Stop` clears the flag between the pop and the check. -/
def stoppedLabels (command : GameCommand) : List Label := [
  .queue (.push command), .queue (.pushStep 0 none), .queue (.pushStep 0 none), .start,
  .loadRunning true, .checkTime false, .tryPop 0, .stop, .checkRunning, .batchDone, .tickDone,
  .loadRunning true]

/-- The game thread has ended, and the command is neither in the queue nor was it processed. -/
theorem command_lost_by_stop :
    ∃ manager finish,
      Runs (create 500 manager) (stoppedLabels ⟨.playerDisconnect { playerId := 1 }, 7⟩) finish ∧
      finish.taken = [⟨.playerDisconnect { playerId := 1 }, 7⟩] ∧ finish.processed = [] ∧
      finish.queue.items = [] ∧ finish.phase = .notRunning ∧ ¬ ExactlyOnce finish := by
  obtain ⟨start, finish, created, run, taken, processed, items, phase⟩ := exists_run_of_execute step
    ((GameManager.create? {}).map (create 500))
    (stoppedLabels ⟨.playerDisconnect { playerId := 1 }, 7⟩)
    (fun finish => finish.taken = [⟨.playerDisconnect { playerId := 1 }, 7⟩] ∧
      finish.processed = [] ∧ finish.queue.items = [] ∧ finish.phase = .notRunning)
    (by decide +kernel)
  obtain ⟨manager, -, rfl⟩ := Option.map_eq_some_iff.mp created
  refine ⟨manager, finish, run, taken, processed, items, phase, fun once => ?_⟩
  have same := once.processed_eq
  rw [processed, phase, taken] at same
  cases same

end CommandLoop

end CppMMO.Game.Managers
