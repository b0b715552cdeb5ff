import CppMMO.Game.Managers.PendingCommandsProperties
import CppMMO.Lib.Progress
import Mathlib.Data.List.Perm.Subperm

/-! How a backlog of commands is worked off: a batch that is not cut short is full or empties the queue. -/

set_option autoImplicit false

namespace CppMMO.Game.Managers

open CppMMO.Lib CppMMO.Utils

namespace CommandLoop

/-- The batch ends before it is full: the time limit is exceeded, a dequeue that races with a push
fails, or `Stop` clears `m_running`. -/
def Label.interrupts : Label → Bool
  | .checkTime exceeded => exceeded
  | .tryPopFails | .stop => true
  | _ => false

def Label.isBatchDone : Label → Bool
  | .batchDone => true
  | _ => false

/-- The queue is found empty, if the step is taken. -/
def FindsEmpty (loop : CommandLoop) : Label → Prop
  | .tryPop _ => loop.queue.items = []
  | _ => False

/-! ## What one step does to the queue -/

theorem others_items {queue after : BlockingQueue GameCommand}
    {call : BlockingQueue.Label GameCommand} (called : others queue call = some after) :
    queue.items <+: after.items := by
  cases call with
  | push item =>
      cases called
      exact List.prefix_rfl
  | pushStep index woken =>
      obtain ⟨push, -, called⟩ := Option.bind_eq_some_iff.mp called
      unfold BlockingQueue.stepPush at called
      split at called
      · cases called
        exact List.prefix_rfl
      · cases called
        exact List.prefix_append _ _
      · split at called
        · obtain ⟨pops, -, rfl⟩ := Option.map_eq_some_iff.mp called
          exact List.prefix_rfl
        · cases called
      · cases called
      · cases called
  | shutdownStep =>
      simp only [others, GameLogicQueue.step, BlockingQueue.step] at called
      split at called
      · cases called
        exact List.prefix_rfl
      · split at called
        · cases called
          exact List.prefix_rfl
        · cases called
      · cases called
  | pop | popStep | wakeUp | tryPop => cases called

theorem tryPopGameCommand_items {queue after : BlockingQueue GameCommand} {choice : Nat}
    {optCommand : Option GameCommand}
    (popped : tryPopGameCommand queue choice = some (optCommand, after)) :
    (optCommand.toList ++ after.items).Perm queue.items ∧
      (optCommand = none → queue.items = []) := by
  obtain ⟨⟨taken, items⟩, dequeued, rest⟩ := Option.bind_eq_some_iff.mp popped
  obtain ⟨queueAfter, stepped, same⟩ := Option.map_eq_some_iff.mp rest
  cases same
  simp only [GameLogicQueue.step, BlockingQueue.step, dequeued, Option.map_some,
    Option.some.injEq] at stepped
  subst stepped
  refine ⟨BlockingQueue.tryDequeue_perm dequeued, ?_⟩
  rintro rfl
  unfold BlockingQueue.tryDequeue at dequeued
  split at dequeued
  · next empty => exact empty
  · obtain ⟨item, -, same⟩ := Option.map_eq_some_iff.mp dequeued
    cases same

/-- Commands only come in and move from the queue to those taken. -/
structure Follows (loop after : CommandLoop) : Prop where
  taken : loop.taken <+: after.taken
  kept : (loop.taken ++ loop.queue.items).Subperm (after.taken ++ after.queue.items)

theorem Follows.refl (loop : CommandLoop) : Follows loop loop :=
  ⟨List.prefix_rfl, .refl _⟩

theorem Follows.trans {loop middle after : CommandLoop} (first : Follows loop middle)
    (second : Follows middle after) : Follows loop after :=
  ⟨first.taken.trans second.taken, first.kept.trans second.kept⟩

theorem Follows.of_step {loop after : CommandLoop} {label : Label} (sound : Sound loop)
    (taken : loop.step label = some after) : Follows loop after := by
  cases step_outcome taken with
  | kept harmless handled_eq queue_eq =>
      have taken_eq : after.taken = loop.taken := congrArg BlockingQueue.returned queue_eq
      exact ⟨taken_eq ▸ List.prefix_rfl, by rw [taken_eq, queue_eq]⟩
  | called harmless handled_eq call called =>
      obtain ⟨-, returned_eq⟩ := sound.settled.others called
      have taken_eq : after.taken = loop.taken := returned_eq
      refine ⟨taken_eq ▸ List.prefix_rfl, ?_⟩
      rw [taken_eq]
      exact ((others_items called).sublist.append_left _).subperm
  | popped harmless choice optCommand popped handled_eq =>
      obtain ⟨-, returned_eq⟩ := sound.settled.tryPopGameCommand popped
      have taken_eq : after.taken = loop.taken ++ optCommand.toList := returned_eq
      refine ⟨taken_eq ▸ List.prefix_append _ _, ?_⟩
      rw [taken_eq, List.append_assoc]
      exact ((tryPopGameCommand_items popped).1.append_left _).symm.subperm
  | dropped drops command handled_eq queue_eq =>
      have taken_eq : after.taken = loop.taken := congrArg BlockingQueue.returned queue_eq
      exact ⟨taken_eq ▸ List.prefix_rfl, by rw [taken_eq, queue_eq]⟩

theorem Follows.of_run {loop after : CommandLoop} {labels : List Label} (sound : Sound loop)
    (run : Runs loop labels after) : Sound after ∧ Follows loop after :=
  run.preserves (fun state => Sound state ∧ Follows loop state)
    (fun ⟨sound, follows⟩ taken => ⟨sound.step taken, follows.trans (.of_step sound taken)⟩)
    ⟨sound, .refl loop⟩

/-! ## Batches against commands -/

/-- What the collection under way has, or will be counted for. A collection that goes on after
`Stop` is counted for a whole batch already, since its next check may end it. -/
def credit (loop : CommandLoop) : Nat :=
  let stopped := if loop.running then 0 else loop.commandBatchSize
  match loop.phase with
  | .collect commandBatch | .tryPop commandBatch => commandBatch.length + stopped
  | .checkRunning commandBatch _ => commandBatch.length + 1 + stopped
  | .process _ => loop.commandBatchSize
  | .notRunning | .loadRunning | .laterStages => 0

/-- A batch that is done was full, or an interruption had ended it. -/
structure Settles (loop : CommandLoop) (label : Label) (after : CommandLoop) : Prop where
  size_eq : after.commandBatchSize = loop.commandBatchSize
  paid : loop.commandBatchSize * label.isBatchDone.toNat + after.credit + loop.taken.length ≤
    loop.credit + after.taken.length + loop.commandBatchSize * label.interrupts.toNat

theorem Settles.of_taken_eq {loop after : CommandLoop} {label : Label}
    (size_eq : after.commandBatchSize = loop.commandBatchSize)
    (taken_eq : after.taken = loop.taken)
    (paid : loop.commandBatchSize * label.isBatchDone.toNat + after.credit ≤
      loop.credit + loop.commandBatchSize * label.interrupts.toNat) : Settles loop label after := by
  refine ⟨size_eq, ?_⟩
  rw [taken_eq]
  omega

theorem Settles.of_step {loop after : CommandLoop} {label : Label} (sound : Sound loop)
    (taken : loop.step label = some after) (notEmpty : ¬ loop.FindsEmpty label) :
    Settles loop label after := by
  cases label with
  | queue call =>
      obtain ⟨queue, called, rfl⟩ := Option.map_eq_some_iff.mp taken
      exact .of_taken_eq rfl (sound.settled.others called).2 (by
        simp [credit, Label.isBatchDone, Label.interrupts])
  | start =>
      simp only [step] at taken
      split at taken
      · cases taken
        exact .of_taken_eq rfl rfl (by simp [Label.isBatchDone, Label.interrupts])
      · split at taken
        · next stopped =>
            cases taken
            exact .of_taken_eq rfl rfl (by simp [credit, Label.isBatchDone, Label.interrupts])
        · cases taken
  | stop =>
      cases taken
      refine .of_taken_eq rfl rfl ?_
      simp only [credit, Label.isBatchDone, Label.interrupts, Bool.toNat_false, Bool.toNat_true,
        Nat.mul_zero, Nat.mul_one, Nat.zero_add, Bool.false_eq_true, if_false]
      split <;> omega
  | loadRunning due =>
      simp only [step] at taken
      split at taken
      · next phase =>
          cases taken
          refine .of_taken_eq rfl rfl ?_
          cases running : loop.running <;> cases due <;>
            simp [credit, phase, Label.isBatchDone, Label.interrupts]
      · cases taken
  | checkTime exceeded =>
      simp only [step] at taken
      split at taken
      · next commandBatch phase =>
          cases taken
          refine .of_taken_eq rfl rfl ?_
          cases exceeded with
          | true => simp [credit, phase, Label.isBatchDone, Label.interrupts]
          | false =>
              by_cases full : commandBatch.length < loop.commandBatchSize
              · simp [credit, phase, full, Label.isBatchDone, Label.interrupts]
              · simp only [credit, phase, full, false_and, if_false, Label.isBatchDone,
                  Label.interrupts, Bool.toNat_false]
                omega
      · cases taken
  | tryPop choice =>
      simp only [step] at taken
      split at taken
      · next commandBatch phase =>
          obtain ⟨⟨optCommand, queue⟩, popped, rfl⟩ := Option.map_eq_some_iff.mp taken
          have returned_eq := (sound.settled.tryPopGameCommand popped).2
          cases optCommand with
          | none => exact absurd ((tryPopGameCommand_items popped).2 rfl) notEmpty
          | some command =>
              refine ⟨rfl, ?_⟩
              simp only [credit, phase, CommandLoop.taken, returned_eq, List.length_append,
                Option.toList_some, List.length_singleton, Label.isBatchDone, Label.interrupts,
                Bool.toNat_false]
              omega
      · cases taken
  | tryPopFails =>
      simp only [step] at taken
      split at taken
      · next commandBatch phase =>
          cases taken
          exact .of_taken_eq rfl rfl (by simp [credit, phase, Label.isBatchDone, Label.interrupts])
      · cases taken
  | checkRunning =>
      simp only [step] at taken
      split at taken
      · next commandBatch command phase =>
          cases taken
          refine .of_taken_eq rfl rfl ?_
          cases running : loop.running <;>
            simp [credit, phase, running, Label.isBatchDone, Label.interrupts]
      · cases taken
  | processGameCommand | processThrows | stageThrows | tickDone | batchDone =>
      simp only [step] at taken
      split at taken
      · next phase =>
          cases taken
          exact .of_taken_eq rfl rfl (by simp [credit, phase, Label.isBatchDone, Label.interrupts])
      · cases taken
  | stage event =>
      simp only [step] at taken
      split at taken
      · cases taken
        exact .of_taken_eq rfl rfl (by simp [credit, Label.isBatchDone, Label.interrupts])
      · cases taken

/-- No more is collected than the batch holds. -/
def Fits (loop : CommandLoop) : Prop :=
  match loop.phase with
  | .collect commandBatch => commandBatch.length ≤ loop.commandBatchSize
  | .tryPop commandBatch | .checkRunning commandBatch _ =>
      commandBatch.length < loop.commandBatchSize
  | .process _ | .notRunning | .loadRunning | .laterStages => True

theorem Fits.credit_le {loop : CommandLoop} (fits : loop.Fits) :
    loop.credit ≤ 2 * loop.commandBatchSize := by
  have stopped : (if loop.running then 0 else loop.commandBatchSize) ≤ loop.commandBatchSize := by
    split <;> simp
  unfold Fits at fits
  unfold credit
  cases phase : loop.phase with
  | collect | tryPop | checkRunning =>
      simp only [phase] at fits ⊢
      omega
  | process => exact Nat.le_mul_of_pos_left _ Nat.two_pos
  | notRunning | loadRunning | laterStages => exact Nat.zero_le _

theorem Fits.step {loop after : CommandLoop} (fits : loop.Fits) {label : Label}
    (taken : loop.step label = some after) :
    after.Fits ∧ after.commandBatchSize = loop.commandBatchSize := by
  unfold Fits at fits
  cases label with
  | queue call =>
      obtain ⟨queue, called, rfl⟩ := Option.map_eq_some_iff.mp taken
      exact ⟨fits, rfl⟩
  | start =>
      simp only [CommandLoop.step] at taken
      split at taken
      · cases taken
        exact ⟨fits, rfl⟩
      · split at taken
        · cases taken
          exact ⟨trivial, rfl⟩
        · cases taken
  | stop =>
      cases taken
      exact ⟨fits, rfl⟩
  | loadRunning due =>
      simp only [CommandLoop.step] at taken
      split at taken
      · cases taken
        cases running : loop.running <;> cases due <;> simp [Fits]
      · cases taken
  | checkTime exceeded =>
      simp only [CommandLoop.step] at taken
      split at taken
      · next commandBatch phase =>
          cases taken
          by_cases more : commandBatch.length < loop.commandBatchSize ∧ exceeded = false
          · simp [Fits, more]
          · simp only [Fits, if_neg more, and_self]
      · cases taken
  | tryPop choice =>
      simp only [CommandLoop.step] at taken
      split at taken
      · next commandBatch phase =>
          obtain ⟨⟨optCommand, queue⟩, -, rfl⟩ := Option.map_eq_some_iff.mp taken
          rw [phase] at fits
          cases optCommand with
          | none => exact ⟨trivial, rfl⟩
          | some command => exact ⟨fits, rfl⟩
      · cases taken
  | checkRunning =>
      simp only [CommandLoop.step] at taken
      split at taken
      · next commandBatch command phase =>
          cases taken
          rw [phase] at fits
          cases running : loop.running with
          | true =>
              refine ⟨?_, rfl⟩
              simp only [Fits, if_true, List.length_append, List.length_singleton]
              exact fits
          | false => exact ⟨by simp [Fits], rfl⟩
      · cases taken
  | tryPopFails | processGameCommand | processThrows | batchDone | stageThrows | tickDone =>
      simp only [CommandLoop.step] at taken
      split at taken
      · cases taken
        exact ⟨trivial, rfl⟩
      · cases taken
  | stage event =>
      simp only [CommandLoop.step] at taken
      split at taken
      · cases taken
        exact ⟨fits, rfl⟩
      · cases taken

/-! ## Runs -/

theorem Sound.length_accepted {loop : CommandLoop} (sound : Sound loop) :
    loop.queue.accepted.length = loop.taken.length + loop.queue.items.length := by
  rw [sound.settled.conserved.length_eq, List.length_append]
  rfl

/-- As long as nothing is dropped, the commands handled are those taken. -/
theorem exists_handled {loop after : CommandLoop} {labels : List Label} (sound : Sound loop)
    (run : Run (fun before label after => Taken step before label after ∧ ¬ before.Drops label)
      loop labels after) :
    ∃ new, after.taken = loop.taken ++ new ∧ after.handled = loop.handled ++ new := by
  refine (run.preserves (fun state => Sound state ∧ ∃ new, state.taken = loop.taken ++ new ∧
    state.handled = loop.handled ++ new) ?_ ⟨sound, [], by simp, by simp⟩).2
  rintro before label after ⟨soundBefore, new, taken_eq, handled_eq⟩ ⟨taken, harmless⟩
  refine ⟨soundBefore.step taken, ?_⟩
  cases step_outcome taken with
  | kept _ same queue_eq =>
      have taken_same : after.taken = before.taken := congrArg BlockingQueue.returned queue_eq
      exact ⟨new, taken_same.trans taken_eq, same.trans handled_eq⟩
  | called _ same call called =>
      have taken_same : after.taken = before.taken := (soundBefore.settled.others called).2
      exact ⟨new, taken_same.trans taken_eq, same.trans handled_eq⟩
  | popped _ choice optCommand popped handled_more =>
      have taken_more : after.taken = before.taken ++ optCommand.toList :=
        (soundBefore.settled.tryPopGameCommand popped).2
      refine ⟨new ++ optCommand.toList, ?_, ?_⟩
      · rw [taken_more, taken_eq, List.append_assoc]
      · rw [handled_more, handled_eq, List.append_assoc]
  | dropped drops => exact absurd drops harmless

/-- In a stretch of a run the game thread takes the commands `new`. -/
structure WorksOff (loop : CommandLoop) (labels : List Label) (after : CommandLoop)
    (new : List GameCommand) : Prop where
  taken_eq : after.taken = loop.taken ++ new
  /-- Without a drop they were processed or are in hand, in this order. -/
  handled_eq : Run (fun before label after => Taken step before label after ∧ ¬ before.Drops label)
    loop labels after →
    after.processed ++ after.phase.inHand = loop.processed ++ loop.phase.inHand ++ new
  /-- All that waited is among them; or else all batches but two, and but one for each interruption,
  were full, and so there were no more of them than what waited and what came in could fill. -/
  worksOff : loop.queue.items.Subperm new ∨
    loop.commandBatchSize * labels.countP Label.isBatchDone + after.queue.items.length +
        loop.queue.accepted.length ≤
      loop.queue.items.length + after.queue.accepted.length +
        loop.commandBatchSize * (labels.countP Label.interrupts + 2)

/-- What waited is taken, unless what waited and what came in was enough to fill the batches. -/
theorem works_off_backlog {commandBatchSize : Nat} {manager : GameManager} {past : List Label}
    {loop : CommandLoop} (run : Runs (create commandBatchSize manager) past loop)
    {labels : List Label} {after : CommandLoop} (more : Runs loop labels after) :
    ∃ new, WorksOff loop labels after new := by
  obtain ⟨sound, -⟩ := Follows.of_run (sound_create commandBatchSize manager) run
  have fits : loop.Fits := run.preserves Fits (fun before taken => (before.step taken).1) trivial
  obtain ⟨soundAfter, new, taken_eq⟩ : Sound after ∧ loop.taken <+: after.taken :=
    (Follows.of_run sound more).imp_right (·.taken)
  refine ⟨new, taken_eq.symm, ?_, ?_⟩
  · intro avoiding
    obtain ⟨others, others_eq, handled_eq⟩ := exists_handled sound avoiding
    obtain rfl := List.append_cancel_left (others_eq.symm.trans taken_eq.symm)
    exact handled_eq
  · rcases more.avoids_or_hits FindsEmpty with avoiding | ⟨front, label, back, before, next, rfl,
      first, taken, empty, last⟩
    · refine .inr ?_
      have paid := avoiding.amortized
        (fun state => Sound state ∧ state.commandBatchSize = loop.commandBatchSize) credit
        (·.taken.length) Label.isBatchDone Label.interrupts loop.commandBatchSize
        (fun {_ _ _} ⟨soundBefore, size_eq⟩ ⟨taken, notEmpty⟩ =>
          have settles := Settles.of_step soundBefore taken notEmpty
          ⟨⟨soundBefore.step taken, settles.size_eq.trans size_eq⟩, size_eq ▸ settles.paid⟩)
        ⟨sound, rfl⟩
      have credited := fits.credit_le
      have before_eq := sound.length_accepted
      have after_eq := soundAfter.length_accepted
      rw [Nat.mul_add]
      omega
    · refine .inl ?_
      obtain ⟨soundBefore, early⟩ := Follows.of_run sound first
      have late := (Follows.of_step soundBefore taken).trans
        (Follows.of_run (soundBefore.step taken) last).2
      have items_eq : before.queue.items = [] := by
        cases label with
        | tryPop => exact empty
        | _ => cases empty
      have all := early.kept
      rw [items_eq, List.append_nil] at all
      have included := all.trans late.taken.sublist.subperm
      rw [← taken_eq] at included
      exact (List.subperm_append_left loop.taken).mp included

/-- Two commands wait when the game thread starts. -/
def twoWaiting (first second : GameCommand) : List Label := [
  .queue (.push first), .queue (.pushStep 0 none), .queue (.pushStep 0 none),
  .queue (.push second), .queue (.pushStep 1 none), .queue (.pushStep 1 none), .start]

/-- With batches of one command: two ticks with a full batch, and one that finds nothing. -/
def threeTicks : List Label := [
  .loadRunning true, .checkTime false, .tryPop 0, .checkRunning, .checkTime false,
  .processGameCommand true ⟨50, 50, 0⟩ 0 0 [], .batchDone, .tickDone,
  .loadRunning true, .checkTime false, .tryPop 0, .checkRunning, .checkTime false,
  .processGameCommand false ⟨50, 50, 0⟩ 0 0 [], .batchDone, .tickDone,
  .loadRunning true, .checkTime false, .tryPop 0, .batchDone, .tickDone]

theorem works_off_backlog_of_threeTicks :
    ∃ manager loop after new,
      Runs (create 1 manager) (twoWaiting
        ⟨.enterZone { playerId := 1, zoneId := 1, sessionId := 7 }, 7⟩
        ⟨.playerDisconnect { playerId := 1 }, 7⟩) loop ∧
      loop.queue.items.length = 2 ∧ Runs loop threeTicks after ∧
      after.processed = loop.queue.items ∧ WorksOff loop threeTicks after new := by
  obtain ⟨start, loop, created, run, waiting, goesOn⟩ := exists_run_of_execute step
    ((GameManager.create? {}).map (create 1)) (twoWaiting
      ⟨.enterZone { playerId := 1, zoneId := 1, sessionId := 7 }, 7⟩
      ⟨.playerDisconnect { playerId := 1 }, 7⟩)
    (fun loop => loop.queue.items.length = 2 ∧ ((execute step loop threeTicks).any fun after =>
      decide (after.processed = loop.queue.items)) = true) (by decide +kernel)
  obtain ⟨manager, -, rfl⟩ := Option.map_eq_some_iff.mp created
  obtain ⟨after, executed, processed⟩ := (Option.any_eq_true _ _).mp goesOn
  have more := run_of_execute executed
  obtain ⟨new, worksOff⟩ := works_off_backlog run more
  exact ⟨manager, loop, after, new, run, waiting, more, of_decide_eq_true processed, worksOff⟩

end CommandLoop

end CppMMO.Game.Managers
