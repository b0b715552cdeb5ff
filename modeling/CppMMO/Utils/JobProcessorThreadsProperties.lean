import CppMMO.Utils.BlockingQueueProperties
import CppMMO.Utils.JobProcessorThreads

/-! `Stop` returns once every worker has taken a shutdown signal of its own, every job is
handled at most once, and after `Stop` none is handled any more. -/

set_option autoImplicit false

namespace CppMMO.Utils

open CppMMO.Lib CppMMO.Game CppMMO.Protocol

/-- A login packet whose ticket is read through a null pointer. -/
def Job.LacksTicket (job : Job) : Prop :=
  ∃ packet ∈ job.packet, packet.id = .cLogin ∧
    ∃ login ∈ packet.data.bind (·.asLogin), login.sessionTicket = none

def WorkerThread.isLive : WorkerThread → Bool
  | popJob | handleJob _ => true
  | exited => false

@[simp] theorem WorkerThread.jobs_popJob : popJob.jobs = [] := rfl

@[simp] theorem WorkerThread.jobs_handleJob (job : Job) : (handleJob job).jobs = [job] := rfl

@[simp] theorem QueuedJob.jobs_received (entry : QueuedJob) : entry.received.jobs = entry.packets := by
  cases entry <;> rfl

/-- The steps that a queue entry still costs: a job is popped and handled. -/
def QueuedJob.stepsLeft : QueuedJob → Nat
  | packet _ => 2
  | shutdownSignal => 1

def WorkerThread.stepsLeft : WorkerThread → Nat
  | handleJob _ => 1
  | popJob | exited => 0

namespace JobProcessor

def live (processor : JobProcessor) : Nat :=
  (processor.workerThreads.map (·.isLive.toNat)).sum

def signals (processor : JobProcessor) : Nat := processor.jobQueue.count .shutdownSignal

/-- Each signal costs the owner one step and its worker another. -/
def ownerStepsLeft (processor : JobProcessor) : Nat :=
  match processor.owner with
  | .idle => 0
  | .starting left => left + 1
  | .signalling left => 2 * left + processor.workerThreads.length + 2
  | .joining next => processor.workerThreads.length - next + 1

def stepsLeft (processor : JobProcessor) : Nat :=
  (processor.jobQueue.map QueuedJob.stepsLeft).sum +
    (processor.workerThreads.map WorkerThread.stepsLeft).sum + processor.ownerStepsLeft

theorem of_popJob {processor after : JobProcessor} {worker choice : Nat}
    (popped : processor.popJob worker choice = some after) :
    ∃ entry jobQueue, processor.workerThreads[worker]? = some .popJob ∧
      (entry :: jobQueue).Perm processor.jobQueue ∧ after = { processor with
        workerThreads := processor.workerThreads.set worker entry.received, jobQueue } := by
  unfold JobProcessor.popJob at popped
  split at popped
  · next entry waits there =>
      cases popped
      obtain ⟨inside, rfl⟩ := List.getElem?_eq_some_iff.mp there
      exact ⟨_, _, waits, List.getElem_cons_eraseIdx_perm inside, rfl⟩
  · cases popped

theorem of_handle {processor after : JobProcessor} {worker : Nat} {playerId : PlayerId}
    {endpointKnown : Bool} (handled : processor.handle worker playerId endpointKnown = some after) :
    ∃ job handling, processor.workerThreads[worker]? = some (.handleJob job) ∧
      handleJob job playerId endpointKnown = some handling ∧ after = { processor with
        workerThreads := processor.workerThreads.set worker .popJob
        handled := processor.handled ++ [(job, handling)] } := by
  unfold JobProcessor.handle at handled
  split at handled
  · next job has =>
      obtain ⟨handling, handles, rfl⟩ := Option.map_eq_some_iff.mp handled
      exact ⟨job, handling, has, handles, rfl⟩
  · cases handled

/-- How `Start` and `Stop` go on. -/
theorem advance_cases {processor after : JobProcessor}
    (advanced : processor.advance = some after) :
    (processor.owner = .starting 0 ∧ after = { processor with owner := .idle }) ∨
      (∃ left, processor.owner = .starting (left + 1) ∧ after = { processor with
        workerThreads := processor.workerThreads ++ [.popJob], owner := .starting left }) ∨
      (processor.owner = .signalling 0 ∧ after = { processor with owner := .joining 0 }) ∨
      (∃ left, processor.owner = .signalling (left + 1) ∧ after = { processor with
        jobQueue := processor.jobQueue ++ [.shutdownSignal], owner := .signalling left }) ∨
      (∃ next, processor.owner = .joining next ∧ processor.workerThreads.length ≤ next ∧
        after = { processor with workerThreads := [], owner := .idle }) ∨
      ∃ next, processor.owner = .joining next ∧
        processor.workerThreads[next]? = some .exited ∧
        after = { processor with owner := .joining (next + 1) } := by
  unfold JobProcessor.advance at advanced
  split at advanced
  · cases advanced
  · next owner =>
      cases advanced
      exact .inl ⟨owner, rfl⟩
  · next left owner =>
      cases advanced
      exact .inr (.inl ⟨left, owner, rfl⟩)
  · next owner =>
      cases advanced
      exact .inr (.inr (.inl ⟨owner, rfl⟩))
  · next left owner =>
      cases advanced
      exact .inr (.inr (.inr (.inl ⟨left, owner, rfl⟩)))
  · next index owner =>
      split at advanced
      · next beyond =>
          cases advanced
          exact .inr (.inr (.inr (.inr (.inl
            ⟨index, owner, List.getElem?_eq_none_iff.mp beyond, rfl⟩))))
      · next exited =>
          cases advanced
          exact .inr (.inr (.inr (.inr (.inr ⟨index, owner, exited, rfl⟩))))
      · cases advanced
      · cases advanced

/-- The workers, the signals and the thread that calls `Start` and `Stop` agree: while `Stop`
runs, one signal is on its way for each worker that has not exited. -/
structure Sound (processor : JobProcessor) : Prop where
  fresh : processor.running = false →
    processor.owner = .idle ∧ processor.workerThreads = []
  quiet : processor.isStopping = false →
    processor.signals = 0 ∧ processor.live = processor.workerThreads.length
  signalled : ∀ left, processor.owner = .signalling left →
    processor.signals + left = processor.live
  joining : ∀ next, processor.owner = .joining next → processor.signals = processor.live ∧
    ∀ index < next, ∀ worker, processor.workerThreads[index]? = some worker → worker = .exited

/-- Where every worker has exited, none is live. -/
theorem live_eq_zero {processor : JobProcessor}
    (exited : ∀ worker ∈ processor.workerThreads, worker = .exited) : processor.live = 0 := by
  by_contra some
  obtain ⟨index, worker, found, share⟩ :=
    exists_share_of_sum_pos (fun worker : WorkerThread => worker.isLive.toNat)
      (Nat.pos_of_ne_zero some)
  rw [exited worker (List.mem_of_getElem? found)] at share
  cases share

namespace Sound

variable {processor after : JobProcessor}

theorem start (sound : processor.Sound) (idle : processor.owner = .idle) (numThreads : Int) :
    (processor.start numThreads).Sound := by
  unfold JobProcessor.start
  split
  · exact sound
  · next stopped =>
      obtain ⟨-, none⟩ := sound.fresh (by simpa using stopped)
      have quiet := sound.quiet (by simp [isStopping, idle])
      refine ⟨fun running => ?_, fun _ => quiet, fun left owner => ?_, fun next owner => ?_⟩
      · cases running
      · cases owner
      · cases owner

theorem stop (sound : processor.Sound) (idle : processor.owner = .idle) :
    processor.stop.Sound := by
  unfold JobProcessor.stop
  split
  · next runs =>
      obtain ⟨none, all⟩ := sound.quiet (by simp [isStopping, idle])
      refine ⟨fun running => ?_, fun quiet => ?_, fun left owner => ?_, fun next owner => ?_⟩
      · exact absurd (runs.symm.trans running) (by simp)
      · simp [isStopping] at quiet
      · cases owner
        simp only [signals, live] at none all ⊢
        omega
      · cases owner
  · exact sound

theorem set_worker (sound : processor.Sound) {index : Nat} {old new : WorkerThread}
    (found : processor.workerThreads[index]? = some old) (wasLive : old.isLive = true)
    {jobQueue : List QueuedJob} {handled : List (Job × Handling)}
    (exchanged : jobQueue.count .shutdownSignal + 1 =
      processor.signals + new.isLive.toNat) :
    Sound { processor with
      workerThreads := processor.workerThreads.set index new, jobQueue, handled } := by
  have share := sum_map_set (fun worker : WorkerThread => worker.isLive.toNat) found new
  rw [wasLive, Bool.toNat_true] at share
  have atMost := Bool.toNat_le new.isLive
  have inside := (List.getElem?_eq_some_iff.mp found).1
  refine ⟨fun running => ?_, fun quiet => ?_, fun left owner => ?_, fun next owner => ?_⟩
  · obtain ⟨-, none⟩ := sound.fresh running
    simp [none] at inside
  · obtain ⟨none, all⟩ := sound.quiet quiet
    simp only [signals, live, List.length_set] at none all exchanged ⊢
    omega
  · have before := sound.signalled left owner
    simp only [signals, live] at before exchanged ⊢
    omega
  · obtain ⟨before, joined⟩ := sound.joining next owner
    refine ⟨?_, fun place earlier worker there => ?_⟩
    · simp only [signals, live] at before exchanged ⊢
      omega
    · by_cases same : index = place
      · subst same
        rw [joined index earlier old found] at wasLive
        cases wasLive
      · rw [List.getElem?_set_ne same] at there
        exact joined place earlier worker there

theorem popJob (sound : processor.Sound) {worker choice : Nat}
    (popped : processor.popJob worker choice = some after) : after.Sound := by
  obtain ⟨entry, jobQueue, found, taken, rfl⟩ := of_popJob popped
  apply sound.set_worker found rfl
  have counted := taken.count_eq .shutdownSignal
  cases entry with
  | packet job =>
      rw [List.count_cons_of_ne (by simp)] at counted
      simp [signals, counted, QueuedJob.received, WorkerThread.isLive]
  | shutdownSignal =>
      rw [List.count_cons_self] at counted
      simp [signals, counted, QueuedJob.received, WorkerThread.isLive]

theorem handle (sound : processor.Sound) {worker : Nat} {playerId : PlayerId}
    {endpointKnown : Bool} (handled : processor.handle worker playerId endpointKnown = some after) :
    after.Sound := by
  obtain ⟨job, handling, found, -, rfl⟩ := of_handle handled
  exact sound.set_worker found rfl rfl

theorem pushJob (sound : processor.Sound) (job : Job) (pushed : List Job) :
    Sound { processor with jobQueue := processor.jobQueue ++ [.packet job], pushed } := by
  have same : (processor.jobQueue ++ [QueuedJob.packet job]).count .shutdownSignal =
      processor.signals := by
    rw [List.count_append, List.count_singleton]
    simp [signals]
  refine ⟨sound.fresh, fun quiet => ?_, fun left owner => ?_, fun next owner => ?_⟩
  · obtain ⟨none, all⟩ := sound.quiet quiet
    exact ⟨same.trans none, all⟩
  · exact (congrArg (· + left) same).trans (sound.signalled left owner)
  · obtain ⟨before, joined⟩ := sound.joining next owner
    exact ⟨same.trans before, joined⟩

theorem advance (sound : processor.Sound) (advanced : processor.advance = some after) :
    after.Sound := by
  have runs : processor.owner ≠ .idle → processor.running = true := by
    intro busy
    by_contra stopped
    exact busy (sound.fresh (by simpa using stopped)).1
  rcases advance_cases advanced with ⟨owner, rfl⟩ | ⟨left, owner, rfl⟩ | ⟨owner, rfl⟩ |
    ⟨left, owner, rfl⟩ | ⟨next, owner, beyond, rfl⟩ | ⟨next, owner, exited, rfl⟩
  all_goals have running := runs (by simp [owner])
  · refine ⟨fun stopped => ?_, fun _ => ?_, fun left other => ?_, fun next other => ?_⟩
    · cases running.symm.trans stopped
    · exact sound.quiet (by simp [isStopping, owner])
    · cases other
    · cases other
  · obtain ⟨none, all⟩ := sound.quiet (by simp [isStopping, owner])
    refine ⟨fun stopped => ?_, fun _ => ?_, fun left other => ?_, fun next other => ?_⟩
    · cases running.symm.trans stopped
    · refine ⟨none, ?_⟩
      simp only [live] at all ⊢
      rw [List.map_append, List.sum_append, List.length_append, all]
      rfl
    · cases other
    · cases other
  · have before := sound.signalled 0 owner
    refine ⟨fun stopped => ?_, fun quiet => ?_, fun left other => ?_, fun next other => ?_⟩
    · cases running.symm.trans stopped
    · simp [isStopping] at quiet
    · cases other
    · cases other
      exact ⟨before, fun index earlier => absurd earlier (Nat.not_lt_zero index)⟩
  · have before := sound.signalled (left + 1) owner
    refine ⟨fun stopped => ?_, fun quiet => ?_, fun left other => ?_, fun next other => ?_⟩
    · cases running.symm.trans stopped
    · simp [isStopping] at quiet
    · cases other
      simp only [signals, live] at before ⊢
      simp only [List.count_append, List.count_singleton_self]
      omega
    · cases other
  · obtain ⟨before, joined⟩ := sound.joining next owner
    have exited : ∀ worker ∈ processor.workerThreads, worker = .exited := by
      intro worker member
      obtain ⟨index, found⟩ := List.getElem?_of_mem member
      have inside := (List.getElem?_eq_some_iff.mp found).1
      exact joined index (by omega) worker found
    refine ⟨fun stopped => ?_, fun _ => ?_, fun left other => ?_, fun next other => ?_⟩
    · cases running.symm.trans stopped
    · exact ⟨before.trans (live_eq_zero exited), rfl⟩
    · cases other
    · cases other
  · obtain ⟨before, joined⟩ := sound.joining next owner
    refine ⟨fun stopped => ?_, fun quiet => ?_, fun left other => ?_, fun past other => ?_⟩
    · cases running.symm.trans stopped
    · simp [isStopping] at quiet
    · cases other
    · cases other
      refine ⟨before, fun index earlier worker found => ?_⟩
      rcases Nat.lt_succ_iff_lt_or_eq.mp earlier with already | rfl
      · exact joined index already worker found
      · exact Option.some.inj (found.symm.trans exited)

theorem step (sound : processor.Sound) {label : Label}
    (taken : processor.step label = some after) : after.Sound := by
  cases label with
  | start numThreads =>
      simp only [JobProcessor.step] at taken
      split at taken
      · next idle =>
          cases taken
          exact sound.start idle numThreads
      · cases taken
  | stop =>
      simp only [JobProcessor.step] at taken
      split at taken
      · next idle =>
          cases taken
          exact sound.stop idle
      · cases taken
  | advance => exact sound.advance taken
  | pushJob job =>
      cases taken
      exact sound.pushJob job _
  | popJob worker choice => exact sound.popJob taken
  | handleJob worker playerId endpointKnown => exact sound.handle taken

end Sound

/-- Every pushed job was handled once, is in a worker's hand or waits in the queue. -/
def Conserved (processor : JobProcessor) : Prop :=
  processor.pushed.Perm (processor.handled.map (·.1) ++ (processor.inHand ++ processor.queued))

/-- Moving a job along keeps the account, whatever else changes. -/
theorem conserved_of_count {before after : JobProcessor} (conserved : before.Conserved)
    (moved : ∀ job, (after.handled.map (·.1)).count job +
        (after.inHand.count job + after.queued.count job) + before.pushed.count job =
      (before.handled.map (·.1)).count job +
        (before.inHand.count job + before.queued.count job) + after.pushed.count job) :
    after.Conserved := by
  apply List.perm_iff_count.mpr
  intro job
  have counted := conserved.count_eq job
  have exchanged := moved job
  simp only [List.count_append] at counted ⊢
  omega

theorem conserved_advance {processor after : JobProcessor} (sound : processor.Sound)
    (conserved : processor.Conserved) (advanced : processor.advance = some after) :
    after.Conserved := by
  apply conserved_of_count conserved
  intro job
  rcases advance_cases advanced with ⟨owner, rfl⟩ | ⟨left, owner, rfl⟩ | ⟨owner, rfl⟩ |
    ⟨left, owner, rfl⟩ | ⟨next, owner, beyond, rfl⟩ | ⟨next, owner, exited, rfl⟩
  · rfl
  · simp [inHand, queued, WorkerThread.jobs]
  · rfl
  · simp [inHand, queued, QueuedJob.packets]
  · obtain ⟨-, joined⟩ := sound.joining next owner
    have nothing : processor.inHand = [] := by
      apply List.flatMap_eq_nil_iff.mpr
      intro worker member
      obtain ⟨index, found⟩ := List.getElem?_of_mem member
      have inside := (List.getElem?_eq_some_iff.mp found).1
      rw [joined index (by omega) worker found]
      rfl
    rw [nothing]
    rfl
  · rfl

theorem conserved_step {processor after : JobProcessor} (sound : processor.Sound)
    (conserved : processor.Conserved) {label : Label}
    (taken : processor.step label = some after) : after.Conserved := by
  cases label with
  | start numThreads =>
      simp only [JobProcessor.step] at taken
      split at taken
      · cases taken
        unfold JobProcessor.start
        split
        · exact conserved
        · exact conserved
      · cases taken
  | stop =>
      simp only [JobProcessor.step] at taken
      split at taken
      · cases taken
        unfold JobProcessor.stop
        split
        · exact conserved
        · exact conserved
      · cases taken
  | advance => exact conserved_advance sound conserved taken
  | pushJob job =>
      cases taken
      apply conserved_of_count conserved
      intro other
      simp only [inHand, queued, List.flatMap_append, List.count_append, List.flatMap_cons,
        List.flatMap_nil, QueuedJob.packets, List.append_nil]
      omega
  | popJob worker choice =>
      obtain ⟨entry, jobQueue, found, popped, rfl⟩ := of_popJob taken
      apply conserved_of_count conserved
      intro job
      have exchanged := count_flatMap_set WorkerThread.jobs job found entry.received
      have left := (popped.flatMap_right QueuedJob.packets).count_eq job
      simp only [List.flatMap_cons, List.count_append] at left
      simp only [inHand, queued, QueuedJob.jobs_received, WorkerThread.jobs_popJob,
        List.count_nil] at exchanged ⊢
      omega
  | handleJob worker playerId endpointKnown =>
      obtain ⟨job, handling, found, -, rfl⟩ := of_handle taken
      apply conserved_of_count conserved
      intro other
      have exchanged := count_flatMap_set WorkerThread.jobs other found .popJob
      simp only [inHand, queued, WorkerThread.jobs_popJob, WorkerThread.jobs_handleJob,
        List.count_nil, List.map_append, List.count_append, List.map_cons, List.map_nil]
        at exchanged ⊢
      omega

theorem step_of_ownStep {processor after : JobProcessor} {label : Label}
    (taken : processor.ownStep label = some after) : processor.step label = some after := by
  unfold ownStep at taken
  split at taken
  · exact taken
  · cases taken

theorem stepsLeft_of_advance {processor after : JobProcessor}
    (advanced : processor.advance = some after) : after.stepsLeft < processor.stepsLeft := by
  rcases advance_cases advanced with ⟨owner, rfl⟩ | ⟨left, owner, rfl⟩ | ⟨owner, rfl⟩ |
    ⟨left, owner, rfl⟩ | ⟨next, owner, beyond, rfl⟩ | ⟨next, owner, exited, rfl⟩
  · simp only [stepsLeft, ownerStepsLeft, owner]
    omega
  · simp only [stepsLeft, ownerStepsLeft, owner, List.map_append, List.sum_append]
    simp [WorkerThread.stepsLeft]
  · simp only [stepsLeft, ownerStepsLeft, owner]
    omega
  · simp only [stepsLeft, ownerStepsLeft, owner, List.map_append, List.sum_append, List.map_cons,
      List.map_nil, List.sum_cons, List.sum_nil, QueuedJob.stepsLeft]
    omega
  · simp only [stepsLeft, ownerStepsLeft, owner, List.map_nil, List.sum_nil]
    omega
  · have inside := (List.getElem?_eq_some_iff.mp exited).1
    simp only [stepsLeft, ownerStepsLeft, owner]
    omega

theorem stepsLeft_of_ownStep {processor after : JobProcessor} {label : Label}
    (taken : processor.ownStep label = some after) : after.stepsLeft < processor.stepsLeft := by
  have moved := step_of_ownStep taken
  cases label with
  | start | stop | pushJob => cases taken
  | advance => exact stepsLeft_of_advance moved
  | popJob worker choice =>
      obtain ⟨entry, jobQueue, found, popped, rfl⟩ := of_popJob moved
      have exchanged := sum_map_set WorkerThread.stepsLeft found entry.received
      have waits : WorkerThread.popJob.stepsLeft = 0 := rfl
      have less : entry.received.stepsLeft < entry.stepsLeft := by
        cases entry with
        | packet | shutdownSignal => exact Nat.lt_succ_self _
      have left := (popped.map QueuedJob.stepsLeft).sum_nat
      rw [List.map_cons, List.sum_cons] at left
      simp only [stepsLeft, ownerStepsLeft, List.length_set]
      omega
  | handleJob worker playerId endpointKnown =>
      obtain ⟨job, handling, found, -, rfl⟩ := of_handle moved
      have exchanged := sum_map_set WorkerThread.stepsLeft found .popJob
      have waits : WorkerThread.popJob.stepsLeft = 0 := rfl
      have handles : (WorkerThread.handleJob job).stepsLeft = 1 := rfl
      simp only [stepsLeft, ownerStepsLeft, List.length_set]
      omega

/-- While `Stop` has not returned, it or a worker can go on. -/
theorem exists_ownStep {processor : JobProcessor} (sound : processor.Sound)
    (stopping : processor.isStopping = true)
    (behaves : ∀ job ∈ processor.inHand, (handleJob job 0 false).isSome = true) :
    ∃ label, (processor.ownStep label).isSome = true := by
  have own : ∀ label, label.isOwn = true → (processor.step label).isSome = true →
      ∃ label, (processor.ownStep label).isSome = true :=
    fun label isOwn able => ⟨label, by rw [ownStep, if_pos isOwn]; exact able⟩
  cases owner : processor.owner with
  | idle | starting left => simp [isStopping, owner] at stopping
  | signalling left =>
      apply own .advance rfl
      cases left <;> simp [step, advance, owner]
  | joining next =>
      obtain ⟨awaited, -⟩ := sound.joining next owner
      cases found : processor.workerThreads[next]? with
      | none =>
          apply own .advance rfl
          simp [step, advance, owner, found]
      | some worker =>
          cases worker with
          | exited =>
              apply own .advance rfl
              simp [step, advance, owner, found]
          | popJob =>
              have exchanged := sum_map_set (fun worker : WorkerThread => worker.isLive.toNat)
                found .exited
              have signal : 0 < processor.jobQueue.count .shutdownSignal := by
                simp only [signals, live, WorkerThread.isLive, Bool.toNat_true, Bool.toNat_false]
                  at awaited exchanged
                omega
              obtain ⟨choice, there⟩ := List.getElem?_of_mem (List.count_pos_iff.mp signal)
              apply own (.popJob next choice) rfl
              simp [step, popJob, found, there]
          | handleJob job =>
              apply own (.handleJob next 0 false) rfl
              have member : job ∈ processor.inHand :=
                List.mem_flatMap.mpr ⟨_, List.mem_of_getElem? found, by simp⟩
              simpa [step, handle, found] using behaves job member

/-- `Stop` has begun, and its workers are gone once it has returned. -/
def Retiring (processor : JobProcessor) : Prop :=
  processor.running = true ∧
    (processor.isStopping = true ∨ processor.owner = .idle ∧ processor.workerThreads = [])

theorem Retiring.advance {processor after : JobProcessor} (retiring : processor.Retiring)
    (advanced : processor.advance = some after) : after.Retiring := by
  obtain ⟨running, phase⟩ := retiring
  have notStarting : ∀ left, processor.owner ≠ .starting left := by
    intro left owner
    simp [isStopping, owner] at phase
  rcases advance_cases advanced with ⟨owner, rfl⟩ | ⟨left, owner, rfl⟩ | ⟨owner, rfl⟩ |
    ⟨left, owner, rfl⟩ | ⟨next, owner, beyond, rfl⟩ | ⟨next, owner, exited, rfl⟩
  · exact absurd owner (notStarting 0)
  · exact absurd owner (notStarting (left + 1))
  · exact ⟨running, .inl rfl⟩
  · exact ⟨running, .inl rfl⟩
  · exact ⟨running, .inr ⟨rfl, rfl⟩⟩
  · exact ⟨running, .inl rfl⟩

theorem Retiring.step {processor after : JobProcessor} (retiring : processor.Retiring)
    {label : Label} (taken : processor.step label = some after) : after.Retiring := by
  have running := retiring.1
  cases label with
  | start numThreads =>
      simp only [JobProcessor.step, start, running, if_true] at taken
      split at taken <;> cases taken
      exact retiring
  | stop =>
      simp only [JobProcessor.step, stop, running, if_true] at taken
      split at taken <;> cases taken
      exact ⟨rfl, .inl rfl⟩
  | advance => exact retiring.advance taken
  | pushJob job =>
      cases taken
      exact retiring
  | popJob worker choice =>
      obtain ⟨entry, jobQueue, found, -, rfl⟩ := of_popJob taken
      refine ⟨running, retiring.2.imp id fun gone => ?_⟩
      simp [gone.2] at found
  | handleJob worker playerId endpointKnown =>
      obtain ⟨job, handling, found, -, rfl⟩ := of_handle taken
      refine ⟨running, retiring.2.imp id fun gone => ?_⟩
      simp [gone.2] at found

/-- Once no worker is left, no call creates one. -/
theorem Retiring.stays_retired {processor after : JobProcessor} (retiring : processor.Retiring)
    (none : processor.workerThreads = []) {label : Label}
    (taken : processor.step label = some after) :
    after.workerThreads = [] ∧ after.handled = processor.handled := by
  have running := retiring.1
  cases label with
  | start numThreads =>
      simp only [JobProcessor.step, start, running, if_true] at taken
      split at taken <;> cases taken
      exact ⟨none, rfl⟩
  | stop =>
      simp only [JobProcessor.step, stop, running, if_true] at taken
      split at taken <;> cases taken
      exact ⟨none, rfl⟩
  | advance =>
      have phase := retiring.2
      rcases advance_cases taken with ⟨owner, rfl⟩ | ⟨left, owner, rfl⟩ | ⟨owner, rfl⟩ |
        ⟨left, owner, rfl⟩ | ⟨next, owner, beyond, rfl⟩ | ⟨next, owner, exited, rfl⟩
      · exact ⟨none, rfl⟩
      · simp [isStopping, owner] at phase
      · exact ⟨none, rfl⟩
      · exact ⟨none, rfl⟩
      · exact ⟨rfl, rfl⟩
      · exact ⟨none, rfl⟩
  | pushJob job =>
      cases taken
      exact ⟨none, rfl⟩
  | popJob worker choice =>
      obtain ⟨entry, jobQueue, found, -, rfl⟩ := of_popJob taken
      simp [none] at found
  | handleJob worker playerId endpointKnown =>
      obtain ⟨job, handling, found, -, rfl⟩ := of_handle taken
      simp [none] at found

/-- What becomes of a call of `Stop` that has begun. -/
structure Settles (processor : JobProcessor) : Prop where
  /-- It and the workers take a bounded number of steps. -/
  bounded : ∀ labels finish, Run (Taken ownStep) processor labels finish →
    labels.length ≤ processor.stepsLeft
  /-- They come to rest only when it has returned. -/
  returns : ∀ labels finish, Run (Taken ownStep) processor labels finish →
    (∀ label, finish.ownStep label = none) → finish.owner = .idle
  /-- When it has returned, whatever was pushed meanwhile, no worker and no signal is left. A
  job that was not handled by then stays in the queue, through any further call of `Start`. -/
  final : ∀ labels finish, Runs processor labels finish → finish.owner = .idle →
    finish.workerThreads = [] ∧ finish.signals = 0 ∧
      ∀ more later, Runs finish more later → later.handled = finish.handled ∧
        later.pushed.Perm (later.handled.map (·.1) ++ later.queued)

theorem accounted_step {before after : JobProcessor} {label : Label}
    (accounted : before.Sound ∧ before.Conserved) (taken : before.step label = some after) :
    after.Sound ∧ after.Conserved :=
  ⟨accounted.1.step taken, conserved_step accounted.1 accounted.2 taken⟩

theorem Retiring.final {processor : JobProcessor} (retiring : processor.Retiring)
    (accounted : processor.Sound ∧ processor.Conserved) (idle : processor.owner = .idle) :
    processor.workerThreads = [] ∧ processor.signals = 0 ∧
      ∀ more later, Runs processor more later → later.handled = processor.handled ∧
        later.pushed.Perm (later.handled.map (·.1) ++ later.queued) := by
  have none : processor.workerThreads = [] := by
    have phase := retiring.2
    simpa [isStopping, idle] using phase
  refine ⟨none, (accounted.1.quiet (by simp [isStopping, idle])).1, ?_⟩
  intro more later run
  let invariant (state : JobProcessor) : Prop := (state.Retiring ∧ state.workerThreads = []) ∧
    state.handled = processor.handled ∧ state.Sound ∧ state.Conserved
  have holds : invariant later := by
    apply run.preserves invariant ?_ ⟨⟨retiring, none⟩, rfl, accounted⟩
    intro before label after soFar taken
    obtain ⟨⟨retires, gone⟩, same, kept⟩ := soFar
    obtain ⟨stillGone, stillSame⟩ := retires.stays_retired gone taken
    exact ⟨⟨retires.step taken, stillGone⟩, stillSame.trans same, accounted_step kept taken⟩
  obtain ⟨⟨-, gone⟩, same, -, conserved⟩ := holds
  refine ⟨same, ?_⟩
  have nothing : later.inHand = [] := by rw [inHand, gone, List.flatMap_nil]
  rw [Conserved, nothing, List.nil_append] at conserved
  exact conserved

end JobProcessor

end CppMMO.Utils
