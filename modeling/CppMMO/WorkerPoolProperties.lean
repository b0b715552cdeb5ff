import CppMMO.WorkerPool
import Mathlib.Data.List.Perm.Basic

/-! The order in which one session's packets become game commands.

Nothing ties a session to a worker. A packet taken while an earlier one is still in
another worker's hands may overtake it; no other packet does. -/

set_option autoImplicit false

namespace CppMMO

open CppMMO.Lib CppMMO.Protocol CppMMO.Game CppMMO.Game.Managers CppMMO.Utils

namespace WorkerPool

def pushedFrom (pool : WorkerPool) (session : SessionId) : List (ReadPacket × GameCommand) :=
  pool.pushed.filter (·.1.job.session = session)

/-- The session's commands were pushed in the order in which its packets were read. -/
def InOrder (pool : WorkerPool) (session : SessionId) : Prop :=
  (pool.pushedFrom session).Pairwise fun first second => first.1.number < second.1.number

instance (pool : WorkerPool) (session : SessionId) : Decidable (pool.InOrder session) :=
  inferInstanceAs (Decidable (List.Pairwise _ _))

/-- The later packet was taken from the queue while a worker still had the earlier one. -/
def TakenDuring (initial : WorkerPool) (labels : List Label) (earlier later : ReadPacket) : Prop :=
  ∃ front worker back before, labels = front ++ .popJob worker :: back ∧
    Runs initial front before ∧ before.jobQueue.head? = some later ∧
    ∃ other, before.Holds other earlier

theorem TakenDuring.snoc {initial : WorkerPool} {labels : List Label} {earlier later : ReadPacket}
    (during : TakenDuring initial labels earlier later) (label : Label) :
    TakenDuring initial (labels ++ [label]) earlier later := by
  obtain ⟨front, worker, back, before, rfl, run, front_is, held⟩ := during
  exact ⟨front, worker, back ++ [label], before, by simp, run, front_is, held⟩

theorem holds_of_set {pool : WorkerPool} {worker : Nat} {task : Option Task} {other : Nat}
    {packet : ReadPacket}
    (holds : Holds { pool with workers := pool.workers.set worker task } other packet) :
    (other = worker ∧ ∃ held ∈ task, held.packet = packet) ∨
      (other ≠ worker ∧ pool.Holds other packet) := by
  obtain ⟨work, holds⟩ := holds
  simp only [List.getElem?_set] at holds
  split at holds
  · next same =>
      split at holds
      · cases holds
        exact .inl ⟨same.symm, _, rfl, rfl⟩
      · cases holds
  · next differ => exact .inr ⟨Ne.symm differ, work, holds⟩

/-- A packet that a worker has or has made a command of. -/
inductive TakenUp (pool : WorkerPool) : ReadPacket → Prop where
  | held {worker : Nat} {packet : ReadPacket} : pool.Holds worker packet → TakenUp pool packet
  | pushed {packet : ReadPacket} {command : GameCommand} :
      (packet, command) ∈ pool.pushed → TakenUp pool packet

/-- The first packet is the later one, unless the second was taken while a worker had it. -/
def Behind (initial : WorkerPool) (labels : List Label) (first second : ReadPacket) : Prop :=
  first.number ≠ second.number ∧
    (first.number < second.number → TakenDuring initial labels first second)

theorem Behind.snoc {initial : WorkerPool} {labels : List Label} {first second : ReadPacket}
    (behind : Behind initial labels first second) (label : Label) :
    Behind initial (labels ++ [label]) first second :=
  ⟨behind.1, fun before => (behind.2 before).snoc label⟩

/-- Numbers follow the order of reading: a queued packet has a higher number than any that
was taken up, and of two that were taken up the later one came out of the queue later. -/
structure Ordered (initial : WorkerPool) (labels : List Label) (pool : WorkerPool) : Prop where
  runs : Runs initial labels pool
  queue : pool.jobQueue.Pairwise fun first second => first.number < second.number
  queued : ∀ packet ∈ pool.jobQueue, packet.number < pool.read.length
  takenUp : ∀ packet, pool.TakenUp packet → packet.number < pool.read.length ∧
    ∀ later ∈ pool.jobQueue, packet.number < later.number
  held : ∀ worker other first second, worker ≠ other → pool.Holds worker first →
    pool.Holds other second → Behind initial labels first second
  heldBehind : ∀ worker packet entry, pool.Holds worker packet → entry ∈ pool.pushed →
    Behind initial labels packet entry.1
  pushed : pool.pushed.Pairwise fun first second => Behind initial labels second.1 first.1

namespace Ordered

variable {initial pool after : WorkerPool} {labels : List Label} {label : Label}

theorem receive (ordered : Ordered initial labels pool) {session : SessionId}
    {packet : Option UnifiedPacket} (taken : pool.step (.receive session packet) = some after) :
    Ordered initial (labels ++ [.receive session packet]) after := by
  have runs := ordered.runs.snoc taken
  cases taken
  refine ⟨runs, ?_, ?_, ?_, ?_, ?_, ?_⟩
  · rw [List.pairwise_append]
    refine ⟨ordered.queue, List.pairwise_singleton _ _, ?_⟩
    intro first member second last
    rw [List.mem_singleton.mp last]
    exact ordered.queued first member
  · intro other member
    simp only [List.length_append, List.length_singleton]
    rcases List.mem_append.mp member with earlier | last
    · exact Nat.lt_succ_of_lt (ordered.queued other earlier)
    · rw [List.mem_singleton.mp last]
      exact Nat.lt_succ_self _
  · intro other takenUp
    have before : pool.TakenUp other := by
      cases takenUp with
      | held holds => exact .held holds
      | pushed member => exact .pushed member
    obtain ⟨known, below⟩ := ordered.takenUp other before
    refine ⟨by simpa using Nat.lt_succ_of_lt known, ?_⟩
    intro later member
    rcases List.mem_append.mp member with earlier | last
    · exact below later earlier
    · rw [List.mem_singleton.mp last]
      exact known
  · intro worker other first second differ holds holdsOther
    exact (ordered.held worker other first second differ holds holdsOther).snoc _
  · intro worker other entry holds member
    exact (ordered.heldBehind worker other entry holds member).snoc _
  · exact ordered.pushed.imp fun behind => behind.snoc _

/-- The packet at the front is taken while every other held packet is in a worker's hands. -/
theorem popJob (ordered : Ordered initial labels pool) {worker : Nat} {packet : ReadPacket}
    {jobQueue : List ReadPacket} (front : pool.jobQueue = packet :: jobQueue)
    (taken : pool.step (.popJob worker) = some { pool with
      workers := pool.workers.set worker (some { packet, work := .job packet.job }), jobQueue }) :
    Ordered initial (labels ++ [.popJob worker]) { pool with
      workers := pool.workers.set worker (some { packet, work := .job packet.job }), jobQueue } := by
  obtain ⟨below, rest⟩ := List.pairwise_cons.mp (front ▸ ordered.queue)
  have isQueued : packet ∈ pool.jobQueue := front ▸ List.mem_cons_self
  have stillQueued : ∀ later ∈ jobQueue, later ∈ pool.jobQueue :=
    fun later member => front ▸ List.mem_cons_of_mem _ member
  have during : ∀ other held, pool.Holds other held →
      TakenDuring initial (labels ++ [.popJob worker]) held packet :=
    fun other held holds => ⟨labels, worker, [], pool, rfl, ordered.runs, by simp [front], other, holds⟩
  refine ⟨ordered.runs.snoc taken, rest, ?_, ?_, ?_, ?_, ?_⟩
  · exact fun later member => ordered.queued later (stillQueued later member)
  · intro other takenUp
    cases takenUp with
    | held holds =>
        rcases holds_of_set holds with ⟨-, held, same, rfl⟩ | ⟨-, before⟩
        · cases same
          exact ⟨ordered.queued packet isQueued, below⟩
        · obtain ⟨known, under⟩ := ordered.takenUp other (.held before)
          exact ⟨known, fun later member => under later (stillQueued later member)⟩
    | pushed member =>
        obtain ⟨known, under⟩ := ordered.takenUp other (.pushed member)
        exact ⟨known, fun later member => under later (stillQueued later member)⟩
  · intro one other first second differ holds holdsOther
    rcases holds_of_set holds with ⟨rfl, held, same, rfl⟩ | ⟨-, before⟩
    · cases same
      rcases holds_of_set holdsOther with ⟨rfl, -⟩ | ⟨-, otherBefore⟩
      · exact absurd rfl differ
      · have above := (ordered.takenUp second (.held otherBefore)).2 packet isQueued
        exact ⟨Nat.ne_of_gt above, fun below => absurd below (Nat.lt_asymm above)⟩
    · rcases holds_of_set holdsOther with ⟨rfl, held, same, rfl⟩ | ⟨-, otherBefore⟩
      · cases same
        have above := (ordered.takenUp first (.held before)).2 packet isQueued
        exact ⟨Nat.ne_of_lt above, fun _ => during one first before⟩
      · exact (ordered.held one other first second differ before otherBefore).snoc _
  · intro other held entry holds member
    rcases holds_of_set holds with ⟨rfl, task, same, rfl⟩ | ⟨-, before⟩
    · cases same
      have above := (ordered.takenUp entry.1 (.pushed member)).2 packet isQueued
      exact ⟨Nat.ne_of_gt above, fun below => absurd below (Nat.lt_asymm above)⟩
    · exact (ordered.heldBehind other held entry before member).snoc _
  · exact ordered.pushed.imp fun behind => behind.snoc _

/-- A worker goes on with the packet it holds, or is done with it. -/
theorem goOn (ordered : Ordered initial labels pool) {worker : Nat} {packet : ReadPacket}
    {task : Option Task} (holds : pool.Holds worker packet)
    (same : ∀ other ∈ task, other.packet = packet)
    (taken : pool.step label = some { pool with workers := pool.workers.set worker task }) :
    Ordered initial (labels ++ [label]) { pool with workers := pool.workers.set worker task } := by
  have before : ∀ {other held}, Holds { pool with workers := pool.workers.set worker task } other held →
      pool.Holds other held := by
    intro other held after
    rcases holds_of_set after with ⟨rfl, item, member, rfl⟩ | ⟨-, earlier⟩
    · rw [same item member]
      exact holds
    · exact earlier
  refine ⟨ordered.runs.snoc taken, ordered.queue, ordered.queued, ?_, ?_, ?_, ?_⟩
  · intro other takenUp
    cases takenUp with
    | held after => exact ordered.takenUp other (.held (before after))
    | pushed member => exact ordered.takenUp other (.pushed member)
  · intro one other first second differ holdsFirst holdsSecond
    exact (ordered.held one other first second differ (before holdsFirst) (before holdsSecond)).snoc _
  · intro other held entry after member
    exact (ordered.heldBehind other held entry (before after) member).snoc _
  · exact ordered.pushed.imp fun behind => behind.snoc _

theorem pushGameCommand (ordered : Ordered initial labels pool) {worker : Nat}
    {packet : ReadPacket} {command : GameCommand} (holds : pool.Holds worker packet)
    (taken : pool.step label = some { pool with
      workers := pool.workers.set worker none, pushed := pool.pushed ++ [(packet, command)] }) :
    Ordered initial (labels ++ [label]) { pool with
      workers := pool.workers.set worker none, pushed := pool.pushed ++ [(packet, command)] } := by
  have before : ∀ {other held}, Holds { pool with workers := pool.workers.set worker none } other held →
      other ≠ worker ∧ pool.Holds other held := by
    intro other held after
    rcases holds_of_set after with ⟨-, item, member, -⟩ | earlier
    · cases member
    · exact earlier
  refine ⟨ordered.runs.snoc taken, ordered.queue, ordered.queued, ?_, ?_, ?_, ?_⟩
  · intro other takenUp
    cases takenUp with
    | held after => exact ordered.takenUp other (.held (before after).2)
    | pushed member =>
        rcases List.mem_append.mp member with earlier | last
        · exact ordered.takenUp other (.pushed earlier)
        · cases List.mem_singleton.mp last
          exact ordered.takenUp packet (.held holds)
  · intro one other first second differ holdsFirst holdsSecond
    exact (ordered.held one other first second differ (before holdsFirst).2
      (before holdsSecond).2).snoc _
  · intro other held entry after member
    obtain ⟨differ, holdsBefore⟩ := before after
    rcases List.mem_append.mp member with earlier | last
    · exact (ordered.heldBehind other held entry holdsBefore earlier).snoc _
    · cases List.mem_singleton.mp last
      exact (ordered.held other worker held packet differ holdsBefore holds).snoc _
  · rw [List.pairwise_append]
    refine ⟨ordered.pushed.imp fun behind => behind.snoc _, List.pairwise_singleton _ _, ?_⟩
    intro entry earlier last isLast
    cases List.mem_singleton.mp isLast
    exact (ordered.heldBehind worker packet entry holds earlier).snoc _

theorem step (ordered : Ordered initial labels pool) (taken : pool.step label = some after) :
    Ordered initial (labels ++ [label]) after := by
  rcases step_cases taken with ⟨session, packet, rfl, -⟩ |
    ⟨worker, packet, jobQueue, rfl, -, front, rfl⟩ | ⟨worker, old, task, holds, goesOn, rfl⟩ |
    ⟨worker, packet, command, holds, rfl⟩
  · exact ordered.receive taken
  · exact ordered.popJob front taken
  · exact ordered.goOn ⟨old.work, holds⟩ (fun other member => (goesOn other member).1) taken
  · exact ordered.pushGameCommand ⟨_, holds⟩ taken

theorem of_run {numThreads : Nat} (run : Runs (start numThreads) labels after) :
    Ordered (start numThreads) labels after := by
  have noTask : ∀ worker packet, ¬ (start numThreads).Holds worker packet := by
    rintro worker packet ⟨work, holds⟩
    simp [start, List.getElem?_replicate] at holds
  have initially : Ordered (start numThreads) [] (start numThreads) := by
    refine ⟨.nil, .nil, by simp [start], ?_, ?_, ?_, .nil⟩
    · intro packet takenUp
      cases takenUp with
      | held holds => exact absurd holds (noTask _ packet)
      | pushed member => cases member
    · exact fun worker _ first _ _ holds _ => absurd holds (noTask worker first)
    · exact fun worker packet _ holds _ => absurd holds (noTask worker packet)
  exact run.preserves_history (Ordered (start numThreads)) (fun ordered taken => ordered.step taken)
    initially

end Ordered

/-- Every packet is the one its number says, and what a worker has was made of it. -/
structure Traced (pool : WorkerPool) : Prop where
  queued : ∀ packet ∈ pool.jobQueue, pool.read[packet.number]? = some packet.job
  held : ∀ (worker : Nat) (task : Task), pool.workers[worker]? = some (some task) →
    pool.read[task.packet.number]? = some task.packet.job ∧ Made task.packet task.work
  pushed : ∀ entry ∈ pool.pushed, pool.read[entry.1.number]? = some entry.1.job ∧
    Made entry.1 (.pushGameCommand entry.2)

theorem task_of_set {workers : List (Option Task)} {worker other : Nat} {new : Option Task}
    {task : Task} (holds : (workers.set worker new)[other]? = some (some task)) :
    new = some task ∨ workers[other]? = some (some task) := by
  rw [List.getElem?_set] at holds
  split at holds
  · split at holds
    · exact .inl (Option.some.inj holds)
    · cases holds
  · exact .inr holds

theorem Traced.step {pool after : WorkerPool} {label : Label} (traced : Traced pool)
    (taken : pool.step label = some after) : Traced after := by
  rcases step_cases taken with ⟨session, packet, rfl, rfl⟩ |
    ⟨worker, packet, jobQueue, rfl, -, front, rfl⟩ | ⟨worker, old, task, holds, goesOn, rfl⟩ |
    ⟨worker, packet, command, holds, rfl⟩
  · have grows : ∀ {number : Nat} {job : Job}, pool.read[number]? = some job →
        (pool.read ++ [Job.mk session packet])[number]? = some job := by
      intro number job read
      rw [List.getElem?_append_left (List.getElem?_eq_some_iff.mp read).1]
      exact read
    refine ⟨?_, ?_, ?_⟩
    · intro queued member
      rcases List.mem_append.mp member with earlier | last
      · exact grows (traced.queued queued earlier)
      · rw [List.mem_singleton.mp last]
        simp
    · exact fun worker task holds => (traced.held worker task holds).imp_left grows
    · exact fun entry member => (traced.pushed entry member).imp_left grows
  · refine ⟨?_, ?_, traced.pushed⟩
    · exact fun queued member => traced.queued queued (front ▸ List.mem_cons_of_mem _ member)
    · intro other task holdsAfter
      rcases task_of_set holdsAfter with new | before
      · cases new
        exact ⟨traced.queued packet (front ▸ List.mem_cons_self), rfl⟩
      · exact traced.held other task before
  · refine ⟨traced.queued, ?_, traced.pushed⟩
    intro other held holdsAfter
    rcases task_of_set holdsAfter with new | before
    · obtain ⟨samePacket, made⟩ := goesOn held new
      obtain ⟨read, wasMade⟩ := traced.held worker old holds
      rw [samePacket]
      exact ⟨read, made wasMade⟩
    · exact traced.held other held before
  · refine ⟨traced.queued, ?_, ?_⟩
    · intro other task holdsAfter
      rcases task_of_set holdsAfter with new | before
      · cases new
      · exact traced.held other task before
    · intro entry member
      rcases List.mem_append.mp member with earlier | last
      · exact traced.pushed entry earlier
      · rw [List.mem_singleton.mp last]
        exact traced.held worker _ holds

theorem Traced.of_run {numThreads : Nat} {labels : List Label} {finish : WorkerPool}
    (run : Runs (start numThreads) labels finish) : Traced finish := by
  have initially : Traced (start numThreads) := by
    refine ⟨by simp [start], ?_, by simp [start]⟩
    intro worker task holds
    simp [start, List.getElem?_replicate] at holds
  exact run.preserves Traced (fun traced taken => traced.step taken) initially

theorem length_workers {numThreads : Nat} {labels : List Label} {finish : WorkerPool}
    (run : Runs (start numThreads) labels finish) : finish.workers.length = numThreads := by
  refine run.preserves (fun pool => pool.workers.length = numThreads) ?_ (by simp [start])
  intro before label after same taken
  rcases step_cases taken with ⟨_, _, _, rfl⟩ | ⟨_, _, _, _, _, _, rfl⟩ | ⟨_, _, _, _, _, rfl⟩ |
    ⟨_, _, _, _, rfl⟩
  · exact same
  all_goals simpa using same

/-- A single worker has nothing in hand when it takes a packet. -/
theorem not_takenDuring_of_single {numThreads : Nat} (single : numThreads ≤ 1)
    {labels : List Label} {finish : WorkerPool} (run : Runs (start numThreads) labels finish)
    (earlier later : ReadPacket) : ¬ TakenDuring (start numThreads) labels earlier later := by
  rintro ⟨front, worker, back, before, rfl, first, -, other, work, holds⟩
  obtain ⟨middle, after, again, taken, -⟩ := run.split_at
  obtain rfl := again.deterministic first
  have waits := waits_of_popJob taken
  have length := length_workers first
  obtain ⟨inRange, -⟩ := List.getElem?_eq_some_iff.mp waits
  obtain ⟨otherInRange, -⟩ := List.getElem?_eq_some_iff.mp holds
  obtain rfl : worker = other := by omega
  rw [waits] at holds
  cases holds

theorem pushedFrom_ordered {numThreads : Nat} {labels : List Label} {finish : WorkerPool}
    (run : Runs (start numThreads) labels finish) (session : SessionId) :
    (∀ entry ∈ finish.pushedFrom session, finish.read[entry.1.number]? = some entry.1.job ∧
        ∃ playerId endpointKnown,
          handleJob entry.1.job playerId endpointKnown = some (.pushGameCommand entry.2)) ∧
      ((finish.pushedFrom session).Pairwise fun first second =>
        first.1.number < second.1.number ∨
          TakenDuring (start numThreads) labels second.1 first.1) ∧
      (numThreads ≤ 1 → finish.InOrder session) := by
  have traced := Traced.of_run run
  have overall : (finish.pushedFrom session).Pairwise fun first second =>
      first.1.number < second.1.number ∨
        TakenDuring (start numThreads) labels second.1 first.1 := by
    refine ((Ordered.of_run run).pushed.sublist List.filter_sublist).imp ?_
    intro first second behind
    rcases Nat.lt_or_gt_of_ne behind.1 with overtaken | inOrder
    · exact .inr (behind.2 overtaken)
    · exact .inl inOrder
  refine ⟨?_, overall, fun single => overall.imp ?_⟩
  · exact fun entry member => traced.pushed entry (List.mem_filter.mp member).1
  · rintro first second (inOrder | during)
    · exact inOrder
    · exact absurd during (not_takenDuring_of_single single run _ _)

def inputPacket (sequenceNumber : UInt32) : UnifiedPacket :=
  { id := .cPlayerInput, data := some { castPlayerInput := { sequenceNumber } } }

def inputCommand (session : SessionId) (playerId : PlayerId) (sequenceNumber : UInt32) :
    GameCommand :=
  { payload := .playerInput { playerId, inputFlags := 0, sequenceNumber }
    senderSessionId := session }

/-- Two workers, each done with its packet before the other takes the next. -/
theorem pushedFrom_ordered_of_turns :
    ∃ labels finish, Runs (start 2) labels finish ∧
      (finish.pushedFrom 0).map (·.2) = [inputCommand 0 7 1, inputCommand 0 7 2] ∧
      (finish.pushedFrom 0).Pairwise fun first second => first.1.number < second.1.number ∨
        TakenDuring (start 2) labels second.1 first.1 := by
  obtain ⟨_, finish, ⟨⟩, run, pushed⟩ :=
    exists_run_of_execute step (some (start 2))
      [.receive 0 (inputPacket 1), .receive 0 (inputPacket 2), .popJob 0, .processJob 0 7 true,
        .handOn 0, .popJob 1, .processJob 1 7 true, .handOn 1]
      (fun finish => (finish.pushedFrom 0).map (·.2) = [inputCommand 0 7 1, inputCommand 0 7 2])
      (by decide +kernel)
  exact ⟨_, finish, run, pushed, (pushedFrom_ordered run 0).2.1⟩

/-- The second worker is faster than the first. -/
theorem inputs_overtake_each_other :
    ∃ labels finish, Runs (start 2) labels finish ∧
      finish.read = [⟨0, some (inputPacket 1)⟩, ⟨0, some (inputPacket 2)⟩] ∧
      (finish.pushedFrom 0).map (·.2) = [inputCommand 0 7 2, inputCommand 0 7 1] ∧
      ¬ finish.InOrder 0 := by
  obtain ⟨_, finish, ⟨⟩, run, read, pushed, outOfOrder⟩ :=
    exists_run_of_execute step (some (start 2))
      [.receive 0 (inputPacket 1), .receive 0 (inputPacket 2), .popJob 0, .popJob 1,
        .processJob 0 7 true, .processJob 1 7 true, .handOn 1, .handOn 0]
      (fun finish => finish.read = [⟨0, some (inputPacket 1)⟩, ⟨0, some (inputPacket 2)⟩] ∧
        (finish.pushedFrom 0).map (·.2) = [inputCommand 0 7 2, inputCommand 0 7 1] ∧
        ¬ finish.InOrder 0)
      (by decide +kernel)
  exact ⟨_, finish, run, read, pushed, outOfOrder⟩

/-! ## The workers of the server -/

def works (workers : List (Option Task)) : List Work := workers.filterMap (·.map (·.work))

structure Represents (pool : WorkerPool) (server : Server) : Prop where
  jobQueue : server.jobQueue = pool.jobQueue.map (·.job)
  working : server.working.Perm (works pool.workers)

theorem exists_worker_of_mem {workers : List (Option Task)} {work : Work}
    (member : work ∈ works workers) :
    ∃ (worker : Nat) (packet : ReadPacket), workers[worker]? = some (some { packet, work }) := by
  obtain ⟨task?, inWorkers, isTask⟩ := List.mem_filterMap.mp member
  obtain ⟨task, rfl, rfl⟩ := Option.map_eq_some_iff.mp isTask
  obtain ⟨worker, found⟩ := List.mem_iff_getElem?.mp inWorkers
  exact ⟨worker, task.packet, found⟩

theorem exists_free_worker {workers : List (Option Task)}
    (free : (works workers).length < workers.length) : ∃ worker : Nat, workers[worker]? = some none := by
  by_contra allBusy
  have busy : ∀ task? ∈ workers, task? ≠ none := by
    rintro task? member rfl
    exact allBusy (List.mem_iff_getElem?.mp member)
  have same : (works workers).length = workers.length := by
    clear free allBusy
    induction workers with
    | nil => rfl
    | cons first workers ih =>
        cases first with
        | none => exact absurd rfl (busy none List.mem_cons_self)
        | some task =>
            simpa [works] using ih fun task? member => busy task? (List.mem_cons_of_mem _ member)
  exact absurd same (Nat.ne_of_lt free)

/-- One worker's task is replaced. -/
theorem works_set {workers : List (Option Task)} {worker : Nat} {old : Option Task}
    (found : workers[worker]? = some old) (new : Option Task) :
    ∃ others, (works workers).Perm ((old.map (·.work)).toList ++ others) ∧
      (works (workers.set worker new)).Perm ((new.map (·.work)).toList ++ others) := by
  obtain ⟨inRange, rfl⟩ := List.getElem?_eq_some_iff.mp found
  have split : ∀ task? : Option Task, works (task? :: workers.eraseIdx worker) =
      (task?.map (·.work)).toList ++ works (workers.eraseIdx worker) := by
    intro task?
    cases task? <;> rfl
  refine ⟨works (workers.eraseIdx worker), ?_, ?_⟩
  · rw [← split]
    exact ((List.getElem_cons_eraseIdx_perm inRange).filterMap _).symm
  · rw [← split]
    exact (List.set_perm_cons_eraseIdx inRange new).filterMap _

end WorkerPool

namespace Server

/-- The server with a number of workers and first-in first-out queues. -/
def pooledStep (numThreads : Nat) (server : Server) (label : Label) : Option Server :=
  match label with
  | .popJob job =>
      if server.jobQueue.head? = some job ∧ server.working.length < numThreads then
        server.step label
      else none
  | _ => server.step label

def Label.read? : Label → Option Job
  | .receive session packet => some { session, packet }
  | _ => none

def Label.pushed? : Label → Option GameCommand
  | .pushGameCommand command => some command
  | _ => none

end Server

namespace WorkerPool

/-- A worker does one step with what it has, and the server's list of work follows. -/
theorem Represents.workerStep {pool : WorkerPool} {server : Server} (represents : Represents pool server)
    {worker : Nat} {packet : ReadPacket} {work : Work}
    (holds : pool.workers[worker]? = some (some { packet, work })) (task : Option Task)
    (pushed : List (ReadPacket × GameCommand)) {after : Server}
    (jobQueue : after.jobQueue = server.jobQueue)
    (working : after.working = (task.map (·.work)).toList ++ server.working.erase work) :
    Represents { pool with workers := pool.workers.set worker task, pushed } after := by
  obtain ⟨others, before, now⟩ := works_set holds task
  refine ⟨jobQueue.trans represents.jobQueue, ?_⟩
  have rest : (server.working.erase work).Perm others := by
    simpa using (represents.working.trans before).erase work
  rw [working]
  exact (rest.append_left _).trans now.symm

theorem takeUp_jobQueue (server : Server) (session : SessionId) (handling : Handling) :
    (server.takeUp session handling).jobQueue = server.jobQueue := by
  cases handling <;> rfl

theorem takeUp_working (server : Server) (session : SessionId) (handling : Handling) :
    (server.takeUp session handling).working =
      (handling.work? session).toList ++ server.working := by
  cases handling <;> rfl

/-- The pool takes every step of the server, and the packets read and the commands pushed
are the same. -/
theorem Represents.step {pool : WorkerPool} {server after : Server}
    (represents : Represents pool server) {label : Server.Label}
    (taken : server.pooledStep pool.workers.length label = some after) :
    ∃ labels next, Runs pool labels next ∧ Represents next after ∧
      next.read = pool.read ++ label.read?.toList ∧
      next.pushed.map (·.2) = pool.pushed.map (·.2) ++ label.pushed?.toList := by
  cases label with
  | receive session packet =>
      obtain ⟨-, rfl⟩ := Server.step_eq_some_iff.mp taken
      refine ⟨[.receive session packet], _, .cons rfl .nil, ⟨?_, represents.working⟩, rfl, by simp [Server.Label.pushed?]⟩
      simp [Server.effect, represents.jobQueue]
  | popJob job =>
      simp only [Server.pooledStep] at taken
      split at taken
      · next front =>
          obtain ⟨isFront, free⟩ := front
          obtain ⟨-, rfl⟩ := Server.step_eq_some_iff.mp taken
          rw [represents.jobQueue, List.head?_map] at isFront
          obtain ⟨packet, first, rfl⟩ := Option.map_eq_some_iff.mp isFront
          obtain ⟨jobQueue, split⟩ := List.head?_eq_some_iff.mp first
          obtain ⟨worker, waits⟩ := exists_free_worker (represents.working.length_eq ▸ free)
          have stepped : pool.step (.popJob worker) = some { pool with
              workers := pool.workers.set worker (some { packet, work := .job packet.job }), jobQueue } := by
            simp only [WorkerPool.step, waits, split]
          obtain ⟨others, before, now⟩ :=
            works_set waits (some { packet, work := .job packet.job })
          refine ⟨[.popJob worker], _, .cons stepped .nil, ⟨?_, ?_⟩, by simp [Server.Label.read?],
            by simp [Server.Label.pushed?]⟩
          · simp [Server.effect, represents.jobQueue, split]
          · exact ((represents.working.trans before).cons _).trans now.symm
      · cases taken
  | processJob job endpointKnown =>
      obtain ⟨⟨inHand, -, handles⟩, rfl⟩ := Server.step_eq_some_iff.mp taken
      obtain ⟨handling, handled⟩ := Option.isSome_iff_exists.mp handles
      obtain ⟨worker, packet, holds⟩ :=
        exists_worker_of_mem (represents.working.mem_iff.mp inHand)
      have stepped : pool.step (.processJob worker (server.sessions job.session).playerId
          endpointKnown) = some { pool with
            workers := pool.workers.set worker
              ((handling.work? job.session).map ({ packet, work := · })) } := by
        simp only [WorkerPool.step, holds, handled, Option.map_some]
      refine ⟨[.processJob worker (server.sessions job.session).playerId endpointKnown], _,
        .cons stepped .nil, ?_, by simp [Server.Label.read?], by simp [Server.Label.pushed?]⟩
      simp only [Server.effect, handled]
      refine represents.workerStep holds _ _ (takeUp_jobQueue _ _ handling) ?_
      rw [takeUp_working, Option.map_map]
      simp [Function.comp_def]
  | pushGameCommand command =>
      obtain ⟨inHand, rfl⟩ := Server.step_eq_some_iff.mp taken
      obtain ⟨worker, packet, holds⟩ :=
        exists_worker_of_mem (represents.working.mem_iff.mp inHand)
      have stepped : pool.step (.handOn worker) = some { pool with
          workers := pool.workers.set worker none
          pushed := pool.pushed ++ [(packet, command)] } := by
        simp only [WorkerPool.step, holds]
      exact ⟨[.handOn worker], _, .cons stepped .nil, represents.workerStep holds none _ rfl rfl,
        by simp [Server.Label.read?], by simp [Server.Label.pushed?]⟩
  | publish session playerId message | sendLoginFailure session =>
      obtain ⟨inHand, rfl⟩ := Server.step_eq_some_iff.mp taken
      obtain ⟨worker, packet, holds⟩ :=
        exists_worker_of_mem (represents.working.mem_iff.mp inHand)
      have stepped : pool.step (.handOn worker) = some { pool with
          workers := pool.workers.set worker none } := by
        simp only [WorkerPool.step, holds]
      exact ⟨[.handOn worker], _, .cons stepped .nil, represents.workerStep holds none _ rfl rfl,
        by simp [Server.Label.read?], by simp [Server.Label.pushed?]⟩
  | checkConnected | setPlayerId | removeSession | getPlayerId | isConnected | send =>
      obtain ⟨-, rfl⟩ := Server.step_eq_some_iff.mp taken
      refine ⟨[], pool, .nil, ?_, by simp [Server.Label.read?], by simp [Server.Label.pushed?]⟩
      simp only [Server.effect]
      split <;> exact ⟨represents.jobQueue, represents.working⟩
  | _ =>
      obtain ⟨-, rfl⟩ := Server.step_eq_some_iff.mp taken
      exact ⟨[], pool, .nil, ⟨represents.jobQueue, represents.working⟩, by simp [Server.Label.read?],
        by simp [Server.Label.pushed?]⟩

/-- The pool can read the packets and push the commands that the labels say. -/
def Mirrors (numThreads : Nat) (labels : List Server.Label) (server : Server) : Prop :=
  ∃ poolLabels pool, Runs (start numThreads) poolLabels pool ∧ Represents pool server ∧
    pool.read = labels.filterMap (·.read?) ∧ pool.pushed.map (·.2) = labels.filterMap (·.pushed?)

theorem mirrors_of_run {numThreads : Nat} {config : GameConfig} {first finish : Server}
    {labels : List Server.Label} (created : Server.create? config = some first)
    (run : Run (Taken (Server.pooledStep numThreads)) first labels finish) :
    Mirrors numThreads labels finish := by
  have initially : Mirrors numThreads [] first := by
    obtain ⟨manager, -, rfl⟩ := Option.map_eq_some_iff.mp created
    exact ⟨[], start numThreads, .nil, ⟨rfl, by simp [works, start]⟩, rfl, rfl⟩
  refine run.preserves_history (Mirrors numThreads) ?_ initially
  rintro past before label after ⟨poolLabels, pool, ran, represents, read, pushed⟩ taken
  rw [← length_workers ran] at taken
  obtain ⟨more, next, goesOn, representsNext, readNext, pushedNext⟩ := represents.step taken
  refine ⟨poolLabels ++ more, next, ran.append goesOn, representsNext, ?_, ?_⟩
  · rw [readNext, read, List.filterMap_append]
    cases label <;> rfl
  · rw [pushedNext, pushed, List.filterMap_append]
    cases label <;> rfl

end WorkerPool

end CppMMO
