import CppMMO.Game.Managers.TimedGameLoopProperties

/-! How the ticks keep pace with the clock, with and without exceptions.

A tick is complete when its batches are flushed; only then the time of the last tick moves.
How many ticks there are does not depend on how slices are rounded. How far the simulation
lags behind is stated for slices that are not rounded at all. -/

set_option autoImplicit false

namespace CppMMO.Game.Managers

open CppMMO.Lib CppMMO.Protocol CppMMO.Game.Models

def Event.isStage : Event → Bool
  | .updateWorld _ | .sendWorldSnapshots _ | .flushAllBatches _ => true
  | .processGameCommand _ _ _ _ _ _ | .rehash _ _ => false

namespace GameLoop

namespace Label

def completes : Label → Bool
  | stage (.flushAllBatches _) => true
  | _ => false

end Label

def completedTicks (labels : List Label) : Nat := labels.countP Label.completes

def worldUpdates (labels : List Label) : Nat := labels.countP Label.updates

def exceptions (labels : List Label) : Nat := labels.countP Label.isThrow

def ticksOf (label : Label) : Nat := if label.completes then 1 else 0

def inHand : Phase → Nat
  | .sendWorldSnapshots _ | .flushAllBatches _ => 1
  | .sleeping | .processPendingCommands _ => 0

variable {toFloat : ℚ → ℚ}

/-- A tick that has begun was due. -/
def Due (loop : GameLoop) : Prop :=
  ∀ currentTime ∈ Phase.reading? loop.phase,
    loop.tickDuration ≤ Player.millisBetween loop.lastTickTime currentTime

theorem due_now {loop after : GameLoop} {currentTime : TimePoint}
    (taken : loop.step toFloat (.now currentTime) = some after) : Due after := by
  simp only [step] at taken
  split at taken
  · split at taken
    · cases taken
      intro reading isReading
      split at isReading
      · next due =>
          cases isReading
          exact due
      · cases isReading
    · cases taken
  · cases taken
  · cases taken
  · cases taken

theorem Due.step {loop after : GameLoop} {label : Label} (due : Due loop)
    (taken : loop.step toFloat label = some after) : Due after := by
  cases step_outcome taken with
  | waits | due => exact due_now taken
  | kept => exact due
  | updateWorld phase =>
      intro reading isReading
      cases isReading
      exact due _ (by rw [phase]; rfl)
  | sendWorldSnapshots serverTime phase =>
      intro reading isReading
      cases isReading
      exact due _ (by rw [phase]; rfl)
  | flushAllBatches | throws =>
      intro reading isReading
      cases isReading

theorem tickDuration_step {loop after : GameLoop} {label : Label}
    (taken : loop.step toFloat label = some after) : after.tickDuration = loop.tickDuration := by
  cases step_outcome taken with
  | _ => rfl

theorem phase_changes {loop after : GameLoop} {event : Event}
    (taken : loop.step toFloat (.stage event) = some after) (isStage : event.isStage = true) :
    after.phase ≠ loop.phase := by
  simp only [step] at taken
  split at taken
  · obtain ⟨next, advanced, rfl⟩ := Option.map_eq_some_iff.mp taken
    cases event with
    | processGameCommand | rehash => cases isStage
    | updateWorld deltaTime =>
        cases phase : loop.phase with
        | processPendingCommands currentTime =>
            simp only [advance?, phase] at advanced
            split at advanced
            · cases advanced
              exact fun same => by cases same
            · cases advanced
        | _ => simp [advance?, phase] at advanced
    | sendWorldSnapshots serverTime =>
        cases phase : loop.phase with
        | sendWorldSnapshots currentTime =>
            simp only [advance?, phase] at advanced
            cases advanced
            exact fun same => by cases same
        | _ => simp [advance?, phase] at advanced
    | flushAllBatches delivered =>
        cases phase : loop.phase with
        | flushAllBatches currentTime =>
            simp only [advance?, phase] at advanced
            cases advanced
            exact fun same => by cases same
        | _ => simp [advance?, phase] at advanced
  · cases taken

theorem throws_inHand {loop after : GameLoop} {tickNumber : Nat}
    {playerBatches : UnorderedMap PlayerId (List ServerPacket)} {aoiCache : UnorderedMap PlayerId AOICache}
    (taken : loop.step toFloat (.throws tickNumber playerBatches aoiCache) = some after) :
    inHand loop.phase = 1 := by
  cases phase : loop.phase with
  | sleeping | processPendingCommands => simp [step, phase] at taken
  | sendWorldSnapshots | flushAllBatches => rfl

/-- A tick advances the time of the last tick by its duration at least. -/
theorem lastTickTime_step {loop after : GameLoop} {label : Label} (ordered : Ordered loop)
    (due : Due loop) (taken : loop.step toFloat label = some after) :
    (ticksOf label : Int) * (1000000 * loop.tickDuration) ≤ after.lastTickTime - loop.lastTickTime := by
  cases step_outcome taken with
  | @flushAllBatches currentTime delivered phase =>
      have isReading : currentTime ∈ Phase.reading? loop.phase := by rw [phase]; rfl
      have enough := due currentTime isReading
      have truncated : 1000000 * (currentTime - loop.lastTickTime).tdiv 1000000 ≤
          currentTime - loop.lastTickTime :=
        Int.mul_tdiv_self_le (Int.sub_nonneg.mpr (ordered.reading currentTime isReading).1)
      simp only [ticksOf, Label.completes, if_true, Player.millisBetween] at enough ⊢
      push_cast
      linarith
  | @kept event valid still =>
      cases event with
      | flushAllBatches =>
          have changes := phase_changes taken rfl
          exact absurd rfl changes
      | _ => simp [ticksOf, Label.completes]
  | _ => simp [ticksOf, Label.completes]

/-- Every slice is of a completed tick, of the one in hand, or was lost to an exception. -/
theorem inHand_step {loop after : GameLoop} {label : Label} (taken : loop.step toFloat label = some after) :
    inHand loop.phase + (if label.updates then 1 else 0) =
      inHand after.phase + ticksOf label + if label.isThrow then 1 else 0 := by
  cases step_outcome taken with
  | waits sleeping | due sleeping =>
      simp [sleeping, inHand, ticksOf, Label.updates, Label.completes, Label.isThrow]
  | @kept event valid still =>
      cases event with
      | flushAllBatches =>
          have changes := phase_changes taken rfl
          exact absurd rfl changes
      | updateWorld =>
          have changes := phase_changes taken rfl
          exact absurd rfl changes
      | _ => simp [ticksOf, Label.updates, Label.completes, Label.isThrow]
  | updateWorld phase | sendWorldSnapshots serverTime phase | flushAllBatches delivered phase =>
      simp [phase, inHand, ticksOf, Label.updates, Label.completes, Label.isThrow]
  | throws =>
      rw [throws_inHand taken]
      simp [inHand, ticksOf, Label.updates, Label.completes, Label.isThrow]

/-! ## Slices that are not rounded -/

/-- A slice takes all of the time since the last tick but what is less than a millisecond. -/
theorem le_deltaSeconds (loop : GameLoop) (currentTime : TimePoint) :
    secondsBetween loop.lastTickTime currentTime ≤ loop.deltaSeconds id currentTime + 1 / 1000 := by
  have truncated : currentTime - loop.lastTickTime ≤
      1000000 * (currentTime - loop.lastTickTime).tdiv 1000000 + 1000000 := by
    have remainder := Int.mul_tdiv_add_tmod (currentTime - loop.lastTickTime) 1000000
    have small := Int.tmod_lt_of_pos (currentTime - loop.lastTickTime) (by norm_num : (0 : Int) < 1000000)
    linarith
  have cast : ((currentTime - loop.lastTickTime : Int) : ℚ) ≤
      1000000 * (((currentTime - loop.lastTickTime).tdiv 1000000 : Int) : ℚ) + 1000000 := by
    exact_mod_cast truncated
  simp only [deltaSeconds, id_eq, secondsBetween, Player.millisBetween]
  linarith

theorem deltaSeconds_nonneg (loop : GameLoop) {currentTime : TimePoint}
    (ordered : loop.lastTickTime ≤ currentTime) : 0 ≤ loop.deltaSeconds id currentTime := by
  have forward : 0 ≤ (currentTime - loop.lastTickTime).tdiv 1000000 :=
    Int.tdiv_nonneg (Int.sub_nonneg.mpr ordered) (by norm_num)
  have cast : (0 : ℚ) ≤ (((currentTime - loop.lastTickTime).tdiv 1000000 : Int) : ℚ) := by
    exact_mod_cast forward
  exact div_nonneg cast (by norm_num)

/-- A slice that `UpdateWorld` was given and that `lastTickTime` does not cover yet. -/
def unacknowledged (loop : GameLoop) : ℚ :=
  match loop.phase with
  | .sendWorldSnapshots currentTime | .flushAllBatches currentTime =>
      loop.deltaSeconds id currentTime
  | .sleeping | .processPendingCommands _ => 0

theorem unacknowledged_nonneg {loop : GameLoop} (ordered : Ordered loop) : 0 ≤ loop.unacknowledged := by
  have readings := ordered.reading
  unfold unacknowledged
  cases phase : loop.phase with
  | sleeping | processPendingCommands => exact le_refl _
  | sendWorldSnapshots currentTime | flushAllBatches currentTime =>
      rw [phase] at readings
      exact loop.deltaSeconds_nonneg (readings currentTime rfl).1

/-- How much simulated time the loop has to show for itself: up to the last tick, and the
slice in hand. -/
def accounted (origin : TimePoint) (loop : GameLoop) : ℚ :=
  secondsBetween origin loop.lastTickTime + loop.unacknowledged

/-- Also with an exception no time is accounted for that was not simulated, but for the millisecond
that a tick may lose. -/
theorem accounted_step_le {loop after : GameLoop} {label : Label} (ordered : Ordered loop)
    (taken : loop.step id label = some after) (origin : TimePoint) :
    accounted origin after ≤ accounted origin loop + label.deltaTime + ticksOf label / 1000 := by
  have positive := unacknowledged_nonneg ordered
  unfold accounted
  cases step_outcome taken with
  | waits sleeping | due sleeping =>
      simp [unacknowledged, sleeping, Label.deltaTime, ticksOf, Label.completes]
  | @kept event valid still =>
      rw [Label.deltaTime, still, add_zero]
      exact le_add_of_nonneg_right (by positivity)
  | updateWorld phase =>
      simp only [unacknowledged, phase, Label.deltaTime, Event.deltaTime, ticksOf, Label.completes]
      norm_num
      rfl
  | sendWorldSnapshots serverTime phase =>
      simp only [unacknowledged, phase, Label.deltaTime, Event.deltaTime, ticksOf, Label.completes]
      norm_num
      rfl
  | @flushAllBatches currentTime delivered phase =>
      have slice := loop.le_deltaSeconds currentTime
      simp only [unacknowledged, phase, Label.deltaTime, Event.deltaTime, ticksOf, Label.completes]
      rw [← secondsBetween_add origin loop.lastTickTime currentTime]
      norm_num
      linarith
  | throws =>
      simp only [Label.deltaTime, ticksOf, Label.completes]
      change _ + (0 : ℚ) ≤ _
      norm_num
      exact positive

/-! ## Runs -/

/-- What the ticks of a stretch of time amount to. -/
structure Paced (first : GameLoop) (labels : List Label) (last : GameLoop) : Prop where
  /-- There are no more ticks than the tick duration allows. -/
  rate : (completedTicks labels : Int) * (1000000 * first.tickDuration) ≤
    last.lastTickTime - first.lastTickTime
  /-- The simulation falls behind the clock by a millisecond a tick at most. -/
  lag : secondsBetween first.lastTickTime last.lastTickTime ≤
    simulatedSeconds labels + first.unacknowledged + completedTicks labels / 1000
  /-- So it runs at no less than this share of real time. -/
  share : 0 < first.tickDuration → first.phase = .sleeping →
    secondsBetween first.lastTickTime last.lastTickTime * (1 - 1 / first.tickDuration) ≤
      simulatedSeconds labels
  /-- Every time slice is of a completed tick, of the one in hand, or was lost to an exception. -/
  slices : inHand first.phase + worldUpdates labels =
    inHand last.phase + completedTicks labels + exceptions labels

/-- What a stretch of time amounts to so far, with what the next step needs. -/
structure PacedSoFar (first : GameLoop) (labels : List Label) (loop : GameLoop) : Prop where
  ordered : Ordered loop
  due : Due loop
  duration : loop.tickDuration = first.tickDuration
  rate : (completedTicks labels : Int) * (1000000 * first.tickDuration) ≤
    loop.lastTickTime - first.lastTickTime
  lag : accounted first.lastTickTime loop ≤
    accounted first.lastTickTime first + simulatedSeconds labels + completedTicks labels / 1000
  slices : inHand first.phase + worldUpdates labels =
    inHand loop.phase + completedTicks labels + exceptions labels

theorem completedTicks_snoc (labels : List Label) (label : Label) :
    completedTicks (labels ++ [label]) = completedTicks labels + ticksOf label := by
  simp [completedTicks, ticksOf, List.countP_append, List.countP_singleton]

theorem simulatedSeconds_snoc (labels : List Label) (label : Label) :
    simulatedSeconds (labels ++ [label]) = simulatedSeconds labels + label.deltaTime := by
  simp [simulatedSeconds]

theorem PacedSoFar.step {first loop after : GameLoop} {labels : List Label} {label : Label}
    (paced : PacedSoFar first labels loop) (taken : loop.step id label = some after) :
    PacedSoFar first (labels ++ [label]) after where
  ordered := paced.ordered.step taken
  due := paced.due.step taken
  duration := (tickDuration_step taken).trans paced.duration
  rate := by
    have here := lastTickTime_step paced.ordered paced.due taken
    have before := paced.rate
    rw [paced.duration] at here
    rw [completedTicks_snoc]
    push_cast
    rw [add_mul]
    linarith
  lag := by
    have here := accounted_step_le paced.ordered taken first.lastTickTime
    have before := paced.lag
    rw [completedTicks_snoc, simulatedSeconds_snoc]
    push_cast
    rw [add_div]
    linarith
  slices := by
    have here := inHand_step taken
    have before := paced.slices
    rw [completedTicks_snoc]
    simp only [worldUpdates, exceptions, List.countP_append, List.countP_singleton] at before ⊢
    omega

theorem reached_start {tickDuration : Int} {manager : GameManager} {now : TimePoint}
    {labels : List Label} {loop : GameLoop} (run : Runs id (start tickDuration manager now) labels loop) :
    Ordered loop ∧ Due loop := by
  refine run.preserves (fun loop => Ordered loop ∧ Due loop) ?_
    ⟨ordered_start tickDuration manager now, fun _ isReading => by cases isReading⟩
  intro before label after ⟨ordered, due⟩ taken
  exact ⟨ordered.step taken, due.step taken⟩

theorem ticks_keep_pace {tickDuration : Int} {manager : GameManager} {now : TimePoint}
    {past labels : List Label} {first last : GameLoop}
    (reached : Runs id (start tickDuration manager now) past first) (run : Runs id first labels last) :
    Paced first labels last := by
  obtain ⟨orderedFirst, dueFirst⟩ := reached_start reached
  have nothingYet : PacedSoFar first [] first := by
    refine ⟨orderedFirst, dueFirst, rfl, by simp [completedTicks], ?_, rfl⟩
    simp [completedTicks, simulatedSeconds]
  have paced : PacedSoFar first ([] ++ labels) last :=
    run.preserves_history (PacedSoFar first) PacedSoFar.step nothingYet
  rw [List.nil_append] at paced
  have lag : secondsBetween first.lastTickTime last.lastTickTime ≤
      simulatedSeconds labels + first.unacknowledged + completedTicks labels / 1000 := by
    have total := paced.lag
    have positive := unacknowledged_nonneg paced.ordered
    have nothing : secondsBetween first.lastTickTime first.lastTickTime = 0 := by
      simp [secondsBetween]
    rw [accounted, accounted, nothing] at total
    linarith
  refine ⟨paced.rate, lag, ?_, paced.slices⟩
  intro positive sleeping
  have inPlace : first.unacknowledged = 0 := by rw [unacknowledged, sleeping]
  rw [inPlace, add_zero] at lag
  have duration : (0 : ℚ) < first.tickDuration := by exact_mod_cast positive
  -- at the given rate, a millisecond a tick is this share of the time
  have rate : (completedTicks labels : ℚ) * (1000000 * first.tickDuration) ≤
      ((last.lastTickTime - first.lastTickTime : Int) : ℚ) := by exact_mod_cast paced.rate
  have lost : (completedTicks labels : ℚ) / 1000 ≤
      secondsBetween first.lastTickTime last.lastTickTime / first.tickDuration := by
    rw [le_div_iff₀ duration, secondsBetween]
    linarith
  calc
    secondsBetween first.lastTickTime last.lastTickTime * (1 - 1 / first.tickDuration)
        = secondsBetween first.lastTickTime last.lastTickTime -
            secondsBetween first.lastTickTime last.lastTickTime / first.tickDuration := by ring
    _ ≤ secondsBetween first.lastTickTime last.lastTickTime - completedTicks labels / 1000 := by
        linarith
    _ ≤ simulatedSeconds labels := by linarith

/-- A tick, and one that an exception repeats. -/
def repeatedTick : List Label :=
  [.now 40500000, .stage (.updateWorld (40 / 1000)), .stage (.sendWorldSnapshots 40),
    .stage (.flushAllBatches []), .now 80000000, .stage (.updateWorld (39 / 1000)),
    .throws 2 .empty .empty, .now 81500000, .stage (.updateWorld (41 / 1000)),
    .stage (.sendWorldSnapshots 81), .stage (.flushAllBatches [])]

theorem ticks_keep_pace_of_repeated_tick :
    ∃ (manager : GameManager) (first last : GameLoop),
      Runs id (start 33 manager 0) [.now 12000000] first ∧ Runs id first repeatedTick last ∧
      last.lastTickTime = 81500000 ∧ simulatedSeconds repeatedTick = 120 / 1000 ∧
      Paced first repeatedTick last := by
  obtain ⟨start, last, created, run, lastTick⟩ := exists_run_of_execute (step id)
    ((GameManager.create? {}).map (GameLoop.start 33 · 0)) ([.now 12000000] ++ repeatedTick)
    (fun last => last.lastTickTime = 81500000) (by decide +kernel)
  obtain ⟨manager, -, rfl⟩ := Option.map_eq_some_iff.mp created
  obtain ⟨first, reached, rest⟩ := run.split
  exact ⟨manager, first, last, reached, rest, lastTick, by decide +kernel,
    ticks_keep_pace reached rest⟩

end GameLoop

end CppMMO.Game.Managers
