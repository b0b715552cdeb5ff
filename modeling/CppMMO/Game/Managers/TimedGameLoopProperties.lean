import CppMMO.Game.Managers.MovementProperties
import CppMMO.Game.Managers.TimedGameLoop

/-! Simulated time against the clock. -/

set_option autoImplicit false

namespace CppMMO.Game.Managers

open CppMMO.Lib CppMMO.Protocol CppMMO.Game.Models

/-- Seconds between two clock readings. -/
def secondsBetween (earlier later : TimePoint) : ℚ := ((later - earlier : Int) : ℚ) / 1000000000

theorem secondsBetween_add (first second third : TimePoint) :
    secondsBetween first second + secondsBetween second third = secondsBetween first third := by
  simp only [secondsBetween, Int.cast_sub]
  ring

theorem secondsBetween_nonneg {earlier later : TimePoint} (ordered : earlier ≤ later) :
    0 ≤ secondsBetween earlier later := by
  have forward : (0 : ℚ) ≤ ((later - earlier : Int) : ℚ) := by exact_mod_cast Int.sub_nonneg.mpr ordered
  exact div_nonneg forward (by norm_num)

namespace GameLoop

variable {toFloat : ℚ → ℚ}

/-- Everything the loop can do in one step. -/
inductive StepOutcome (toFloat : ℚ → ℚ) (loop : GameLoop) : Label → GameLoop → Prop where
  | waits {currentTime : TimePoint} (sleeping : loop.phase = .sleeping)
      (ordered : loop.clock ≤ currentTime) :
      StepOutcome toFloat loop (.now currentTime)
        { loop with clock := currentTime, phase := .sleeping }
  | due {currentTime : TimePoint} (sleeping : loop.phase = .sleeping)
      (ordered : loop.clock ≤ currentTime) :
      StepOutcome toFloat loop (.now currentTime)
        { loop with clock := currentTime, phase := .processPendingCommands currentTime }
  | kept {event : Event} (valid : loop.manager.Valid event) (still : event.deltaTime = 0) :
      StepOutcome toFloat loop (.stage event) { loop with manager := (loop.manager.step event).1 }
  | updateWorld {currentTime : TimePoint} (phase : loop.phase = .processPendingCommands currentTime)
      (valid : loop.manager.Valid (.updateWorld (loop.deltaSeconds toFloat currentTime))) :
      StepOutcome toFloat loop (.stage (.updateWorld (loop.deltaSeconds toFloat currentTime))) {
        loop with
        manager := (loop.manager.step (.updateWorld (loop.deltaSeconds toFloat currentTime))).1
        phase := .sendWorldSnapshots currentTime }
  | sendWorldSnapshots {currentTime : TimePoint} (serverTime : Nat)
      (phase : loop.phase = .sendWorldSnapshots currentTime) :
      StepOutcome toFloat loop (.stage (.sendWorldSnapshots serverTime)) { loop with
        manager := (loop.manager.step (.sendWorldSnapshots serverTime)).1
        phase := .flushAllBatches currentTime }
  | flushAllBatches {currentTime : TimePoint} (delivered : List Bool)
      (phase : loop.phase = .flushAllBatches currentTime) :
      StepOutcome toFloat loop (.stage (.flushAllBatches delivered)) { loop with
        manager := (loop.manager.step (.flushAllBatches delivered)).1
        phase := .sleeping, lastTickTime := currentTime }
  | throws (tickNumber : Nat) (playerBatches : UnorderedMap PlayerId (List ServerPacket))
      (aoiCache : UnorderedMap PlayerId AOICache) :
      StepOutcome toFloat loop (.throws tickNumber playerBatches aoiCache) { loop with
        manager := { loop.manager with tickNumber, playerBatches, aoiCache }
        phase := .sleeping }

theorem stage_outcome {loop after : GameLoop} {event : Event}
    (valid : loop.manager.Valid event)
    (taken : (loop.advance? toFloat event).map ({ · with manager := (loop.manager.step event).1 }) =
      some after) : StepOutcome toFloat loop (.stage event) after := by
  obtain ⟨next, advanced, rfl⟩ := Option.map_eq_some_iff.mp taken
  cases event with
  | processGameCommand =>
      simp only [advance?] at advanced
      split at advanced
      · cases advanced
        exact .kept valid rfl
      · cases advanced
      · cases advanced
      · cases advanced
  | updateWorld deltaTime =>
      simp only [advance?] at advanced
      split at advanced
      · next currentTime phase =>
          split at advanced
          · next slice =>
              cases advanced
              subst slice
              exact .updateWorld phase valid
          · cases advanced
      · cases advanced
      · cases advanced
      · cases advanced
  | sendWorldSnapshots serverTime =>
      simp only [advance?] at advanced
      split at advanced
      · next phase =>
          cases advanced
          exact .sendWorldSnapshots serverTime phase
      · cases advanced
      · cases advanced
      · cases advanced
  | flushAllBatches delivered =>
      simp only [advance?] at advanced
      split at advanced
      · next phase =>
          cases advanced
          exact .flushAllBatches delivered phase
      · cases advanced
      · cases advanced
      · cases advanced
  | rehash =>
      cases advanced
      exact .kept valid rfl

theorem step_outcome {loop after : GameLoop} {label : Label}
    (taken : loop.step toFloat label = some after) : StepOutcome toFloat loop label after := by
  cases label with
  | now currentTime =>
      simp only [step] at taken
      split at taken
      · next sleeping =>
          split at taken
          · next ordered =>
              cases taken
              split
              · exact .due sleeping ordered
              · exact .waits sleeping ordered
          · cases taken
      · cases taken
      · cases taken
      · cases taken
  | stage event =>
      simp only [step] at taken
      split at taken
      · next valid => exact stage_outcome valid taken
      · cases taken
  | throws tickNumber playerBatches aoiCache =>
      simp only [step] at taken
      split at taken
      · cases taken
        exact .throws tickNumber playerBatches aoiCache
      · cases taken
        exact .throws tickNumber playerBatches aoiCache
      · cases taken
      · cases taken

/-! ## Slices -/

namespace Label

def deltaTime : Label → ℚ
  | stage event => event.deltaTime
  | now _ | throws _ _ _ => 0

def updates : Label → Bool
  | stage (.updateWorld _) => true
  | _ => false

end Label

/-- The sum of the slices that completed `UpdateWorld` calls were given. -/
def simulatedSeconds (labels : List Label) : ℚ := (labels.map (·.deltaTime)).sum

def Phase.reading? : Phase → Option TimePoint
  | .sleeping => none
  | .processPendingCommands currentTime | .sendWorldSnapshots currentTime
  | .flushAllBatches currentTime => some currentTime

/-- The loop's own time points come from the clock, in order. -/
structure Ordered (loop : GameLoop) : Prop where
  last_le : loop.lastTickTime ≤ loop.clock
  reading : ∀ currentTime ∈ Phase.reading? loop.phase,
    loop.lastTickTime ≤ currentTime ∧ currentTime ≤ loop.clock

theorem Ordered.step {loop after : GameLoop} {label : Label} (ordered : Ordered loop)
    (taken : loop.step toFloat label = some after) : Ordered after := by
  have readings := ordered.reading
  cases step_outcome taken with
  | waits sleeping later =>
      exact ⟨ordered.last_le.trans later, fun currentTime isReading => by cases isReading⟩
  | due sleeping later =>
      refine ⟨ordered.last_le.trans later, fun currentTime isReading => ?_⟩
      cases isReading
      exact ⟨ordered.last_le.trans later, le_rfl⟩
  | kept valid still => exact ⟨ordered.last_le, readings⟩
  | updateWorld phase valid =>
      rw [phase] at readings
      exact ⟨ordered.last_le, readings⟩
  | sendWorldSnapshots serverTime phase =>
      rw [phase] at readings
      exact ⟨ordered.last_le, readings⟩
  | flushAllBatches delivered phase =>
      rw [phase] at readings
      exact ⟨(readings _ rfl).2, fun currentTime isReading => by cases isReading⟩
  | throws => exact ⟨ordered.last_le, fun currentTime isReading => by cases isReading⟩

/-- No exception leaves a tick, and the slice that `UpdateWorld` is given does not exceed the time
since the last tick. -/
def KeepsTime (toFloat : ℚ → ℚ) (loop : GameLoop) (label : Label) : Prop :=
  label.isThrow = false ∧ (label.updates = true → ∀ currentTime ∈ Phase.reading? loop.phase,
    loop.deltaSeconds toFloat currentTime ≤ secondsBetween loop.lastTickTime currentTime)

instance (loop : GameLoop) (label : Label) : Decidable (loop.KeepsTime toFloat label) :=
  inferInstanceAs (Decidable (_ ∧ _))

def keepingStep (toFloat : ℚ → ℚ) (loop : GameLoop) (label : Label) : Option GameLoop :=
  if loop.KeepsTime toFloat label then loop.step toFloat label else none

theorem keepingStep_eq_some_iff {loop after : GameLoop} {label : Label} :
    loop.keepingStep toFloat label = some after ↔
      loop.KeepsTime toFloat label ∧ loop.step toFloat label = some after :=
  Option.ite_none_right_eq_some

/-- The time up to which slices were given: that of the last tick, or of the one in hand. -/
def simulatedUntil (loop : GameLoop) : TimePoint :=
  match loop.phase with
  | .sendWorldSnapshots currentTime | .flushAllBatches currentTime => currentTime
  | .sleeping | .processPendingCommands _ => loop.lastTickTime

/-- No slice is counted that the time does not move on by. -/
theorem simulatedUntil_step {loop after : GameLoop} {label : Label}
    (taken : loop.step toFloat label = some after) (keeps : loop.KeepsTime toFloat label)
    (origin : TimePoint) :
    secondsBetween origin loop.simulatedUntil + label.deltaTime ≤
      secondsBetween origin after.simulatedUntil := by
  unfold simulatedUntil
  cases step_outcome taken with
  | waits sleeping later => simp [sleeping, Label.deltaTime]
  | due sleeping later => simp [sleeping, Label.deltaTime]
  | kept valid still =>
      rw [Label.deltaTime, still, add_zero]
  | @updateWorld currentTime phase valid =>
      have slice := keeps.2 rfl currentTime (by rw [phase]; rfl)
      rw [phase]
      simp only [Label.deltaTime, Event.deltaTime]
      rw [← secondsBetween_add origin loop.lastTickTime currentTime]
      exact add_le_add_right slice _
  | sendWorldSnapshots serverTime phase =>
      rw [phase]
      simp only [Label.deltaTime, Event.deltaTime, add_zero, le_refl]
  | flushAllBatches delivered phase =>
      rw [phase]
      simp only [Label.deltaTime, Event.deltaTime, add_zero, le_refl]
  | throws => cases keeps.1

theorem simulatedUntil_run {first last : GameLoop} {labels : List Label} (ordered : Ordered first)
    (run : Run (Taken (keepingStep toFloat)) first labels last) (origin : TimePoint) :
    Ordered last ∧ secondsBetween origin first.simulatedUntil + simulatedSeconds labels ≤
      secondsBetween origin last.simulatedUntil := by
  induction run with
  | nil => exact ⟨ordered, by simp [simulatedSeconds]⟩
  | @cons first middle last label labels taken rest ih =>
      obtain ⟨keeps, stepped⟩ := keepingStep_eq_some_iff.mp taken
      obtain ⟨orderedLast, later⟩ := ih (ordered.step stepped)
      have here := simulatedUntil_step stepped keeps origin
      refine ⟨orderedLast, ?_⟩
      calc
        secondsBetween origin first.simulatedUntil + simulatedSeconds (label :: labels)
            = secondsBetween origin first.simulatedUntil + label.deltaTime +
                simulatedSeconds labels := by
              simp only [simulatedSeconds, List.map_cons, List.sum_cons, add_assoc]
        _ ≤ secondsBetween origin middle.simulatedUntil + simulatedSeconds labels := by
              exact add_le_add_left here _
        _ ≤ secondsBetween origin last.simulatedUntil := later

theorem simulatedUntil_le_clock {loop : GameLoop} (ordered : Ordered loop) :
    loop.simulatedUntil ≤ loop.clock := by
  have readings := ordered.reading
  unfold simulatedUntil
  cases phase : loop.phase with
  | sleeping | processPendingCommands => exact ordered.last_le
  | sendWorldSnapshots currentTime | flushAllBatches currentTime =>
      rw [phase] at readings
      exact (readings currentTime rfl).2

theorem secondsBetween_mono {origin earlier later : TimePoint} (ordered : earlier ≤ later) :
    secondsBetween origin earlier ≤ secondsBetween origin later := by
  rw [← secondsBetween_add origin earlier later]
  exact le_add_of_nonneg_right (secondsBetween_nonneg ordered)

/-- From the end of a tick on, no more is simulated than the clock moves on by. -/
theorem simulatedSeconds_le_since {first last : GameLoop} {labels : List Label}
    (ordered : Ordered first) (sleeping : first.phase = .sleeping)
    (run : Run (Taken (keepingStep toFloat)) first labels last) :
    simulatedSeconds labels ≤ secondsBetween first.lastTickTime last.clock := by
  obtain ⟨orderedLast, total⟩ := simulatedUntil_run ordered run first.lastTickTime
  have nothing : secondsBetween first.lastTickTime first.simulatedUntil = 0 := by
    simp [simulatedUntil, sleeping, secondsBetween]
  rw [nothing, zero_add] at total
  exact total.trans (secondsBetween_mono (simulatedUntil_le_clock orderedLast))

theorem ordered_start (tickDuration : Int) (manager : GameManager) (now : TimePoint) :
    Ordered (start tickDuration manager now) :=
  ⟨le_rfl, fun _ isReading => by cases isReading⟩

/-- In a run without exceptions and without a slice that is rounded up too far, simulated time
never outruns the clock. -/
theorem simulatedSeconds_le_elapsed {tickDuration : Int} {manager : GameManager}
    {now : TimePoint} {labels : List Label} {finish : GameLoop}
    (run : Run (Taken (keepingStep toFloat)) (start tickDuration manager now) labels finish) :
    simulatedSeconds labels ≤ secondsBetween now finish.clock := by
  have sleeping : (start tickDuration manager now).phase = .sleeping := rfl
  have startTime : (start tickDuration manager now).lastTickTime = now := rfl
  have total := simulatedSeconds_le_since (ordered_start tickDuration manager now) sleeping run
  rwa [startTime] at total

/-- The integer nearest to a number, the even one of two. -/
def nearestInt (value : ℚ) : Int :=
  let low := value.floor
  if value - low < 1 / 2 then low
  else if 1 / 2 < value - low then low + 1
  else if low % 2 = 0 then low else low + 1

/-- The normal `float` nearest to a number: 24 binary digits. -/
def nearestFloat (value : ℚ) : ℚ :=
  let exponent := (value.num.natAbs.log2 : Int) - value.den.log2
  let shift := if |value| * 2 ^ (23 - exponent) < 2 ^ 23 then 24 - exponent else 23 - exponent
  nearestInt (value * 2 ^ shift) / 2 ^ shift

/-- The slice of that many milliseconds. -/
def slice (milliseconds : Int) : ℚ := nearestFloat (nearestFloat milliseconds / 1000)

example : slice 40 = 5368709 / 134217728 ∧ slice 34 = 4563403 / 134217728 ∧ 34 / 1000 < slice 34 := by
  decide +kernel

/-- One tick after 40.5 ms, of which half a millisecond is lost. -/
theorem simulatedSeconds_le_elapsed_of_one_tick :
    ∃ (manager : GameManager) (labels : List Label) (finish : GameLoop),
      Run (Taken (keepingStep nearestFloat)) (start 33 manager 0) labels finish ∧
      simulatedSeconds labels = slice 40 ∧ secondsBetween 0 finish.clock = 405 / 10000 ∧
      simulatedSeconds labels ≤ secondsBetween 0 finish.clock := by
  let labels : List Label := [.now 12000000, .now 40500000, .stage (.updateWorld (slice 40)),
    .stage (.sendWorldSnapshots 40), .stage (.flushAllBatches [])]
  obtain ⟨first, finish, created, run, clock⟩ := exists_run_of_execute (keepingStep nearestFloat)
    ((GameManager.create? {}).map (start 33 · 0)) labels
    (fun finish => secondsBetween 0 finish.clock = 405 / 10000) (by decide +kernel)
  obtain ⟨manager, -, rfl⟩ := Option.map_eq_some_iff.mp created
  exact ⟨manager, labels, finish, run, by decide +kernel, clock, simulatedSeconds_le_elapsed run⟩

/-- `SendWorldSnapshots` throws in the tick at 40 ms. The next tick is due at once, and its
slice contains the first one again. -/
theorem simulatedSeconds_exceeds_elapsed :
    ∃ (manager : GameManager) (labels : List Label) (finish : GameLoop),
      GameManager.create? {} = some manager ∧
      Runs nearestFloat (start 33 manager 0) labels finish ∧
      secondsBetween 0 finish.clock = 41 / 1000 ∧ simulatedSeconds labels = slice 40 + slice 41 ∧
      ¬ simulatedSeconds labels ≤ secondsBetween 0 finish.clock := by
  let labels : List Label := [.now 40000000, .stage (.updateWorld (slice 40)),
    .throws 1 .empty .empty, .now 41000000, .stage (.updateWorld (slice 41)),
    .stage (.sendWorldSnapshots 41), .stage (.flushAllBatches [])]
  obtain ⟨first, finish, created, run, clock⟩ := exists_run_of_execute (step nearestFloat)
    ((GameManager.create? {}).map (start 33 · 0)) labels
    (fun finish => secondsBetween 0 finish.clock = 41 / 1000) (by decide +kernel)
  obtain ⟨manager, isManager, rfl⟩ := Option.map_eq_some_iff.mp created
  have simulated : simulatedSeconds labels = slice 40 + slice 41 := by decide +kernel
  have tooMuch : 41 / 1000 < slice 40 + slice 41 := by decide +kernel
  refine ⟨manager, labels, finish, isManager, run, clock, simulated, ?_⟩
  rw [clock, simulated]
  exact not_le.mpr tooMuch

/-! ## The speed limit by the clock -/

/-- Without exceptions the loop does what the game thread does, in the order of its
stages. -/
theorem moments_of_run {first last : GameLoop} {labels : List Label}
    (run : Run (Taken (keepingStep toFloat)) first labels last) :
    ∃ moments, Run Moment.Happens first.manager moments last.manager ∧
      simulatedTime moments = simulatedSeconds labels := by
  induction run with
  | nil => exact ⟨[], .nil, rfl⟩
  | @cons first middle last label labels taken rest ih =>
      obtain ⟨moments, happened, simulated⟩ := ih
      obtain ⟨keeps, stepped⟩ := keepingStep_eq_some_iff.mp taken
      have performed : ∀ {event : Event}, label = .stage event → first.manager.Valid event →
          middle.manager = (first.manager.step event).1 →
          ∃ moments, Run Moment.Happens first.manager moments last.manager ∧
            simulatedTime moments = simulatedSeconds (label :: labels) := by
        intro event isStage valid stepped
        rw [stepped] at happened
        refine ⟨Moment.of first.manager event :: moments,
          .cons (Moment.of_happens first.manager event valid) happened, ?_⟩
        subst isStage
        simp only [simulatedTime, simulatedSeconds, List.map_cons, List.sum_cons] at simulated ⊢
        rw [simulated]
        rfl
      have idle : ∀ {currentTime : TimePoint}, label = .now currentTime →
          middle.manager = first.manager →
          ∃ moments, Run Moment.Happens first.manager moments last.manager ∧
            simulatedTime moments = simulatedSeconds (label :: labels) := by
        intro currentTime isNow same
        rw [same] at happened
        refine ⟨moments, happened, ?_⟩
        subst isNow
        simpa [simulatedSeconds, Label.deltaTime] using simulated
      cases step_outcome stepped with
      | waits | due => exact idle rfl rfl
      | kept valid still => exact performed rfl valid rfl
      | updateWorld phase valid => exact performed rfl valid rfl
      | sendWorldSnapshots serverTime phase => exact performed rfl trivial rfl
      | flushAllBatches delivered phase => exact performed rfl trivial rfl
      | throws => cases keeps.1

/-- Between two states of a loop that no exception interrupts and that rounds no slice up too far,
a player comes no farther than its speed and the clock allow. -/
theorem travelled_by_the_clock {config : GameConfig} {past : List Moment}
    {first last : GameLoop} {labels : List Label} {id : PlayerId} {player : Player}
    (trace : Trace config past first.manager) (ordered : Ordered first)
    (sleeping : first.phase = .sleeping)
    (run : Run (Taken (keepingStep toFloat)) first labels last)
    (found : first.manager.world.getPlayer id = some player) :
    ∃ later, last.manager.world.getPlayer id = some later ∧
      player.position.distXY later.position ≤
        ((|config.moveSpeed| * secondsBetween first.lastTickTime last.clock : ℚ) : ℝ) := by
  obtain ⟨moments, happened, simulated⟩ := moments_of_run run
  obtain ⟨-, later, foundLater, bound⟩ :=
    (GameManager.Confined.of_trace trace).travelled happened found
  have elapsed : simulatedTime moments ≤ secondsBetween first.lastTickTime last.clock := by
    rw [simulated]
    exact simulatedSeconds_le_since ordered sleeping run
  have slower := mul_le_mul_of_nonneg_left elapsed (abs_nonneg config.moveSpeed)
  exact ⟨later, foundLater, bound.trans (by exact_mod_cast slower)⟩

end GameLoop

end CppMMO.Game.Managers
