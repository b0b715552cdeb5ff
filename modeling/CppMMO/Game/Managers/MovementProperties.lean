import Mathlib.Analysis.Complex.Norm
import CppMMO.Game.Managers.GameManagerProperties

/-! Where players can get to, and how fast. -/

set_option autoImplicit false

namespace CppMMO.Game

/-- The distance in the plane. -/
noncomputable def Vec3.distXY (a b : Vec3) : ℝ := Real.sqrt (a.distSqXY b : ℚ)

namespace Vec3

theorem distXY_self (a : Vec3) : a.distXY a = 0 := by
  simp [distXY, distSqXY]

/-- It is the distance of the complex plane. -/
theorem distXY_triangle (a b c : Vec3) : a.distXY c ≤ a.distXY b + b.distXY c := by
  have as_dist : ∀ p q : Vec3, p.distXY q = dist (Complex.mk p.x p.y) (Complex.mk q.x q.y) := by
    intro p q
    rw [Complex.dist_eq_re_im]
    simp [distXY, distSqXY]
  simp only [as_dist]
  exact dist_triangle _ _ _

theorem distXY_le_iff (a b : Vec3) {bound : ℚ} (nonneg : 0 ≤ bound) :
    a.distXY b ≤ bound ↔ a.distSqXY b ≤ bound ^ 2 := by
  rw [distXY, Real.sqrt_le_left (by exact_mod_cast nonneg)]
  exact_mod_cast Iff.rfl

end Vec3

end CppMMO.Game

namespace CppMMO.Game.Managers

open CppMMO.Lib CppMMO.Protocol CppMMO.Game.Models

/-- How much time the event simulates. -/
def Event.deltaTime : Event → ℚ
  | updateWorld deltaTime => deltaTime
  | processGameCommand _ _ _ _ _ _ | sendWorldSnapshots _ | flushAllBatches _ | rehash _ _ => 0

def simulatedTime (moments : List Moment) : ℚ := (moments.map (·.event.deltaTime)).sum

theorem simulatedTime_snoc (moments : List Moment) (moment : Moment) :
    simulatedTime (moments ++ [moment]) = simulatedTime moments + moment.event.deltaTime := by
  simp [simulatedTime]

theorem GameManager.Valid.deltaTime_nonneg {manager : GameManager} {event : Event}
    (valid : manager.Valid event) : 0 ≤ event.deltaTime := by
  cases event with
  | updateWorld deltaTime => exact valid
  | processGameCommand | sendWorldSnapshots | flushAllBatches | rehash => exact le_rfl

/-- Inside the half-open rectangle of the map, on the ground. -/
structure GameConfig.OnMap (config : GameConfig) (position : Vec3) : Prop where
  left : 0 ≤ position.x
  right : position.x < config.mapWidth
  bottom : 0 ≤ position.y
  top : position.y < config.mapHeight
  ground : position.z = 0

/-- A direction is never longer than 1, whatever byte the client sends. -/
theorem inputFlagsToDirection_bounded (inputFlags : UInt8) :
    (inputFlagsToDirection inputFlags).x ^ 2 + (inputFlagsToDirection inputFlags).y ^ 2 ≤ 1 ∧
      (inputFlagsToDirection inputFlags).z = 0 := by
  unfold inputFlagsToDirection
  split <;> norm_num

/-- What carries the speed limit: the velocity that an earlier input left behind is
itself within it. -/
structure Bounded (config : GameConfig) (player : Player) : Prop where
  onMap : config.OnMap player.position
  level : player.velocity.z = 0
  speed : player.velocity.x ^ 2 + player.velocity.y ^ 2 ≤ config.moveSpeed ^ 2

namespace Bounded

variable {config : GameConfig} {player : Player}

/-- Only the position and the velocity matter. -/
theorem congr {other : Player} (bounded : Bounded config player)
    (samePosition : other.position = player.position)
    (sameVelocity : other.velocity = player.velocity) : Bounded config other where
  onMap := samePosition ▸ bounded.onMap
  level := sameVelocity ▸ bounded.level
  speed := sameVelocity ▸ bounded.speed

theorem spawned {spawnPosition : Vec3} (spawns : config.Spawns spawnPosition) (id : PlayerId)
    (name : String) : Bounded config (Player.create id name spawnPosition) := by
  obtain ⟨left, right, bottom, top⟩ := spawns.isValidPosition
  obtain ⟨-, -, -, -, ground⟩ := spawns
  refine ⟨⟨left, right, bottom, top, ground⟩, rfl, ?_⟩
  simpa [Player.create] using sq_nonneg config.moveSpeed

theorem input (bounded : Bounded config player) (data : PlayerInputCommandData)
    (later : TimePoint) :
    Bounded config
      { player.updateLastInputTime later with
        lastInputSequence := data.sequenceNumber
        currentInputFlags := data.inputFlags
        velocity := inputFlagsToDirection data.inputFlags * config.moveSpeed } := by
  obtain ⟨short, flat⟩ := inputFlagsToDirection_bounded data.inputFlags
  refine ⟨bounded.onMap, ?_, ?_⟩
  · change (inputFlagsToDirection data.inputFlags).z * config.moveSpeed = 0
    rw [flat, zero_mul]
  · change ((inputFlagsToDirection data.inputFlags).x * config.moveSpeed) ^ 2 +
      ((inputFlagsToDirection data.inputFlags).y * config.moveSpeed) ^ 2 ≤ config.moveSpeed ^ 2
    calc
      _ = ((inputFlagsToDirection data.inputFlags).x ^ 2 +
            (inputFlagsToDirection data.inputFlags).y ^ 2) * config.moveSpeed ^ 2 := by ring
      _ ≤ 1 * config.moveSpeed ^ 2 := mul_le_mul_of_nonneg_right short (sq_nonneg _)
      _ = config.moveSpeed ^ 2 := one_mul _

/-- A position outside the map is refused, not clamped. -/
theorem moved (bounded : Bounded config player) (deltaTime : ℚ) :
    Bounded config (GameManager.moved config deltaTime player) := by
  unfold GameManager.moved
  split
  · next moves =>
      obtain ⟨left, right, bottom, top⟩ := moves.2
      refine ⟨⟨left, right, bottom, top, ?_⟩, bounded.level, bounded.speed⟩
      change player.position.z + player.velocity.z * deltaTime = 0
      rw [bounded.onMap.ground, bounded.level, zero_mul, add_zero]
  · exact bounded

theorem dist_moved_le (bounded : Bounded config player) {deltaTime : ℚ} (forward : 0 ≤ deltaTime) :
    player.position.distXY (GameManager.moved config deltaTime player).position ≤
      ((|config.moveSpeed| * deltaTime : ℚ) : ℝ) := by
  have nonneg : 0 ≤ |config.moveSpeed| * deltaTime := mul_nonneg (abs_nonneg _) forward
  rw [Vec3.distXY_le_iff _ _ nonneg, mul_pow, sq_abs]
  unfold GameManager.moved
  split
  · change (player.position.x - (player.position.x + player.velocity.x * deltaTime)) ^ 2 +
      (player.position.y - (player.position.y + player.velocity.y * deltaTime)) ^ 2 ≤ _
    calc
      _ = (player.velocity.x ^ 2 + player.velocity.y ^ 2) * deltaTime ^ 2 := by ring
      _ ≤ config.moveSpeed ^ 2 * deltaTime ^ 2 :=
          mul_le_mul_of_nonneg_right bounded.speed (sq_nonneg _)
  · simpa [Vec3.distSqXY] using mul_nonneg (sq_nonneg config.moveSpeed) (sq_nonneg deltaTime)

/-- A player that is there stays there, bounded, and moves only as far as the event's
time allows. -/
theorem change {id : PlayerId} {event : Event} {after : Option Player}
    (bounded : Bounded config player) (forward : 0 ≤ event.deltaTime)
    (change : GameManager.PlayerChange config id event (some player) after) :
    ∃ later, after = some later ∧ Bounded config later ∧
      player.position.distXY later.position ≤
        ((|config.moveSpeed| * event.deltaTime : ℚ) : ℝ) := by
  have stays : player.position.distXY player.position ≤
      ((|config.moveSpeed| * event.deltaTime : ℚ) : ℝ) := by
    rw [Vec3.distXY_self]
    exact_mod_cast mul_nonneg (abs_nonneg config.moveSpeed) forward
  cases change with
  | kept => exact ⟨player, rfl, bounded, stays⟩
  | input data later => exact ⟨_, rfl, bounded.input data later, stays⟩
  | reentered now session => exact ⟨_, rfl, bounded.congr rfl rfl, stays⟩
  | disconnected now => exact ⟨_, rfl, bounded.congr rfl rfl, stays⟩
  | moved deltaTime event_eq =>
      subst event_eq
      exact ⟨_, rfl, bounded.moved deltaTime, bounded.dist_moved_le forward⟩

end Bounded

namespace GameManager

/-- Every player of the world is within the limits. -/
structure Confined (config : GameConfig) (manager : GameManager) : Prop where
  config_eq : manager.config = config
  players : ∀ id player, manager.world.getPlayer id = some player → Bounded config player

theorem Confined.step {config : GameConfig} {before after : GameManager} {moment : Moment}
    (confined : Confined config before) (happens : moment.Happens before after) :
    Confined config after := by
  obtain rfl := happens.after_eq_step
  refine ⟨(step_config before moment.event).trans confined.config_eq, ?_⟩
  intro id player found
  have change := step_playerChange happens.valid id
  rw [confined.config_eq, found] at change
  cases present : before.world.getPlayer id with
  | none =>
      rw [present] at change
      cases change with
      | spawned spawns session => exact (Bounded.spawned spawns id (playerName id)).congr rfl rfl
  | some earlier =>
      rw [present] at change
      obtain ⟨later, same, bounded, -⟩ :=
        (confined.players id earlier present).change happens.valid.deltaTime_nonneg change
      cases same
      exact bounded

theorem Confined.of_trace {config : GameConfig} {moments : List Moment} {manager : GameManager}
    (trace : Trace config moments manager) : Confined config manager := by
  refine Trace.preserves (Confined config) ?_ (fun confined happens => confined.step happens) trace
  exact fun quadTree => ⟨rfl, fun id player found => by simp at found⟩

/-- How far a player can have come at the end of a run. -/
theorem Confined.travelled {config : GameConfig} {moments : List Moment}
    {start finish : GameManager} {id : PlayerId} {player : Player}
    (confined : Confined config start) (run : Run Moment.Happens start moments finish)
    (found : start.world.getPlayer id = some player) :
    Confined config finish ∧ ∃ later, finish.world.getPlayer id = some later ∧
      player.position.distXY later.position ≤
        ((|config.moveSpeed| * simulatedTime moments : ℚ) : ℝ) := by
  let invariant (taken : List Moment) (manager : GameManager) : Prop :=
    Confined config manager ∧ ∃ later, manager.world.getPlayer id = some later ∧
      player.position.distXY later.position ≤
        ((|config.moveSpeed| * simulatedTime taken : ℚ) : ℝ)
  have travelled : invariant ([] ++ moments) finish := by
    refine run.preserves_history invariant ?_
      ⟨confined, player, found, by simp [simulatedTime, Vec3.distXY_self]⟩
    intro taken before moment after soFar happens
    obtain ⟨confinedBefore, earlier, present, travelledSoFar⟩ := soFar
    have change := step_playerChange happens.valid id
    rw [confinedBefore.config_eq, present, ← happens.after_eq_step] at change
    obtain ⟨later, foundLater, -, moves⟩ :=
      (confinedBefore.players id earlier present).change happens.valid.deltaTime_nonneg change
    refine ⟨confinedBefore.step happens, later, foundLater, ?_⟩
    rw [simulatedTime_snoc, mul_add, Rat.cast_add]
    exact (Vec3.distXY_triangle _ earlier.position _).trans (add_le_add travelledSoFar moves)
  exact travelled

/-- From any moment after a player's first entry to any later one. -/
theorem confined_to_map_and_speed {config : GameConfig} {past moments : List Moment}
    {start finish : GameManager} {id : PlayerId} {player : Player}
    (trace : Trace config past start) (run : Run Moment.Happens start moments finish)
    (found : start.world.getPlayer id = some player) :
    config.OnMap player.position ∧
      ∃ later, finish.world.getPlayer id = some later ∧ config.OnMap later.position ∧
        player.position.distXY later.position ≤
          ((|config.moveSpeed| * simulatedTime moments : ℚ) : ℝ) := by
  have confined := Confined.of_trace trace
  obtain ⟨confinedAfter, later, foundLater, bound⟩ := confined.travelled run found
  exact ⟨(confined.players id player found).onMap, later, foundLater,
    (confinedAfter.players id later foundLater).onMap, bound⟩

/-- A player turns right, loses its connection and comes back still moving: three slices
of 20 ms, two of them while it was there. -/
theorem confined_to_map_and_speed_of_reconnect :
    ∃ past moments start finish player, Trace {} past start ∧
      Run Moment.Happens start moments finish ∧ start.world.getPlayer 1 = some player ∧
      player.position = ⟨50, 50, 0⟩ ∧
      ∃ later, finish.world.getPlayer 1 = some later ∧ later.position = ⟨251 / 5, 50, 0⟩ ∧
        GameConfig.OnMap {} later.position ∧
        player.position.distXY later.position ≤ ((|5| * (3 / 50) : ℚ) : ℝ) := by
  let events : List Event := [
    .processGameCommand ⟨.playerInput { playerId := 1, inputFlags := 8, sequenceNumber := 1 }, 7⟩
      true ⟨50, 50, 0⟩ 100000000 100000000 [],
    .updateWorld (1 / 50),
    .processGameCommand ⟨.playerDisconnect { playerId := 1 }, 7⟩ false ⟨50, 50, 0⟩ 0 0 [],
    .updateWorld (1 / 50), .enterZone 1 8 ⟨60, 60, 0⟩ [true], .updateWorld (1 / 50)]
  have executed : ((trace? {} [.enterZone 1 7 ⟨50, 50, 0⟩ [true]]).bind fun entered =>
      (entered.2.follow? events).map fun followed => (entered.2, followed)).any (fun result =>
        decide ((result.1.world.getPlayer 1).map (·.position) = some ⟨50, 50, 0⟩ ∧
          (result.2.2.world.getPlayer 1).map (·.position) = some ⟨251 / 5, 50, 0⟩ ∧
          simulatedTime result.2.1 = 3 / 50)) = true := by decide +kernel
  obtain ⟨⟨start, moments, finish⟩, followed, checked⟩ := (Option.any_eq_true _ _).mp executed
  obtain ⟨startsAt, endsAt, simulated⟩ := of_decide_eq_true checked
  obtain ⟨⟨past, begun⟩, entered, rest⟩ := Option.bind_eq_some_iff.mp followed
  obtain ⟨_, went, same⟩ := Option.map_eq_some_iff.mp rest
  obtain ⟨rfl, rfl⟩ := Prod.mk.inj same
  obtain ⟨player, found, position_eq⟩ := Option.map_eq_some_iff.mp startsAt
  have trace := trace_of_trace? entered
  have run := run_of_follow? went
  obtain ⟨-, later, foundLater, onMap, bound⟩ := confined_to_map_and_speed trace run found
  rw [foundLater] at endsAt
  rw [simulated] at bound
  exact ⟨past, moments, begun, finish, player, trace, run, found, position_eq, later, foundLater,
    Option.some.inj endsAt, onMap, bound⟩

end GameManager

end CppMMO.Game.Managers
