import CppMMO.Game.Managers.SpatialIndexProperties

/-! The world as a product of players: what becomes of a player depends on the events that
concern it and on nothing else, in whatever order the players are visited. -/

set_option autoImplicit false

namespace CppMMO.Game.Managers

open CppMMO.Lib CppMMO.Protocol CppMMO.Game.Models

/-- What one player sees of an event. -/
inductive PlayerEvent where
  | input (data : PlayerInputCommandData) (now later : TimePoint)
  | enter (session : SessionId) (spawnPosition : Vec3)
  | disconnect (now : TimePoint)
  | update (deltaTime : ℚ)

/-- One player on its own, absent before its first entry. -/
def PlayerEvent.apply (config : GameConfig) (id : PlayerId) (player? : Option Player) :
    PlayerEvent → Option Player
  | .input data now later => player?.map fun player =>
      if player.isInputAllowed now ∧ player.lastInputSequence < data.sequenceNumber then
        { player.updateLastInputTime later with
          lastInputSequence := data.sequenceNumber
          currentInputFlags := data.inputFlags
          velocity := inputFlagsToDirection data.inputFlags * config.moveSpeed }
      else player
  | .enter session spawnPosition =>
      match player? with
      | none => some { Player.create id (playerName id) spawnPosition with sessionId := session }
      | some player =>
          some (if player.isActive then player
            else { player with isActive := true, sessionId := session })
  | .disconnect now => player?.map fun player =>
      { player.setActive false now with lastInputSequence := 0 }
  | .update deltaTime => player?.map (GameManager.moved config deltaTime)

/-- The events that concern a player: its own commands, those but for a disconnect only while
the sender is registered, and every update of the world. -/
def Event.concerning? (id : PlayerId) : Event → Option PlayerEvent
  | .processGameCommand command sessionFound spawnPosition now later _ =>
      match command.payload with
      | .playerInput data =>
          if sessionFound ∧ data.playerId = id then some (.input data now later) else none
      | .enterZone data =>
          if sessionFound ∧ data.playerId = id then some (.enter data.sessionId spawnPosition)
          else none
      | .playerDisconnect data => if data.playerId = id then some (.disconnect now) else none
      | .playerSpawn _ => none
  | .updateWorld deltaTime => some (.update deltaTime)
  | .sendWorldSnapshots _ | .flushAllBatches _ | .rehash _ _ => none

/-- A player on its own, given what it saw of a run. -/
def playerAfter (config : GameConfig) (id : PlayerId) (moments : List Moment) : Option Player :=
  (moments.filterMap (·.event.concerning? id)).foldl (PlayerEvent.apply config id) none

theorem playerAfter_snoc (config : GameConfig) (id : PlayerId) (moments : List Moment)
    (moment : Moment) :
    playerAfter config id (moments ++ [moment]) =
      match moment.event.concerning? id with
      | none => playerAfter config id moments
      | some seen => seen.apply config id (playerAfter config id moments) := by
  unfold playerAfter
  rw [List.filterMap_append, List.foldl_append]
  cases concerns : moment.event.concerning? id with
  | none => simp [concerns]
  | some seen => simp [concerns]

namespace GameManager

theorem getPlayer_handlePlayerInput (manager : GameManager) (data : PlayerInputCommandData)
    (now later : TimePoint) (id : PlayerId) :
    (manager.handlePlayerInput data now later).world.getPlayer id =
      if data.playerId = id then
        (PlayerEvent.input data now later).apply manager.config id (manager.world.getPlayer id)
      else manager.world.getPlayer id := by
  unfold handlePlayerInput
  split
  · next absent =>
      split
      · next same =>
          subst same
          simp [PlayerEvent.apply, absent]
      · rfl
  · next player found =>
      split
      · next refused =>
          split
          · next same =>
              subst same
              simp [PlayerEvent.apply, found, refused]
          · rfl
      · next allowed =>
          split
          · next stale =>
              split
              · next same =>
                  subst same
                  simp [PlayerEvent.apply, found, UInt32.not_lt.mpr stale]
              · rfl
          · next newer =>
              rw [World.getPlayer_modifyPlayer]
              split
              · next same =>
                  subst same
                  simp only [Decidable.not_not] at allowed
                  simp [PlayerEvent.apply, found, allowed, UInt32.not_le.mp newer]
              · next other => rw [if_neg (Ne.symm other)]

theorem getPlayer_handleEnterZone (manager : GameManager) (data : EnterZoneCommandData)
    (session : SessionId) (spawnPosition : Vec3) (now : TimePoint) (id : PlayerId) :
    (manager.handleEnterZone data session spawnPosition now).1.world.getPlayer id =
      if data.playerId = id then
        (PlayerEvent.enter data.sessionId spawnPosition).apply manager.config id
          (manager.world.getPlayer id)
      else manager.world.getPlayer id := by
  unfold handleEnterZone
  split
  · next player found =>
      split
      · next active =>
          split
          · next same =>
              subst same
              simp [PlayerEvent.apply, found, active]
          · rfl
      · next inactive =>
          simp only [announceEntry, World.getPlayer_modifyPlayer]
          split
          · next same =>
              subst same
              simp [PlayerEvent.apply, found, inactive, Player.setActive]
          · next other => rw [if_neg (Ne.symm other)]
  · next absent =>
      simp only [announceEntry, World.getPlayer_addPlayer, Player.create]
      split
      · next same =>
          subst same
          simp [PlayerEvent.apply, absent, Player.create]
      · next other => rw [if_neg (Ne.symm other)]

theorem getPlayer_handlePlayerDisconnect (manager : GameManager)
    (data : PlayerDisconnectCommandData) (now : TimePoint) (id : PlayerId) :
    (manager.handlePlayerDisconnect data now).1.world.getPlayer id =
      if data.playerId = id then
        (PlayerEvent.disconnect now).apply manager.config id (manager.world.getPlayer id)
      else manager.world.getPlayer id := by
  unfold handlePlayerDisconnect
  split
  · next absent =>
      split
      · next same =>
          subst same
          simp [PlayerEvent.apply, absent]
      · rfl
  · next player found =>
      simp only [World.getPlayer_modifyPlayer]
      split
      · next same =>
          subst same
          simp [PlayerEvent.apply, found]
      · next other => rw [if_neg (Ne.symm other)]

/-- One event changes each player as that player alone would. -/
theorem getPlayer_step {manager : GameManager} {event : Event} (valid : manager.Valid event)
    (id : PlayerId) :
    (manager.step event).1.world.getPlayer id =
      match event.concerning? id with
      | none => manager.world.getPlayer id
      | some seen => seen.apply manager.config id (manager.world.getPlayer id) := by
  cases event with
  | processGameCommand command sessionFound spawnPosition now later delivered =>
      simp only [GameManager.step, processGameCommand, Event.concerning?]
      cases payload : command.payload with
      | playerInput data =>
          cases sessionFound with
          | false => simp
          | true =>
              simp only [if_true, true_and, getPlayer_handlePlayerInput]
              split <;> rfl
      | enterZone data =>
          cases sessionFound with
          | false => simp
          | true =>
              simp only [if_true, true_and, getPlayer_handleEnterZone]
              split <;> rfl
      | playerDisconnect data =>
          simp only [getPlayer_handlePlayerDisconnect]
          split <;> rfl
      | playerSpawn data => rfl
  | updateWorld deltaTime => exact getPlayer_updateWorld manager deltaTime id
  | sendWorldSnapshots serverTime =>
      exact congrArg (World.getPlayer · id) (sendWorldSnapshots_sameScene manager serverTime).world_eq
  | flushAllBatches delivered => rfl
  | rehash players playerBatches => exact valid.1.find?_eq id

end GameManager

/-- At the end of every run the world holds each player as it would be on its own, and a
query of the quad tree finds the active ones of them in range. -/
theorem scene_is_product {config : GameConfig} {moments : List Moment} {finish : GameManager}
    (trace : Trace config moments finish) :
    (∀ id, finish.world.getPlayer id = playerAfter config id moments) ∧
      ∀ center radius id, id ∈ finish.quadTree.query center radius ↔
        ∃ player, playerAfter config id moments = some player ∧ player.isActive = true ∧
          player.position.distSqXY center ≤ radius * radius := by
  have players : ∀ id, finish.world.getPlayer id = playerAfter config id moments := by
    intro id
    obtain ⟨start, created, run⟩ := trace
    obtain ⟨quadTree, -, rfl⟩ := Option.map_eq_some_iff.mp created
    let invariant (past : List Moment) (manager : GameManager) : Prop :=
      manager.config = config ∧ manager.world.getPlayer id = playerAfter config id past
    have holds : invariant ([] ++ moments) finish := by
      refine run.preserves_history invariant ?_ ⟨rfl, World.getPlayer_empty id⟩
      intro past before moment after soFar happens
      obtain ⟨sameConfig, same⟩ := soFar
      obtain rfl := happens.after_eq_step
      refine ⟨(GameManager.step_config before moment.event).trans sameConfig, ?_⟩
      rw [GameManager.getPlayer_step happens.valid, playerAfter_snoc, sameConfig, same]
    exact holds.2
  refine ⟨players, fun center radius id => ?_⟩
  rw [(GameManager.Indexed.of_trace trace).mem_query_iff, players id]

/-- Two players enter, one walks, leaves and comes back. -/
theorem scene_is_product_of_return :
    ∃ moments finish, Trace {} moments finish ∧
      ((playerAfter {} 1 moments).map fun player => (player.isActive, player.position)) =
        some (true, ⟨251 / 5, 50, 0⟩) ∧
      finish.world.getPlayer 1 = playerAfter {} 1 moments ∧
      1 ∈ finish.quadTree.query ⟨50, 50, 0⟩ 1 := by
  let events : List Event := [
    .enterZone 1 7 ⟨50, 50, 0⟩ [true], .enterZone 2 8 ⟨60, 60, 0⟩ [true, true],
    .processGameCommand ⟨.playerInput { playerId := 1, inputFlags := 8, sequenceNumber := 1 }, 7⟩
      true ⟨50, 50, 0⟩ 100000000 100000000 [],
    .updateWorld (1 / 50),
    .processGameCommand ⟨.playerDisconnect { playerId := 1 }, 7⟩ false ⟨50, 50, 0⟩ 0 0 [true],
    .updateWorld (1 / 50), .enterZone 1 9 ⟨60, 60, 0⟩ [true, true], .updateWorld (1 / 50)]
  have executed : (trace? {} events).any (fun result =>
      decide (((playerAfter {} 1 result.1).map fun player => (player.isActive, player.position)) =
        some (true, ⟨251 / 5, 50, 0⟩))) = true := by decide +kernel
  obtain ⟨⟨moments, finish⟩, followed, checked⟩ := (Option.any_eq_true _ _).mp executed
  have alone := of_decide_eq_true checked
  obtain ⟨players, queries⟩ := scene_is_product (trace_of_trace? followed)
  refine ⟨moments, finish, trace_of_trace? followed, alone, players 1, ?_⟩
  obtain ⟨player, same, both⟩ := Option.map_eq_some_iff.mp alone
  obtain ⟨active, position⟩ := Prod.mk.inj both
  exact (queries _ _ _).mpr ⟨player, same, active, by rw [position]; norm_num [Vec3.distSqXY]⟩

end CppMMO.Game.Managers
