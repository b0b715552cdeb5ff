import CppMMO.Game.Managers.GameLoop

/-! What one command can do to the game manager, said once. Later invariants are
proved by cases on `CommandOutcome` and never unfold the handlers. -/

set_option autoImplicit false

namespace CppMMO.Game.Managers

open CppMMO.Lib CppMMO.Protocol CppMMO.Game.Models CppMMO.Game.Spatial

theorem GameConfig.Spawns.isValidPosition {config : GameConfig} {position : Vec3}
    (spawns : config.Spawns position) : config.IsValidPosition position := by
  obtain ⟨left, right, bottom, top, -⟩ := spawns
  exact ⟨by linarith, by linarith, by linarith, by linarith⟩

namespace GameManager

def withInput (manager : GameManager) (data : PlayerInputCommandData) (later : TimePoint) :
    GameManager :=
  { manager with world := manager.world.modifyPlayer data.playerId fun player =>
    { player.updateLastInputTime later with
      lastInputSequence := data.sequenceNumber
      currentInputFlags := data.inputFlags
      velocity := inputFlagsToDirection data.inputFlags * manager.config.moveSpeed } }

def withReentered (manager : GameManager) (data : EnterZoneCommandData) (position : Vec3)
    (now : TimePoint) : GameManager :=
  { manager with
    world := manager.world.modifyPlayer data.playerId fun player =>
      { player.setActive true now with sessionId := data.sessionId }
    quadTree := manager.quadTree.insert data.playerId position }

def withSpawned (manager : GameManager) (data : EnterZoneCommandData) (spawnPosition : Vec3) :
    GameManager :=
  { manager with
    world := manager.world.addPlayer
      { Player.create data.playerId (playerName data.playerId) spawnPosition with
        sessionId := data.sessionId }
    quadTree := manager.quadTree.insert data.playerId spawnPosition }

def withDisconnected (manager : GameManager) (playerId : PlayerId) (now : TimePoint) :
    GameManager :=
  { manager with
    world := manager.world.modifyPlayer playerId fun player =>
      { player.setActive false now with lastInputSequence := 0 }
    quadTree := manager.quadTree.remove playerId }

/-- Everything a command can do, with the guards under which it does it. -/
inductive CommandOutcome (manager : GameManager) (command : GameCommand) (sessionFound : Bool)
    (spawnPosition : Vec3) (now later : TimePoint) : GameManager × List Outgoing → Prop where
  | dropped : CommandOutcome manager command sessionFound spawnPosition now later (manager, [])
  | input {data : PlayerInputCommandData} {player : Player}
      (payload : command.payload = .playerInput data) (registered : sessionFound = true)
      (found : manager.world.getPlayer data.playerId = some player)
      (allowed : player.isInputAllowed now = true)
      (newer : player.lastInputSequence < data.sequenceNumber) :
      CommandOutcome manager command sessionFound spawnPosition now later
        (manager.withInput data later, [])
  | reentered {data : EnterZoneCommandData} {player : Player}
      (payload : command.payload = .enterZone data) (registered : sessionFound = true)
      (found : manager.world.getPlayer data.playerId = some player)
      (inactive : player.isActive = false) :
      CommandOutcome manager command sessionFound spawnPosition now later
        ((manager.withReentered data player.position now).announceEntry data.playerId
          command.senderSessionId)
  | spawned {data : EnterZoneCommandData}
      (payload : command.payload = .enterZone data) (registered : sessionFound = true)
      (absent : manager.world.getPlayer data.playerId = none) :
      CommandOutcome manager command sessionFound spawnPosition now later
        ((manager.withSpawned data spawnPosition).announceEntry data.playerId
          command.senderSessionId)
  | disconnected {data : PlayerDisconnectCommandData} {player : Player}
      (payload : command.payload = .playerDisconnect data)
      (found : manager.world.getPlayer data.playerId = some player) :
      CommandOutcome manager command sessionFound spawnPosition now later
        (manager.withDisconnected data.playerId now,
          (manager.withDisconnected data.playerId now).broadcastPlayerLeft data.playerId)

theorem processGameCommand_outcome (manager : GameManager) (command : GameCommand)
    (sessionFound : Bool) (spawnPosition : Vec3) (now later : TimePoint) :
    CommandOutcome manager command sessionFound spawnPosition now later
      (manager.processGameCommand command sessionFound spawnPosition now later) := by
  unfold processGameCommand
  cases payload : command.payload with
  | playerInput data =>
      cases registered : sessionFound with
      | false => exact .dropped
      | true =>
          simp only [↓reduceIte, handlePlayerInput]
          cases found : manager.world.getPlayer data.playerId with
          | none => exact .dropped
          | some player =>
              by_cases allowed : player.isInputAllowed now = true
              · by_cases stale : data.sequenceNumber ≤ player.lastInputSequence
                · simp only [allowed, stale, not_true_eq_false, ↓reduceIte]
                  exact .dropped
                · simp only [allowed, stale, not_true_eq_false, ↓reduceIte]
                  exact .input payload rfl found allowed (UInt32.not_le.mp stale)
              · simp only [allowed]
                exact .dropped
  | enterZone data =>
      cases registered : sessionFound with
      | false => exact .dropped
      | true =>
          simp only [↓reduceIte, handleEnterZone]
          cases found : manager.world.getPlayer data.playerId with
          | none => exact .spawned payload rfl found
          | some player =>
              cases active : player.isActive with
              | true => simpa only [active, ↓reduceIte] using .dropped
              | false =>
                  simp only [active, Bool.false_eq_true, ↓reduceIte]
                  exact .reentered payload rfl found active
  | playerSpawn data => exact .dropped
  | playerDisconnect data =>
      simp only [handlePlayerDisconnect]
      cases found : manager.world.getPlayer data.playerId with
      | none => exact .dropped
      | some player => exact .disconnected payload found

/-! ## The players after each outcome -/

theorem getPlayer_withInput (manager : GameManager) (data : PlayerInputCommandData)
    (later : TimePoint) (id : PlayerId) :
    (manager.withInput data later).world.getPlayer id =
      if id = data.playerId then (manager.world.getPlayer data.playerId).map fun player =>
        { player.updateLastInputTime later with
          lastInputSequence := data.sequenceNumber
          currentInputFlags := data.inputFlags
          velocity := inputFlagsToDirection data.inputFlags * manager.config.moveSpeed }
      else manager.world.getPlayer id :=
  World.getPlayer_modifyPlayer _ _ _ _

theorem getPlayer_withReentered (manager : GameManager) (data : EnterZoneCommandData)
    (position : Vec3) (now : TimePoint) (id : PlayerId) :
    (manager.withReentered data position now).world.getPlayer id =
      if id = data.playerId then (manager.world.getPlayer data.playerId).map fun player =>
        { player.setActive true now with sessionId := data.sessionId }
      else manager.world.getPlayer id :=
  World.getPlayer_modifyPlayer _ _ _ _

theorem getPlayer_withSpawned (manager : GameManager) (data : EnterZoneCommandData)
    (spawnPosition : Vec3) (id : PlayerId) :
    (manager.withSpawned data spawnPosition).world.getPlayer id =
      if id = data.playerId then
        some { Player.create data.playerId (playerName data.playerId) spawnPosition with
          sessionId := data.sessionId }
      else manager.world.getPlayer id :=
  World.getPlayer_addPlayer _ _ _

theorem getPlayer_withDisconnected (manager : GameManager) (playerId : PlayerId)
    (now : TimePoint) (id : PlayerId) :
    (manager.withDisconnected playerId now).world.getPlayer id =
      if id = playerId then (manager.world.getPlayer playerId).map fun player =>
        { player.setActive false now with lastInputSequence := 0 }
      else manager.world.getPlayer id :=
  World.getPlayer_modifyPlayer _ _ _ _

/-! ## Commands that do nothing -/

/-- The rate limit and the sequence number let the input pass. -/
def Accepts (manager : GameManager) (data : PlayerInputCommandData) (now : TimePoint) : Prop :=
  ∃ player, manager.world.getPlayer data.playerId = some player ∧
    player.isInputAllowed now = true ∧ player.lastInputSequence < data.sequenceNumber

instance (manager : GameManager) (data : PlayerInputCommandData) (now : TimePoint) :
    Decidable (manager.Accepts data now) :=
  match found : manager.world.getPlayer data.playerId with
  | none => .isFalse fun accepts => by simp [Accepts, found] at accepts
  | some player =>
      decidable_of_iff (player.isInputAllowed now = true ∧
        player.lastInputSequence < data.sequenceNumber) (by simp [Accepts, found])

/-- The command is one that does nothing, whoever sent it. -/
def Drops (manager : GameManager) (now : TimePoint) : GameCommandPayload → Prop
  | .playerInput data => ¬ manager.Accepts data now
  | .enterZone data => manager.world.Active data.playerId
  | .playerSpawn _ => True
  | .playerDisconnect data => manager.world.getPlayer data.playerId = none

instance (manager : GameManager) (now : TimePoint) (payload : GameCommandPayload) :
    Decidable (manager.Drops now payload) :=
  match payload with
  | .playerInput data => inferInstanceAs (Decidable (¬ manager.Accepts data now))
  | .enterZone data => inferInstanceAs (Decidable (manager.world.Active data.playerId))
  | .playerSpawn _ => .isTrue trivial
  | .playerDisconnect _ => inferInstanceAs (Decidable (_ = _))

theorem processGameCommand_of_drops {manager : GameManager} {command : GameCommand}
    {now : TimePoint} (drops : manager.Drops now command.payload)
    (sessionFound : Bool) (spawnPosition : Vec3) (later : TimePoint) :
    manager.processGameCommand command sessionFound spawnPosition now later = (manager, []) := by
  have outcome := manager.processGameCommand_outcome command sessionFound spawnPosition now later
  generalize manager.processGameCommand command sessionFound spawnPosition now later = result
    at outcome ⊢
  cases outcome with
  | dropped => rfl
  | input payload registered found allowed newer =>
      rw [payload] at drops
      exact absurd ⟨_, found, allowed, newer⟩ drops
  | reentered payload registered found inactive =>
      rw [payload] at drops
      obtain ⟨player, foundActive, active⟩ := drops
      cases found.symm.trans foundActive
      simp [inactive] at active
  | spawned payload registered absent =>
      rw [payload] at drops
      obtain ⟨player, found, -⟩ := drops
      cases absent.symm.trans found
  | disconnected payload found =>
      rw [payload] at drops
      cases drops.symm.trans found

theorem processGameCommand_of_unregistered {manager : GameManager} {command : GameCommand}
    {spawnPosition : Vec3} {now later : TimePoint}
    (notDisconnect : command.payload.isDisconnect = false) :
    manager.processGameCommand command false spawnPosition now later = (manager, []) := by
  unfold processGameCommand
  cases payload : command.payload with
  | playerDisconnect => simp [payload, GameCommandPayload.isDisconnect] at notDisconnect
  | playerInput | enterZone | playerSpawn => rfl

/-! ## The world update -/

def moved (config : GameConfig) (deltaTime : ℚ) (player : Player) : Player :=
  if player.isActive ∧ config.IsValidPosition (player.position + player.velocity * deltaTime) then
    { player with position := player.position + player.velocity * deltaTime }
  else player

theorem updatePlayer_of_absent {manager : GameManager} {id : PlayerId} (deltaTime : ℚ)
    (absent : manager.world.getPlayer id = none) : manager.updatePlayer deltaTime id = manager := by
  simp only [updatePlayer, absent]

theorem updatePlayer_of_inactive {manager : GameManager} {id : PlayerId} {player : Player}
    (deltaTime : ℚ) (found : manager.world.getPlayer id = some player)
    (inactive : player.isActive = false) : manager.updatePlayer deltaTime id = manager := by
  simp [updatePlayer, found, inactive]

theorem updatePlayer_of_active {manager : GameManager} {id : PlayerId} {player : Player}
    (deltaTime : ℚ) (found : manager.world.getPlayer id = some player)
    (active : player.isActive = true) :
    manager.updatePlayer deltaTime id = { manager with
      world := manager.world.modifyPlayer id fun other =>
        { other with position := (moved manager.config deltaTime player).position }
      quadTree := manager.quadTree.update id (moved manager.config deltaTime player).position } := by
  have position_eq : (moved manager.config deltaTime player).position =
      if manager.config.IsValidPosition (player.position + player.velocity * deltaTime) then
        player.position + player.velocity * deltaTime
      else player.position := by
    unfold moved
    by_cases valid : manager.config.IsValidPosition (player.position + player.velocity * deltaTime) <;>
      simp [active, valid]
  simp only [updatePlayer, found, active, ↓reduceIte, position_eq]

theorem config_updatePlayer (deltaTime : ℚ) (manager : GameManager) (id : PlayerId) :
    (manager.updatePlayer deltaTime id).config = manager.config := by
  unfold updatePlayer
  split
  · rfl
  · split <;> rfl

theorem moved_eq_with_position (config : GameConfig) (deltaTime : ℚ) (player : Player) :
    { player with position := (moved config deltaTime player).position } =
      moved config deltaTime player := by
  unfold moved
  split <;> rfl

theorem getPlayer_updatePlayer (deltaTime : ℚ) (manager : GameManager) (playerId id : PlayerId) :
    (manager.updatePlayer deltaTime playerId).world.getPlayer id =
      if id = playerId then (manager.world.getPlayer playerId).map (moved manager.config deltaTime)
      else manager.world.getPlayer id := by
  cases found : manager.world.getPlayer playerId with
  | none =>
      rw [updatePlayer_of_absent deltaTime found]
      split
      · next same => rw [same, found, Option.map_none]
      · rfl
  | some player =>
      cases active : player.isActive with
      | true =>
          rw [updatePlayer_of_active deltaTime found active, World.getPlayer_modifyPlayer, found,
            Option.map_some, Option.map_some, moved_eq_with_position]
      | false =>
          rw [updatePlayer_of_inactive deltaTime found active]
          split
          · next same => simp [same, found, moved, active]
          · rfl

theorem getPlayer_foldl_updatePlayer (deltaTime : ℚ) (id : PlayerId) :
    ∀ (ids : List PlayerId) (manager : GameManager), ids.Nodup →
      (ids.foldl (updatePlayer deltaTime) manager).world.getPlayer id =
        if id ∈ ids then (manager.world.getPlayer id).map (moved manager.config deltaTime)
        else manager.world.getPlayer id := by
  intro ids
  induction ids with
  | nil => intro manager _; simp
  | cons first rest ih =>
      intro manager nodup
      obtain ⟨notAgain, restNodup⟩ := List.nodup_cons.mp nodup
      rw [List.foldl_cons, ih _ restNodup, config_updatePlayer, getPlayer_updatePlayer]
      by_cases same : id = first
      · subst same
        simp [notAgain]
      · simp [same]

theorem getPlayer_updateWorld (manager : GameManager) (deltaTime : ℚ) (id : PlayerId) :
    (manager.updateWorld deltaTime).world.getPlayer id =
      (manager.world.getPlayer id).map (moved manager.config deltaTime) := by
  refine (getPlayer_foldl_updatePlayer deltaTime id _ _ (UnorderedMap.keys_nodup _)).trans ?_
  by_cases present : id ∈ manager.world.players.keys
  · exact if_pos present
  · have missing : manager.world.getPlayer id = none :=
      UnorderedMap.find?_eq_none_of_not_mem_keys present
    refine (if_neg present).trans ?_
    change manager.world.getPlayer id = _
    rw [missing, Option.map_none]

theorem moved_isActive (config : GameConfig) (deltaTime : ℚ) (player : Player) :
    (moved config deltaTime player).isActive = player.isActive := by
  unfold moved
  split <;> rfl

/-! ## Active players and their sessions -/

theorem moved_sessionId (config : GameConfig) (deltaTime : ℚ) (player : Player) :
    (moved config deltaTime player).sessionId = player.sessionId := by
  unfold moved
  split <;> rfl

/-- An active player with this session is there. -/
def Owns (manager : GameManager) (session : SessionId) (id : PlayerId) : Prop :=
  ∃ player, manager.world.getPlayer id = some player ∧ player.isActive = true ∧
    player.sessionId = session

instance (manager : GameManager) (session : SessionId) (id : PlayerId) :
    Decidable (manager.Owns session id) :=
  match found : manager.world.getPlayer id with
  | none => .isFalse fun owned => by simp [Owns, found] at owned
  | some player =>
      decidable_of_iff (player.isActive = true ∧ player.sessionId = session)
        (by simp [Owns, found])

theorem Owns.of_map {before after : GameManager} {id : PlayerId} {player : Player}
    {update : Player → Player} (found : after.world.getPlayer id = some player)
    (active : player.isActive = true)
    (updated : after.world.getPlayer id = (before.world.getPlayer id).map update)
    (sameActive : ∀ earlier, (update earlier).isActive = true →
      earlier.isActive = true ∧ earlier.sessionId = (update earlier).sessionId) :
    before.Owns player.sessionId id := by
  obtain ⟨earlier, foundEarlier, rfl⟩ := Option.map_eq_some_iff.mp (updated.symm.trans found)
  obtain ⟨wasActive, sameSession⟩ := sameActive earlier active
  exact ⟨earlier, foundEarlier, wasActive, sameSession⟩

theorem Owns.of_eq {before after : GameManager} {id : PlayerId} {player : Player}
    (found : after.world.getPlayer id = some player) (active : player.isActive = true)
    (same : after.world.getPlayer id = before.world.getPlayer id) :
    before.Owns player.sessionId id :=
  ⟨player, same.symm.trans found, active, rfl⟩

theorem not_active_withDisconnected (manager : GameManager) (id : PlayerId) (now : TimePoint) :
    ¬ (manager.withDisconnected id now).world.Active id := by
  rintro ⟨player, found, active⟩
  rw [getPlayer_withDisconnected, if_pos rfl] at found
  obtain ⟨earlier, -, rfl⟩ := Option.map_eq_some_iff.mp found
  simp [Player.setActive] at active

structure Entered (manager : GameManager) (command : GameCommand) (sessionFound : Bool)
    (id : PlayerId) (player : Player) (data : EnterZoneCommandData) : Prop where
  payload : command.payload = .enterZone data
  id_eq : data.playerId = id
  registered : sessionFound = true
  wasInactive : ¬ manager.world.Active id
  session_eq : player.sessionId = data.sessionId

/-- Whoever is active after a command was so before, with the same session, or entered
with it. -/
theorem kept_or_entered {manager : GameManager} {command : GameCommand} {sessionFound : Bool}
    {spawnPosition : Vec3} {now later : TimePoint} {id : PlayerId} {player : Player}
    (found : (manager.processGameCommand command sessionFound spawnPosition now
      later).1.world.getPlayer id = some player)
    (active : player.isActive = true) :
    manager.Owns player.sessionId id ∨
      ∃ data, manager.Entered command sessionFound id player data := by
  have outcome := manager.processGameCommand_outcome command sessionFound spawnPosition now later
  generalize manager.processGameCommand command sessionFound spawnPosition now later = result
    at outcome found
  cases outcome with
  | dropped => exact .inl (.of_eq found active rfl)
  | @input data _ payload registered present allowed newer =>
      have written := getPlayer_withInput manager data later id
      by_cases same : id = data.playerId
      · subst same
        rw [if_pos rfl] at written
        exact .inl (.of_map found active written fun earlier isActive => ⟨isActive, rfl⟩)
      · exact .inl (.of_eq found active (written.trans (if_neg same)))
  | @reentered data before payload registered present inactive =>
      have written := getPlayer_withReentered manager data before.position now id
      by_cases same : id = data.playerId
      · subst same
        rw [if_pos rfl, present, Option.map_some] at written
        cases written.symm.trans found
        refine .inr ⟨data, payload, rfl, registered, ?_, rfl⟩
        rintro ⟨other, presentOther, otherActive⟩
        rw [present] at presentOther
        cases presentOther
        simp [inactive] at otherActive
      · exact .inl (.of_eq found active (written.trans (if_neg same)))
  | @spawned data payload registered absent =>
      have written := getPlayer_withSpawned manager data spawnPosition id
      by_cases same : id = data.playerId
      · subst same
        rw [if_pos rfl] at written
        cases written.symm.trans found
        refine .inr ⟨data, payload, rfl, registered, ?_, rfl⟩
        rintro ⟨other, presentOther, -⟩
        simp [absent] at presentOther
      · exact .inl (.of_eq found active (written.trans (if_neg same)))
  | @disconnected data _ payload present =>
      have written := getPlayer_withDisconnected manager data.playerId now id
      by_cases same : id = data.playerId
      · subst same
        exact absurd ⟨player, found, active⟩ (not_active_withDisconnected manager data.playerId now)
      · exact .inl (.of_eq found active (written.trans (if_neg same)))

theorem kept_updateWorld {manager : GameManager} {deltaTime : ℚ} {id : PlayerId} {player : Player}
    (found : (manager.updateWorld deltaTime).world.getPlayer id = some player)
    (active : player.isActive = true) : manager.Owns player.sessionId id :=
  .of_map found active (getPlayer_updateWorld manager deltaTime id) fun _ movedActive =>
    ⟨(moved_isActive _ _ _).symm.trans movedActive, (moved_sessionId _ _ _).symm⟩

theorem not_active_of_disconnect {manager : GameManager} {command : GameCommand}
    {sessionFound : Bool} {spawnPosition : Vec3} {now later : TimePoint}
    {data : PlayerDisconnectCommandData} (payload : command.payload = .playerDisconnect data) :
    ¬ (manager.processGameCommand command sessionFound spawnPosition now later).1.world.Active
      data.playerId := by
  simp only [processGameCommand, payload, handlePlayerDisconnect]
  cases found : manager.world.getPlayer data.playerId with
  | none => rintro ⟨player, present, -⟩; simp [found] at present
  | some player => exact not_active_withDisconnected manager data.playerId now

/-! ## What the tick stages leave alone -/

/-- Two managers that differ at most in their batches, AOI cache and tick number. -/
structure SameScene (manager other : GameManager) : Prop where
  config_eq : other.config = manager.config
  world_eq : other.world = manager.world
  quadTree_eq : other.quadTree = manager.quadTree

theorem SameScene.refl (manager : GameManager) : SameScene manager manager := ⟨rfl, rfl, rfl⟩

theorem SameScene.trans {first second third : GameManager} (front : SameScene first second)
    (back : SameScene second third) : SameScene first third :=
  ⟨back.config_eq.trans front.config_eq, back.world_eq.trans front.world_eq,
    back.quadTree_eq.trans front.quadTree_eq⟩

theorem getCachedPlayersInAOI_sameScene (manager : GameManager) (id : PlayerId)
    (position : Vec3) : SameScene manager (manager.getCachedPlayersInAOI id position).1 := by
  unfold getCachedPlayersInAOI
  split
  · exact ⟨rfl, rfl, rfl⟩
  · split <;> exact ⟨rfl, rfl, rfl⟩

theorem snapshotPlayer_sameScene (serverTime : Nat) (manager : GameManager) (id : PlayerId) :
    SameScene manager (manager.snapshotPlayer serverTime id).1 := by
  unfold snapshotPlayer
  cases manager.world.getPlayer id with
  | none => exact .refl manager
  | some player =>
      by_cases active : player.isActive = true
      · simp only [active, ↓reduceIte]
        exact (getCachedPlayersInAOI_sameScene manager id player.position).trans ⟨rfl, rfl, rfl⟩
      · simp only [active]
        exact .refl manager

theorem snapshotPlayers_sameScene (serverTime : Nat) :
    ∀ (ids : List PlayerId) (manager : GameManager),
      SameScene manager (snapshotPlayers serverTime ids manager).1 := by
  intro ids
  induction ids with
  | nil => exact fun manager => .refl manager
  | cons id rest ih =>
      exact fun manager => (snapshotPlayer_sameScene serverTime manager id).trans (ih _)

theorem sendWorldSnapshots_sameScene (manager : GameManager) (serverTime : Nat) :
    SameScene manager (manager.sendWorldSnapshots serverTime).1 := by
  have ticked : SameScene manager { manager with tickNumber := manager.tickNumber + 1 } :=
    ⟨rfl, rfl, rfl⟩
  exact ticked.trans (snapshotPlayers_sameScene serverTime manager.world.players.keys _)

theorem flushAllBatches_sameScene (manager : GameManager) :
    SameScene manager manager.flushAllBatches.1 := ⟨rfl, rfl, rfl⟩

/-- Two managers with the same batches, AOI cache and tick number. -/
structure SameTick (manager other : GameManager) : Prop where
  tick_eq : other.tickNumber = manager.tickNumber
  batches_eq : other.playerBatches = manager.playerBatches
  cache_eq : other.aoiCache = manager.aoiCache

theorem processGameCommand_sameTick (manager : GameManager) (command : GameCommand)
    (sessionFound : Bool) (spawnPosition : Vec3) (now later : TimePoint) :
    SameTick manager
      (manager.processGameCommand command sessionFound spawnPosition now later).1 := by
  have outcome := manager.processGameCommand_outcome command sessionFound spawnPosition now later
  generalize manager.processGameCommand command sessionFound spawnPosition now later = result
    at outcome ⊢
  cases outcome <;> exact ⟨rfl, rfl, rfl⟩

theorem updatePlayer_sameTick (deltaTime : ℚ) (manager : GameManager) (id : PlayerId) :
    SameTick manager (manager.updatePlayer deltaTime id) := by
  unfold updatePlayer
  split
  · exact ⟨rfl, rfl, rfl⟩
  · split <;> exact ⟨rfl, rfl, rfl⟩

theorem updateWorld_sameTick (manager : GameManager) (deltaTime : ℚ) :
    SameTick manager (manager.updateWorld deltaTime) := by
  have loop : ∀ (ids : List PlayerId) (current : GameManager),
      SameTick current (ids.foldl (updatePlayer deltaTime) current) := by
    intro ids
    induction ids with
    | nil => exact fun _ => ⟨rfl, rfl, rfl⟩
    | cons id rest ih =>
        intro current
        have first := updatePlayer_sameTick deltaTime current id
        have others := ih (current.updatePlayer deltaTime id)
        exact ⟨others.tick_eq.trans first.tick_eq, others.batches_eq.trans first.batches_eq,
          others.cache_eq.trans first.cache_eq⟩
  exact loop _ _

/-! ## Broadcasts -/

theorem mem_broadcast_iff (manager : GameManager) (id : PlayerId) (packet : ServerPacket)
    (request : Outgoing) :
    request ∈ manager.broadcast id packet ↔
      ∃ other player, manager.world.getPlayer other = some player ∧ other ≠ id ∧
        player.isActive = true ∧
        request = { session := player.sessionId, lookup := true, packets := [packet] } := by
  simp only [broadcast, List.mem_filterMap, Prod.exists]
  constructor
  · rintro ⟨other, player, listed, chosen⟩
    split at chosen
    · next passes =>
        cases chosen
        exact ⟨other, player, (World.mem_getAllPlayers_iff _ _ _).mp listed, passes.1, passes.2, rfl⟩
    · cases chosen
  · rintro ⟨other, player, found, different, active, rfl⟩
    exact ⟨other, player, (World.mem_getAllPlayers_iff _ _ _).mpr found, if_pos ⟨different, active⟩⟩

/-! ## One player over one event -/

/-- Everything one event can do to one player's entry in the world. -/
inductive PlayerChange (config : GameConfig) (id : PlayerId) (event : Event) :
    Option Player → Option Player → Prop where
  | kept {entry : Option Player} : PlayerChange config id event entry entry
  | input {player : Player} (data : PlayerInputCommandData) (later : TimePoint) :
      PlayerChange config id event (some player) (some
        { player.updateLastInputTime later with
          lastInputSequence := data.sequenceNumber
          currentInputFlags := data.inputFlags
          velocity := inputFlagsToDirection data.inputFlags * config.moveSpeed })
  | reentered {player : Player} (now : TimePoint) (session : SessionId)
      (inactive : player.isActive = false) :
      PlayerChange config id event (some player)
        (some { player.setActive true now with sessionId := session })
  | spawned {spawnPosition : Vec3} (spawns : config.Spawns spawnPosition) (session : SessionId) :
      PlayerChange config id event none
        (some { Player.create id (playerName id) spawnPosition with sessionId := session })
  | disconnected {player : Player} (now : TimePoint) :
      PlayerChange config id event (some player)
        (some { player.setActive false now with lastInputSequence := 0 })
  | moved {player : Player} (deltaTime : ℚ) (event_eq : event = .updateWorld deltaTime) :
      PlayerChange config id event (some player) (some (moved config deltaTime player))

theorem PlayerChange.of_eq {config : GameConfig} {id : PlayerId} {event : Event}
    {before after : Option Player} (same : after = before) :
    PlayerChange config id event before after :=
  same ▸ .kept

theorem processGameCommand_playerChange {manager : GameManager} {command : GameCommand}
    {sessionFound : Bool} {spawnPosition : Vec3} {now later : TimePoint}
    (spawns : manager.config.Spawns spawnPosition) (event : Event) (id : PlayerId) :
    PlayerChange manager.config id event (manager.world.getPlayer id)
      ((manager.processGameCommand command sessionFound spawnPosition now
        later).1.world.getPlayer id) := by
  have outcome := manager.processGameCommand_outcome command sessionFound spawnPosition now later
  generalize manager.processGameCommand command sessionFound spawnPosition now later = result
    at outcome ⊢
  cases outcome with
  | dropped => exact .kept
  | @input data player payload registered found allowed newer =>
      have written := getPlayer_withInput manager data later id
      by_cases same : id = data.playerId
      · subst same
        rw [written, if_pos rfl, found]
        exact .input data later
      · exact .of_eq (written.trans (if_neg same))
  | @reentered data player payload registered found inactive =>
      have written := getPlayer_withReentered manager data player.position now id
      by_cases same : id = data.playerId
      · subst same
        rw [if_pos rfl, found, Option.map_some] at written
        rw [found, announceEntry, written]
        exact .reentered now data.sessionId inactive
      · exact .of_eq (written.trans (if_neg same))
  | @spawned data payload registered absent =>
      have written := getPlayer_withSpawned manager data spawnPosition id
      by_cases same : id = data.playerId
      · subst same
        rw [if_pos rfl] at written
        rw [absent, announceEntry, written]
        exact .spawned spawns data.sessionId
      · exact .of_eq (written.trans (if_neg same))
  | @disconnected data player payload found =>
      have written := getPlayer_withDisconnected manager data.playerId now id
      by_cases same : id = data.playerId
      · subst same
        rw [written, if_pos rfl, found]
        exact .disconnected now
      · exact .of_eq (written.trans (if_neg same))

theorem step_playerChange {manager : GameManager} {event : Event} (valid : manager.Valid event)
    (id : PlayerId) :
    PlayerChange manager.config id event (manager.world.getPlayer id)
      ((manager.step event).1.world.getPlayer id) := by
  cases event with
  | processGameCommand command sessionFound spawnPosition now later delivered =>
      exact processGameCommand_playerChange valid _ id
  | updateWorld deltaTime =>
      rw [step, getPlayer_updateWorld]
      cases manager.world.getPlayer id with
      | none => exact .kept
      | some player => exact .moved deltaTime rfl
  | sendWorldSnapshots serverTime =>
      have scene := sendWorldSnapshots_sameScene manager serverTime
      exact .of_eq (congrArg (World.getPlayer · id) scene.world_eq)
  | flushAllBatches delivered => exact .kept
  | rehash players playerBatches => exact .of_eq (valid.1.find?_eq id)

theorem updateWorld_config (manager : GameManager) (deltaTime : ℚ) :
    (manager.updateWorld deltaTime).config = manager.config := by
  have loop : ∀ (ids : List PlayerId) (current : GameManager),
      (ids.foldl (updatePlayer deltaTime) current).config = current.config := by
    intro ids
    induction ids with
    | nil => exact fun _ => rfl
    | cons id rest ih =>
        intro current
        exact (ih _).trans (config_updatePlayer deltaTime current id)
  exact loop _ _

theorem step_config (manager : GameManager) (event : Event) :
    (manager.step event).1.config = manager.config := by
  cases event with
  | processGameCommand command sessionFound spawnPosition now later delivered =>
      have outcome :=
        manager.processGameCommand_outcome command sessionFound spawnPosition now later
      change (manager.processGameCommand command sessionFound spawnPosition now later).1.config = _
      generalize manager.processGameCommand command sessionFound spawnPosition now later = result
        at outcome ⊢
      cases outcome <;> rfl
  | updateWorld deltaTime => exact updateWorld_config manager deltaTime
  | sendWorldSnapshots serverTime =>
      exact (sendWorldSnapshots_sameScene manager serverTime).config_eq
  | flushAllBatches delivered => rfl
  | rehash players playerBatches => rfl

end GameManager

/-! ## Requests and their answers -/

theorem exists_request_of_answered {answer : Bool} {outgoing : List Outgoing}
    {delivered : List Bool} {session : SessionId} {packet : ServerPacket}
    (member : (session, packet) ∈ answered answer outgoing delivered) :
    ∃ request ∈ outgoing, request.session = session ∧ packet ∈ request.packets := by
  induction outgoing generalizing delivered with
  | nil => cases member
  | cons request rest ih =>
      rcases List.mem_append.mp member with here | later
      · split at here
        · obtain ⟨sent, isSent, same⟩ := List.mem_map.mp here
          cases same
          exact ⟨request, List.mem_cons_self, rfl, isSent⟩
        · cases here
      · obtain ⟨other, isRequest, holds⟩ := ih later
        exact ⟨other, List.mem_cons_of_mem request isRequest, holds⟩

theorem answered_true_eq_nil_iff {outgoing : List Outgoing}
    (nonempty : ∀ request ∈ outgoing, request.packets ≠ []) (delivered : List Bool) :
    answered true outgoing delivered = [] ↔ true ∉ delivered.take outgoing.length := by
  induction outgoing generalizing delivered with
  | nil => simp [answered]
  | cons request rest ih =>
      have others := ih (fun other member => nonempty other (List.mem_cons_of_mem _ member))
      have packets := nonempty request List.mem_cons_self
      rcases delivered with _ | ⟨answer, delivered⟩
      · simpa [answered] using others []
      · cases answer <;> simp [answered, packets, others]

theorem mem_sent_or_refused {outgoing : List Outgoing} (delivered : List Bool)
    {request : Outgoing} (isRequest : request ∈ outgoing) {packet : ServerPacket}
    (isPacket : packet ∈ request.packets) :
    (request.session, packet) ∈ (Outputs.ofRequests outgoing delivered).sent ∨
      (request.session, packet) ∈ (Outputs.ofRequests outgoing delivered).refused := by
  simp only [Outputs.ofRequests]
  induction outgoing generalizing delivered with
  | nil => cases isRequest
  | cons first rest ih =>
      simp only [answered, List.mem_append]
      rcases List.mem_cons.mp isRequest with rfl | later
      · cases delivered.headD false with
        | true => exact .inl (.inl (by simpa using isPacket))
        | false => exact .inr (.inl (by simpa using isPacket))
      · exact (ih delivered.tail later).imp .inr .inr

end CppMMO.Game.Managers
