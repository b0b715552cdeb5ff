import CppMMO.Common.Protocol
import CppMMO.Game.Models.World
import CppMMO.Game.Spatial.QuadTree

/-! The game manager: command handlers, the world update, snapshots and batches.

What a handler does to the manager's own state is a pure function. Packets that it
hands to sessions are returned as `Outgoing` requests: whether a request reaches a
write queue depends on the session registry and the socket at that moment, which
other threads change. Clock readings and spawn positions are arguments. -/

set_option autoImplicit false

namespace CppMMO.Game.Managers

open CppMMO.Lib CppMMO.Protocol CppMMO.Game.Models CppMMO.Game.Spatial

structure AOICache where
  visiblePlayers : List PlayerId := []
  lastUpdateTick : Nat := 0
  lastPosition : Vec3 := {}
deriving DecidableEq

/-- The parameters that `LoadGameConfig` sets and the game logic reads. -/
structure GameConfig where
  aoiRange : ℚ := 100
  moveSpeed : ℚ := 5
  mapWidth : ℚ := 200
  mapHeight : ℚ := 200
deriving DecidableEq

/-- The tick counter is a natural number: 2^64 ticks are out of reach. -/
structure GameManager where
  config : GameConfig
  world : World
  quadTree : QuadTree
  tickNumber : Nat := 0
  playerBatches : UnorderedMap PlayerId (List ServerPacket) := .empty
  aoiCache : UnorderedMap PlayerId AOICache := .empty

/-- Packets for one session. With `lookup` the session is first looked up in the
session manager; without, the handler already holds it. Either way nothing is sent
unless it is connected. -/
structure Outgoing where
  session : SessionId
  lookup : Bool
  packets : List ServerPacket
deriving DecidableEq

def aoiUpdateInterval : Nat := 3
def aoiPositionThreshold : ℚ := 10

/-- `GetSpawnPosition` draws from this rectangle. -/
def GameConfig.Spawns (config : GameConfig) (position : Vec3) : Prop :=
  20 ≤ position.x ∧ position.x ≤ config.mapWidth - 20 ∧
    20 ≤ position.y ∧ position.y ≤ config.mapHeight - 20 ∧ position.z = 0

instance (config : GameConfig) (position : Vec3) : Decidable (config.Spawns position) :=
  inferInstanceAs (Decidable (_ ∧ _ ∧ _ ∧ _ ∧ _))

def GameConfig.IsValidPosition (config : GameConfig) (position : Vec3) : Prop :=
  position.x ≥ 0 ∧ position.x < config.mapWidth ∧
    position.y ≥ 0 ∧ position.y < config.mapHeight

instance (config : GameConfig) (position : Vec3) : Decidable (config.IsValidPosition position) :=
  inferInstanceAs (Decidable (_ ∧ _ ∧ _ ∧ _))

def playerName (playerId : PlayerId) : String := "Player_" ++ toString playerId.toNat

/-- The movement direction of the low four flag bits: W, S, A, D. -/
def inputFlagsToDirection (inputFlags : UInt8) : Vec3 :=
  match (inputFlags &&& 0x0F).toNat with
  | 1 => ⟨0, 1, 0⟩
  | 2 => ⟨0, -1, 0⟩
  | 4 => ⟨-1, 0, 0⟩
  | 5 => ⟨-0.7071067, 0.7071067, 0⟩
  | 6 => ⟨-0.7071067, -0.7071067, 0⟩
  | 7 => ⟨-1, 0, 0⟩
  | 8 => ⟨1, 0, 0⟩
  | 9 => ⟨0.7071067, 0.7071067, 0⟩
  | 10 => ⟨0.7071067, -0.7071067, 0⟩
  | 11 => ⟨1, 0, 0⟩
  | 13 => ⟨0, 1, 0⟩
  | 14 => ⟨0, -1, 0⟩
  | _ => ⟨0, 0, 0⟩

namespace GameManager

def create? (config : GameConfig) : Option GameManager :=
  (QuadTree.create? 0 0 config.mapWidth config.mapHeight).map fun quadTree =>
    { config, world := .empty, quadTree }

/-- One iteration of the loop in `UpdateWorld`. -/
def updatePlayer (deltaTime : ℚ) (manager : GameManager) (playerId : PlayerId) : GameManager :=
  match manager.world.getPlayer playerId with
  | none => manager
  | some player =>
      if player.isActive then
        let newPos := player.position + player.velocity * deltaTime
        let position := if manager.config.IsValidPosition newPos then newPos else player.position
        { manager with
          world := manager.world.modifyPlayer playerId ({ · with position })
          quadTree := manager.quadTree.update playerId position }
      else manager

def updateWorld (manager : GameManager) (deltaTime : ℚ) : GameManager :=
  let manager := { manager with world := manager.world.update deltaTime }
  manager.world.players.keys.foldl (updatePlayer deltaTime) manager

def getPlayersInAOI (manager : GameManager) (position : Vec3) : List PlayerId :=
  manager.quadTree.query position manager.config.aoiRange

/-- The distance moved is compared squared, so that no square root is needed: the
threshold is positive. -/
def shouldUpdateAOI (manager : GameManager) (playerId : PlayerId) (currentPosition : Vec3) : Bool :=
  match manager.aoiCache.find? playerId with
  | none => true
  | some cache =>
      manager.tickNumber - cache.lastUpdateTick ≥ aoiUpdateInterval ||
        currentPosition.distSqXY cache.lastPosition ≥ aoiPositionThreshold * aoiPositionThreshold

def updateAOICache (manager : GameManager) (playerId : PlayerId) (position : Vec3)
    (visiblePlayers : List PlayerId) : GameManager :=
  { manager with
    aoiCache := manager.aoiCache.assign playerId
      { visiblePlayers, lastUpdateTick := manager.tickNumber, lastPosition := position } }

def getCachedPlayersInAOI (manager : GameManager) (playerId : PlayerId) (position : Vec3) :
    GameManager × List PlayerId :=
  let queried := manager.getPlayersInAOI position
  if manager.shouldUpdateAOI playerId position then
    (manager.updateAOICache playerId position queried, queried)
  else
    match manager.aoiCache.find? playerId with
    | some cache => (manager, cache.visiblePlayers)
    | none => (manager.updateAOICache playerId position queried, queried)

/-- The source passes the activity flag where the schema has the rotation, and leaves
the remaining state fields at their defaults. -/
def snapshotState (visiblePlayerId : PlayerId) (player : Player) : PlayerState :=
  { playerId := visiblePlayerId, position := some player.position,
    velocity := some player.velocity, rotation := if player.isActive then 1 else 0 }

def snapshotFor (manager : GameManager) (visiblePlayers : List PlayerId) (serverTime : Nat) :
    WorldSnapshot :=
  { tickNumber := manager.tickNumber, serverTime,
    playerStates := visiblePlayers.filterMap fun visiblePlayerId =>
      (manager.world.getPlayer visiblePlayerId).map (snapshotState visiblePlayerId) }

def addToPlayerBatch (manager : GameManager) (playerId : PlayerId) (packet : ServerPacket) :
    GameManager :=
  let (batches, packets) := manager.playerBatches.subscript playerId []
  { manager with playerBatches := batches.assign playerId (packets ++ [packet]) }

/-- One iteration of the loop in `SendWorldSnapshots`, with the snapshot it batches. -/
def snapshotPlayer (serverTime : Nat) (manager : GameManager) (playerId : PlayerId) :
    GameManager × List (PlayerId × WorldSnapshot) :=
  match manager.world.getPlayer playerId with
  | none => (manager, [])
  | some player =>
      if player.isActive then
        let (manager, visiblePlayers) := manager.getCachedPlayersInAOI playerId player.position
        let snapshot := manager.snapshotFor visiblePlayers serverTime
        (manager.addToPlayerBatch playerId (.worldSnapshot snapshot), [(playerId, snapshot)])
      else (manager, [])

def snapshotPlayers (serverTime : Nat) :
    List PlayerId → GameManager → GameManager × List (PlayerId × WorldSnapshot)
  | [], manager => (manager, [])
  | playerId :: rest, manager =>
      let (manager, batched) := snapshotPlayer serverTime manager playerId
      let (manager, others) := snapshotPlayers serverTime rest manager
      (manager, batched ++ others)

def sendWorldSnapshots (manager : GameManager) (serverTime : Nat) :
    GameManager × List (PlayerId × WorldSnapshot) :=
  let manager := { manager with tickNumber := manager.tickNumber + 1 }
  snapshotPlayers serverTime manager.world.players.keys manager

/-- Every batch is emptied, whether or not its player and session are still there. -/
def flushAllBatches (manager : GameManager) : GameManager × List Outgoing :=
  let outgoing := manager.playerBatches.toList.filterMap fun (playerId, packets) =>
    if packets = [] then none
    else (manager.world.getPlayer playerId).map fun player =>
      { session := player.sessionId, lookup := true, packets }
  let emptied := manager.playerBatches.keys.foldl
    (fun batches playerId => batches.modify playerId fun _ => []) manager.playerBatches
  ({ manager with playerBatches := emptied }, outgoing)

/-- `S_ZoneEntered` names 100 hit points whatever the players have. -/
def zoneInfo (playerId : PlayerId) (player : Player) : PlayerInfo :=
  { playerId, name := playerName playerId, position := some player.position,
    hp := 100, maxHp := 100 }

def nearPlayerInfos (manager : GameManager) (playerId : PlayerId) (position : Vec3) :
    List PlayerInfo :=
  (manager.getPlayersInAOI position).filterMap fun nearPlayerId =>
    if nearPlayerId = playerId then none
    else (manager.world.getPlayer nearPlayerId).map (zoneInfo nearPlayerId)

def sendEnterZoneResponse (manager : GameManager) (playerId : PlayerId) (session : SessionId) :
    List Outgoing :=
  match manager.world.getPlayer playerId with
  | none => []
  | some player =>
      [{ session, lookup := false, packets :=
        [.zoneEntered 1 (zoneInfo playerId player)
          (manager.nearPlayerInfos playerId player.position)] }]

/-- One request for every other active player, to the session it entered with. -/
def broadcast (manager : GameManager) (playerId : PlayerId) (packet : ServerPacket) :
    List Outgoing :=
  manager.world.getAllPlayers.filterMap fun (otherPlayerId, otherPlayer) =>
    if otherPlayerId ≠ playerId ∧ otherPlayer.isActive then
      some { session := otherPlayer.sessionId, lookup := true, packets := [packet] }
    else none

def joinedInfo (playerId : PlayerId) (player : Player) : PlayerInfo :=
  { playerId, name := playerName playerId, position := some player.position,
    hp := player.hp, maxHp := player.maxHp }

def broadcastPlayerJoined (manager : GameManager) (playerId : PlayerId) : List Outgoing :=
  match manager.world.getPlayer playerId with
  | none => []
  | some player => manager.broadcast playerId (.playerJoined (joinedInfo playerId player))

def broadcastPlayerLeft (manager : GameManager) (playerId : PlayerId) : List Outgoing :=
  manager.broadcast playerId (.playerLeft playerId)

/-- `now` is the clock reading of the rate check, `later` the one that is stored. -/
def handlePlayerInput (manager : GameManager) (data : PlayerInputCommandData)
    (now later : TimePoint) : GameManager :=
  match manager.world.getPlayer data.playerId with
  | none => manager
  | some player =>
      if ¬ player.isInputAllowed now then manager
      else if data.sequenceNumber ≤ player.lastInputSequence then manager
      else
        { manager with world := manager.world.modifyPlayer data.playerId fun player =>
          { player.updateLastInputTime later with
            lastInputSequence := data.sequenceNumber
            currentInputFlags := data.inputFlags
            velocity := inputFlagsToDirection data.inputFlags * manager.config.moveSpeed } }

def announceEntry (manager : GameManager) (playerId : PlayerId) (session : SessionId) :
    GameManager × List Outgoing :=
  (manager, manager.sendEnterZoneResponse playerId session ++
    manager.broadcastPlayerJoined playerId)

def handleEnterZone (manager : GameManager) (data : EnterZoneCommandData) (session : SessionId)
    (spawnPosition : Vec3) (now : TimePoint) : GameManager × List Outgoing :=
  match manager.world.getPlayer data.playerId with
  | some player =>
      if player.isActive then (manager, [])
      else
        announceEntry { manager with
          world := manager.world.modifyPlayer data.playerId fun player =>
            { player.setActive true now with sessionId := data.sessionId }
          quadTree := manager.quadTree.insert data.playerId player.position }
          data.playerId session
  | none =>
      let newPlayer := { Player.create data.playerId (playerName data.playerId) spawnPosition with
        sessionId := data.sessionId }
      announceEntry { manager with
        world := manager.world.addPlayer newPlayer
        quadTree := manager.quadTree.insert data.playerId spawnPosition }
        data.playerId session

def handlePlayerDisconnect (manager : GameManager) (data : PlayerDisconnectCommandData)
    (now : TimePoint) : GameManager × List Outgoing :=
  match manager.world.getPlayer data.playerId with
  | none => (manager, [])
  | some _ =>
      let manager := { manager with
        world := manager.world.modifyPlayer data.playerId fun player =>
          { player.setActive false now with lastInputSequence := 0 }
        quadTree := manager.quadTree.remove data.playerId }
      (manager, manager.broadcastPlayerLeft data.playerId)

/-- A disconnect is handled without looking its session up; any other command is
dropped when the sender is no longer registered. -/
def processGameCommand (manager : GameManager) (command : GameCommand) (sessionFound : Bool)
    (spawnPosition : Vec3) (now later : TimePoint) : GameManager × List Outgoing :=
  match command.payload with
  | .playerDisconnect data => manager.handlePlayerDisconnect data now
  | .playerInput data =>
      if sessionFound then (manager.handlePlayerInput data now later, []) else (manager, [])
  | .enterZone data =>
      if sessionFound then manager.handleEnterZone data command.senderSessionId spawnPosition now
      else (manager, [])
  | .playerSpawn _ => (manager, [])

end GameManager

end CppMMO.Game.Managers
