import CppMMO.Game.Managers.GameManagerProperties
import CppMMO.Game.Spatial.QuadTreeProperties

/-! The quad tree is an exact index of the active players, in every state the game
thread can reach. -/

set_option autoImplicit false

namespace CppMMO.Game.Models

def World.activePosition (world : World) (id : PlayerId) : Option Vec3 :=
  (world.getPlayer id).bind fun player => if player.isActive then some player.position else none

theorem World.activePosition_eq_some_iff (world : World) (id : PlayerId) (position : Vec3) :
    world.activePosition id = some position ↔
      ∃ player, world.getPlayer id = some player ∧ player.isActive = true ∧
        player.position = position := by
  unfold World.activePosition
  cases world.getPlayer id with
  | none => simp
  | some player => cases active : player.isActive <;> simp [active]

theorem World.isSome_activePosition_iff (world : World) (id : PlayerId) :
    (world.activePosition id).isSome = true ↔ world.Active id := by
  rw [Option.isSome_iff_exists]
  constructor
  · rintro ⟨position, located⟩
    obtain ⟨player, found, active, -⟩ := (activePosition_eq_some_iff _ _ _).mp located
    exact ⟨player, found, active⟩
  · rintro ⟨player, found, active⟩
    exact ⟨player.position, (activePosition_eq_some_iff _ _ _).mpr ⟨player, found, active, rfl⟩⟩

theorem World.activePosition_congr {world other : World} {id : PlayerId}
    (same : other.getPlayer id = world.getPlayer id) :
    other.activePosition id = world.activePosition id := by
  unfold World.activePosition
  rw [same]

end CppMMO.Game.Models

namespace CppMMO.Game.Managers

open CppMMO.Lib CppMMO.Protocol CppMMO.Game.Models CppMMO.Game.Spatial

/-- The invariant that ties the world to the index. Inactive players keep a valid
position too: it is where they are inserted again when they come back. -/
structure GameManager.Indexed (config : GameConfig) (manager : GameManager) : Prop where
  config_eq : manager.config = config
  bounds_eq : manager.quadTree.root.bounds = ⟨0, 0, config.mapWidth, config.mapHeight⟩
  represents : manager.quadTree.Represents manager.world.activePosition
  inside : ∀ id player, manager.world.getPlayer id = some player →
    config.IsValidPosition player.position

theorem contains_of_isValidPosition {config : GameConfig} {position : Vec3}
    (valid : config.IsValidPosition position) :
    Bounds.Contains ⟨0, 0, config.mapWidth, config.mapHeight⟩ position := by
  obtain ⟨left, right, bottom, top⟩ := valid
  exact ⟨left, by simpa using right, bottom, by simpa using top⟩

namespace GameManager.Indexed

variable {config : GameConfig} {manager : GameManager}

theorem create (created : GameManager.create? config = some manager) : Indexed config manager := by
  obtain ⟨quadTree, built, rfl⟩ := Option.map_eq_some_iff.mp created
  refine ⟨rfl, ?_, ?_, ?_⟩
  · unfold QuadTree.create? at built
    split at built
    · cases built
    · cases built
      rfl
  · exact (QuadTree.Represents.create built).congr fun id => by
      simp [World.activePosition]
  · intro id player found
    simp at found

theorem congr {other : GameManager} (indexed : Indexed config manager)
    (sameConfig : other.config = manager.config) (sameTree : other.quadTree = manager.quadTree)
    (same : manager.world.Same other.world) : Indexed config other where
  config_eq := sameConfig.trans indexed.config_eq
  bounds_eq := sameTree ▸ indexed.bounds_eq
  represents := sameTree ▸ indexed.represents.congr fun id => World.activePosition_congr (same id)
  inside := fun id player found => indexed.inside id player ((same id).symm.trans found)

theorem of_sameScene {other : GameManager} (indexed : Indexed config manager)
    (same : SameScene manager other) : Indexed config other :=
  indexed.congr same.config_eq same.quadTree_eq fun id => by rw [same.world_eq]

theorem contains (indexed : Indexed config manager) {position : Vec3}
    (valid : config.IsValidPosition position) :
    Bounds.Contains manager.quadTree.root.bounds position :=
  indexed.bounds_eq ▸ contains_of_isValidPosition valid

theorem fresh (world : World) {id : PlayerId} (inactive : ¬ world.Active id) :
    world.activePosition id = none := by
  rw [← World.isSome_activePosition_iff] at inactive
  simpa using inactive

theorem place {other : GameManager} (indexed : Indexed config manager) (id : PlayerId)
    (player : Player) (sameConfig : other.config = manager.config)
    (written : ∀ otherId, other.world.getPlayer otherId =
      if otherId = id then some player else manager.world.getPlayer otherId)
    (active : player.isActive = true) (valid : config.IsValidPosition player.position)
    (placed : other.quadTree.Represents
        (Function.update manager.world.activePosition id (some player.position)) ∧
      other.quadTree.root.bounds = manager.quadTree.root.bounds) :
    Indexed config other where
  config_eq := sameConfig.trans indexed.config_eq
  bounds_eq := placed.2.trans indexed.bounds_eq
  represents := placed.1.congr fun otherId => by
    by_cases same : otherId = id
    · subst same
      rw [Function.update_self, World.activePosition_eq_some_iff]
      exact ⟨player, by simp [written], active, rfl⟩
    · rw [Function.update_of_ne same]
      exact World.activePosition_congr (by simp [written, same])
  inside := fun otherId otherPlayer found => by
    rw [written] at found
    split at found
    · cases found
      exact valid
    · exact indexed.inside otherId otherPlayer found

theorem withInput (indexed : Indexed config manager) (data : PlayerInputCommandData)
    (later : TimePoint) : Indexed config (manager.withInput data later) where
  config_eq := indexed.config_eq
  bounds_eq := indexed.bounds_eq
  represents := indexed.represents.congr fun id => by
    unfold World.activePosition
    rw [getPlayer_withInput]
    split
    · next same =>
        subst same
        cases manager.world.getPlayer data.playerId <;> rfl
    · rfl
  inside := fun id player found => by
    rw [getPlayer_withInput] at found
    split at found
    · obtain ⟨before, foundBefore, rfl⟩ := Option.map_eq_some_iff.mp found
      exact indexed.inside _ before foundBefore
    · exact indexed.inside id player found

theorem withReentered (indexed : Indexed config manager) {data : EnterZoneCommandData}
    {player : Player} (found : manager.world.getPlayer data.playerId = some player)
    (inactive : player.isActive = false) (now : TimePoint) :
    Indexed config (manager.withReentered data player.position now) := by
  have valid : config.IsValidPosition player.position := indexed.inside _ player found
  have absent : manager.world.activePosition data.playerId = none :=
    fresh _ fun ⟨other, foundOther, active⟩ => by
      rw [found] at foundOther
      cases foundOther
      simp [inactive] at active
  refine indexed.place data.playerId
    { player.setActive true now with sessionId := data.sessionId } rfl (fun id => ?_) rfl valid
    (indexed.represents.insert absent (indexed.contains valid))
  rw [getPlayer_withReentered, found, Option.map_some]

theorem withSpawned (indexed : Indexed config manager) {data : EnterZoneCommandData}
    (absent : manager.world.getPlayer data.playerId = none) {spawnPosition : Vec3}
    (spawns : config.Spawns spawnPosition) :
    Indexed config (manager.withSpawned data spawnPosition) := by
  have free : manager.world.activePosition data.playerId = none := by
    simp [World.activePosition, absent]
  exact indexed.place _ _ rfl (getPlayer_withSpawned manager data spawnPosition) rfl
    spawns.isValidPosition
    (indexed.represents.insert free (indexed.contains spawns.isValidPosition))

theorem withDisconnected (indexed : Indexed config manager) (id : PlayerId) (now : TimePoint) :
    Indexed config (manager.withDisconnected id now) where
  config_eq := indexed.config_eq
  bounds_eq := (indexed.represents.remove id).2.trans indexed.bounds_eq
  represents := (indexed.represents.remove id).1.congr fun other => by
    by_cases same : other = id
    · subst same
      rw [Function.update_self]
      unfold World.activePosition
      rw [getPlayer_withDisconnected, if_pos rfl]
      cases manager.world.getPlayer other <;> rfl
    · rw [Function.update_of_ne same]
      exact World.activePosition_congr (by rw [getPlayer_withDisconnected, if_neg same])
  inside := fun other player found => by
    rw [getPlayer_withDisconnected] at found
    split at found
    · obtain ⟨before, foundBefore, rfl⟩ := Option.map_eq_some_iff.mp found
      exact indexed.inside _ before foundBefore
    · exact indexed.inside other player found

theorem processGameCommand (indexed : Indexed config manager) (command : GameCommand)
    (sessionFound : Bool) {spawnPosition : Vec3} (spawns : config.Spawns spawnPosition)
    (now later : TimePoint) :
    Indexed config (manager.processGameCommand command sessionFound spawnPosition now later).1 := by
  have outcome := manager.processGameCommand_outcome command sessionFound spawnPosition now later
  generalize manager.processGameCommand command sessionFound spawnPosition now later = result
    at outcome ⊢
  cases outcome with
  | dropped => exact indexed
  | input payload registered found allowed newer => exact indexed.withInput _ later
  | reentered payload registered found inactive => exact indexed.withReentered found inactive now
  | spawned payload registered absent => exact indexed.withSpawned absent spawns
  | disconnected payload found => exact indexed.withDisconnected _ now

theorem moved_isValidPosition {player : Player} (valid : config.IsValidPosition player.position)
    (deltaTime : ℚ) : config.IsValidPosition (moved config deltaTime player).position := by
  unfold moved
  split
  · next accepted => exact accepted.2
  · exact valid

theorem updatePlayer (indexed : Indexed config manager) (deltaTime : ℚ) (id : PlayerId) :
    Indexed config (manager.updatePlayer deltaTime id) := by
  cases found : manager.world.getPlayer id with
  | none =>
      rw [updatePlayer_of_absent deltaTime found]
      exact indexed
  | some player =>
      cases active : player.isActive with
      | false =>
          rw [updatePlayer_of_inactive deltaTime found active]
          exact indexed
      | true =>
          have valid := moved_isValidPosition (indexed.inside id player found) deltaTime
          refine indexed.place id _ (config_updatePlayer deltaTime manager id)
            (fun other => ?_) ((moved_isActive config deltaTime player).trans active) valid ?_
          · rw [getPlayer_updatePlayer, found, Option.map_some, indexed.config_eq]
          · rw [updatePlayer_of_active deltaTime found active, indexed.config_eq]
            exact indexed.represents.update (indexed.contains valid)

theorem updateWorld (indexed : Indexed config manager) (deltaTime : ℚ) :
    Indexed config (manager.updateWorld deltaTime) := by
  -- One iteration preserves the invariant, so the whole loop does.
  have loop : ∀ (ids : List PlayerId) (current : GameManager), Indexed config current →
      Indexed config (ids.foldl (GameManager.updatePlayer deltaTime) current) := by
    intro ids
    induction ids with
    | nil => exact fun _ currentIndexed => currentIndexed
    | cons id rest ih =>
        exact fun current currentIndexed => ih _ (currentIndexed.updatePlayer deltaTime id)
  exact loop _ _ indexed

theorem step (indexed : Indexed config manager) {event : Event} (valid : manager.Valid event) :
    Indexed config (manager.step event).1 := by
  cases event with
  | processGameCommand command sessionFound spawnPosition now later delivered =>
      exact indexed.processGameCommand command sessionFound (indexed.config_eq ▸ valid) now later
  | updateWorld deltaTime => exact indexed.updateWorld deltaTime
  | sendWorldSnapshots serverTime =>
      exact indexed.of_sameScene (sendWorldSnapshots_sameScene manager serverTime)
  | flushAllBatches delivered => exact indexed.of_sameScene (flushAllBatches_sameScene manager)
  | rehash players playerBatches =>
      exact indexed.congr rfl rfl fun id => valid.1.find?_eq id

theorem run {moments : List Moment} {finish : GameManager} (indexed : Indexed config manager)
    (taken : Run Moment.Happens manager moments finish) : Indexed config finish := by
  refine taken.preserves (Indexed config) ?_ indexed
  intro before moment after beforeIndexed happens
  have stepped := beforeIndexed.step happens.valid
  rwa [happens.step_eq] at stepped

theorem of_trace {moments : List Moment} {finish : GameManager}
    (trace : Trace config moments finish) : Indexed config finish := by
  obtain ⟨start, created, taken⟩ := trace
  exact (create created).run taken

theorem mem_query_iff (indexed : Indexed config manager) (center : Vec3) (radius : ℚ)
    (id : PlayerId) :
    id ∈ manager.quadTree.query center radius ↔
      ∃ player, manager.world.getPlayer id = some player ∧ player.isActive = true ∧
        player.position.distSqXY center ≤ radius * radius := by
  rw [indexed.represents.mem_query_iff]
  constructor
  · rintro ⟨position, located, close⟩
    obtain ⟨player, found, active, rfl⟩ := (World.activePosition_eq_some_iff _ _ _).mp located
    exact ⟨player, found, active, close⟩
  · rintro ⟨player, found, active, close⟩
    exact ⟨player.position,
      (World.activePosition_eq_some_iff _ _ _).mpr ⟨player, found, active, rfl⟩, close⟩

/-- The ids that `S_ZoneEntered` lists are the query result without the player itself. -/
theorem nearPlayerInfos_ids (indexed : Indexed config manager) (playerId : PlayerId)
    (position : Vec3) :
    (manager.nearPlayerInfos playerId position).map (·.playerId) =
      (manager.getPlayersInAOI position).filter (· ≠ playerId) := by
  have known : ∀ id ∈ manager.getPlayersInAOI position,
      (manager.world.getPlayer id).isSome := fun id member => by
    obtain ⟨player, found, -⟩ := (indexed.mem_query_iff _ _ id).mp member
    simp [found]
  unfold nearPlayerInfos
  generalize manager.getPlayersInAOI position = listed at known
  induction listed with
  | nil => rfl
  | cons id rest ih =>
      have ihRest := ih fun other member => known other (List.mem_cons_of_mem id member)
      obtain ⟨player, found⟩ := Option.isSome_iff_exists.mp (known id List.mem_cons_self)
      by_cases same : id = playerId
      · simpa [same] using ihRest
      · simpa [same, found, zoneInfo] using ihRest

end GameManager.Indexed

/-- What it means for the tree to index exactly the active players. -/
structure GameManager.ExactIndex (manager : GameManager) : Prop where
  playerPositions : ∀ id position, manager.quadTree.playerPositions.find? id = some position ↔
    ∃ player, manager.world.getPlayer id = some player ∧ player.isActive = true ∧
      player.position = position
  once : ∀ id, manager.world.Active id →
    (manager.quadTree.root.leaves.flatMap Prod.snd).count id = 1
  leafContains : ∀ bounds playerIds, (bounds, playerIds) ∈ manager.quadTree.root.leaves →
    ∀ id ∈ playerIds, ∃ player, manager.world.getPlayer id = some player ∧
      player.isActive = true ∧ Bounds.Contains bounds player.position
  inactive : ∀ id, ¬ manager.world.Active id →
    ∀ leaf ∈ manager.quadTree.root.leaves, id ∉ leaf.2
  query : ∀ center radius, (manager.quadTree.query center radius).Nodup ∧
    ∀ id, id ∈ manager.quadTree.query center radius ↔
      ∃ player, manager.world.getPlayer id = some player ∧ player.isActive = true ∧
        player.position.distSqXY center ≤ radius * radius
  playersInAOI : ∀ position, (manager.getPlayersInAOI position).Nodup ∧
    ∀ id, id ∈ manager.getPlayersInAOI position ↔
      ∃ player, manager.world.getPlayer id = some player ∧ player.isActive = true ∧
        player.position.distSqXY position ≤ manager.config.aoiRange * manager.config.aoiRange
  zoneEntered : ∀ playerId session request zone self others,
    request ∈ manager.sendEnterZoneResponse playerId session →
    .zoneEntered zone self others ∈ request.packets →
    ∃ entered, manager.world.getPlayer playerId = some entered ∧
      (others.map (·.playerId)).Nodup ∧
      ∀ id, id ∈ others.map (·.playerId) ↔
        id ≠ playerId ∧ ∃ player, manager.world.getPlayer id = some player ∧
          player.isActive = true ∧ player.position.distSqXY entered.position ≤
            manager.config.aoiRange * manager.config.aoiRange

theorem GameManager.Indexed.exactIndex {config : GameConfig} {manager : GameManager}
    (indexed : Indexed config manager) : manager.ExactIndex := by
  have represents := indexed.represents
  have leafIds := represents.placed.ids_eq_leaves
  refine ⟨?_, ?_, ?_, ?_, ?_, ?_, ?_⟩
  · intro id position
    rw [represents.positions, World.activePosition_eq_some_iff]
  · intro id active
    rw [← leafIds]
    exact List.count_eq_one_of_mem represents.nodup
      ((represents.mem_iff id).mpr ((World.isSome_activePosition_iff _ _).mpr active))
  · intro bounds playerIds isLeaf id member
    obtain ⟨position, found, inside⟩ := represents.placed.leaf_contains isLeaf member
    rw [represents.positions, World.activePosition_eq_some_iff] at found
    obtain ⟨player, foundPlayer, active, rfl⟩ := found
    exact ⟨player, foundPlayer, active, inside⟩
  · intro id notActive leaf isLeaf member
    have listed : id ∈ manager.quadTree.root.ids :=
      leafIds ▸ List.mem_flatMap.mpr ⟨leaf, isLeaf, member⟩
    exact notActive ((World.isSome_activePosition_iff _ _).mp ((represents.mem_iff id).mp listed))
  · exact fun center radius =>
      ⟨represents.query_nodup center radius, indexed.mem_query_iff center radius⟩
  · exact fun position => ⟨represents.query_nodup position _, indexed.mem_query_iff position _⟩
  · intro playerId session request zone self others isRequest isPacket
    unfold GameManager.sendEnterZoneResponse at isRequest
    cases found : manager.world.getPlayer playerId with
    | none => simp [found] at isRequest
    | some entered =>
        simp only [found, List.mem_singleton] at isRequest
        subst isRequest
        simp only [List.mem_singleton, ServerPacket.zoneEntered.injEq] at isPacket
        obtain ⟨-, -, rfl⟩ := isPacket
        refine ⟨entered, rfl, ?_, fun id => ?_⟩
        · rw [indexed.nearPlayerInfos_ids]
          exact (represents.query_nodup entered.position _).filter _
        · rw [indexed.nearPlayerInfos_ids, List.mem_filter, GameManager.getPlayersInAOI,
            indexed.mem_query_iff, and_comm, decide_eq_true_eq]

/-- Every state the game thread reaches, on every map it can be constructed for. -/
theorem quadTree_exactIndex {config : GameConfig} {moments : List Moment} {finish : GameManager}
    (trace : Trace config moments finish) : finish.ExactIndex :=
  (GameManager.Indexed.of_trace trace).exactIndex

/-- Five players spawn in one quarter of the map, which splits the root; one of them
walks and one leaves. -/
def splittingEvents : List Event :=
  let command (payload : GameCommandPayload) (sender : SessionId) : Event :=
    .processGameCommand ⟨payload, sender⟩ true ⟨20, 20, 0⟩ 50000000 50000000 []
  [.enterZone 1 1 ⟨20, 20, 0⟩ [], .enterZone 2 2 ⟨30, 20, 0⟩ [], .enterZone 3 3 ⟨20, 30, 0⟩ [],
    .enterZone 4 4 ⟨99, 99, 0⟩ [], .enterZone 5 5 ⟨60, 70, 0⟩ [],
    command (.playerInput ⟨4, 9, 1⟩) 4, .updateWorld (1 / 2), .sendWorldSnapshots 0,
    command (.playerDisconnect ⟨1⟩) 1]

theorem quadTree_exactIndex_after_split :
    ∃ moments finish, trace? {} splittingEvents = some (moments, finish) ∧ finish.ExactIndex ∧
      finish.quadTree.root.leaves.length = 7 ∧
      finish.quadTree.query ⟨25, 25, 0⟩ 10 = [3, 2] := by
  have executed : (trace? {} splittingEvents).map (fun result =>
      (result.2.quadTree.root.leaves.length, result.2.quadTree.query ⟨25, 25, 0⟩ 10)) =
        some (7, [3, 2]) := by decide +kernel
  obtain ⟨⟨moments, finish⟩, followed, same⟩ := Option.map_eq_some_iff.mp executed
  obtain ⟨leaves, queried⟩ := Prod.mk.injEq _ _ _ _ ▸ same
  exact ⟨moments, finish, followed, quadTree_exactIndex (trace_of_trace? followed), leaves, queried⟩

end CppMMO.Game.Managers
