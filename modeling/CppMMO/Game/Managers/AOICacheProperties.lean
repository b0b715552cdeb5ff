import CppMMO.Game.Managers.VisibilityProperties

/-! Where the list in a snapshot comes from: a query of the same player at most two
ticks and less than the position threshold away. -/

set_option autoImplicit false

namespace CppMMO.Game.Managers

open CppMMO.Lib CppMMO.Protocol CppMMO.Game.Models CppMMO.Game.Spatial

namespace Moment

/-- The snapshot stage of this moment queries the surroundings of the player and stores
the answer as `cache`. -/
structure Asks (moment : Moment) (id : PlayerId) (cache : AOICache) : Prop where
  stage : moment.event.isSendWorldSnapshots = true
  requeried : moment.before.ticked.Requeried id cache

namespace Happens

variable {before after : GameManager} {moment : Moment}

theorem cached_or_asks (happens : moment.Happens before after) {id : PlayerId} {cache : AOICache}
    (cached : after.aoiCache.find? id = some cache) :
    before.aoiCache.find? id = some cache ∨ moment.Asks id cache := by
  obtain rfl := happens.before_eq
  rw [happens.after_eq_step] at cached
  cases taken : moment.event with
  | processGameCommand command sessionFound spawnPosition now later delivered =>
      rw [taken] at cached
      exact .inl ((moment.before.processGameCommand_sameTick command sessionFound spawnPosition
        now later).cache_eq ▸ cached)
  | updateWorld deltaTime =>
      rw [taken] at cached
      exact .inl ((moment.before.updateWorld_sameTick deltaTime).cache_eq ▸ cached)
  | sendWorldSnapshots serverTime =>
      rw [taken] at cached
      exact (GameManager.aoiCache_sendWorldSnapshots cached).imp_right fun requeried =>
        ⟨by rw [taken]; rfl, requeried⟩
  | flushAllBatches delivered =>
      rw [taken] at cached
      exact .inl cached
  | rehash players playerBatches =>
      rw [taken] at cached
      exact .inl cached

theorem batched_for (happens : moment.Happens before after)
    (stage : moment.event.isSendWorldSnapshots = true) {id : PlayerId}
    (member : id ∈ before.world.players.keys) :
    ∃ serverTime, moment.outputs.batched.filter (·.1 = id) =
      ((before.ticked.snapshotOf serverTime id).map (id, ·)).toList := by
  obtain ⟨serverTime, taken⟩ := Event.exists_of_isSendWorldSnapshots stage
  refine ⟨serverTime, ?_⟩
  rw [happens.outputs_eq_step, taken, ← GameManager.snapshotPlayers_batched_for serverTime
    (UnorderedMap.keys_nodup before.world.players) before.ticked member]
  rfl

end Happens

end Moment

namespace GameManager

theorem isSome_getPlayer_processGameCommand {manager : GameManager} {id : PlayerId}
    (known : (manager.world.getPlayer id).isSome) (command : GameCommand) (sessionFound : Bool)
    (spawnPosition : Vec3) (now later : TimePoint) :
    ((manager.processGameCommand command sessionFound spawnPosition now
      later).1.world.getPlayer id).isSome := by
  have outcome := manager.processGameCommand_outcome command sessionFound spawnPosition now later
  generalize manager.processGameCommand command sessionFound spawnPosition now later = result
    at outcome
  cases outcome with
  | dropped => exact known
  | input payload registered found allowed newer =>
      rw [getPlayer_withInput]
      split <;> simp_all
  | @reentered data player payload registered found inactive =>
      change ((manager.withReentered data player.position now).world.getPlayer id).isSome
      rw [getPlayer_withReentered]
      split <;> simp_all
  | @spawned data payload registered absent =>
      change ((manager.withSpawned data spawnPosition).world.getPlayer id).isSome
      rw [getPlayer_withSpawned]
      split <;> simp_all
  | disconnected payload found =>
      rw [getPlayer_withDisconnected]
      split <;> simp_all

/-- No event takes a player out of the World. -/
theorem isSome_getPlayer_step {manager : GameManager} {id : PlayerId}
    (known : (manager.world.getPlayer id).isSome) {event : Event} (valid : manager.Valid event) :
    ((manager.step event).1.world.getPlayer id).isSome := by
  cases event with
  | processGameCommand command sessionFound spawnPosition now later delivered =>
      exact isSome_getPlayer_processGameCommand known command sessionFound spawnPosition now later
  | updateWorld deltaTime =>
      change ((manager.updateWorld deltaTime).world.getPlayer id).isSome
      rw [getPlayer_updateWorld]
      simpa using known
  | sendWorldSnapshots serverTime =>
      change ((manager.sendWorldSnapshots serverTime).1.world.getPlayer id).isSome
      rwa [(manager.sendWorldSnapshots_sameScene serverTime).world_eq]
  | flushAllBatches delivered => exact known
  | rehash players playerBatches =>
      change (players.find? id).isSome
      rwa [valid.1.find?_eq id]

end GameManager

/-- Every stored list is the answer to an earlier query, and names players of the World. -/
structure Remembers (past : List Moment) (manager : GameManager) : Prop where
  asked : ∀ id cache, manager.aoiCache.find? id = some cache →
    ∃ moment ∈ past, moment.Asks id cache
  known : ∀ id cache, manager.aoiCache.find? id = some cache →
    ∀ listed ∈ cache.visiblePlayers, (manager.world.getPlayer listed).isSome

theorem GameManager.Indexed.isSome_getPlayer_of_query {config : GameConfig}
    {manager : GameManager} (indexed : manager.Indexed config) {position : Vec3} {id : PlayerId}
    (listed : id ∈ manager.getPlayersInAOI position) : (manager.world.getPlayer id).isSome := by
  obtain ⟨player, found, -⟩ := (indexed.mem_query_iff _ _ id).mp listed
  simp [found]

theorem Remembers.step {config : GameConfig} {past : List Moment} {before after : GameManager}
    {moment : Moment} (remembers : Remembers past before) (indexed : before.Indexed config)
    (happens : moment.Happens before after) : Remembers (past ++ [moment]) after := by
  refine ⟨fun id cache cached => ?_, fun id cache cached listed member => ?_⟩
  · obtain stored | asks := happens.cached_or_asks cached
    · obtain ⟨asked, earlier, asks⟩ := remembers.asked id cache stored
      exact ⟨asked, List.mem_append_left _ earlier, asks⟩
    · exact ⟨moment, by simp, asks⟩
  · rw [happens.after_eq_step]
    refine GameManager.isSome_getPlayer_step ?_ happens.valid
    obtain stored | asks := happens.cached_or_asks cached
    · exact remembers.known id cache stored listed member
    · obtain ⟨player, -, -, -, rfl⟩ := asks.requeried
      rw [happens.before_eq] at member
      exact indexed.isSome_getPlayer_of_query member

theorem Remembers.of_trace {config : GameConfig} {moments : List Moment} {finish : GameManager}
    (trace : Trace config moments finish) : Remembers moments finish := by
  obtain ⟨start, created, run⟩ := trace
  have initially : Remembers [] start ∧ start.Indexed config := by
    refine ⟨?_, .create created⟩
    obtain ⟨quadTree, -, rfl⟩ := Option.map_eq_some_iff.mp created
    exact ⟨fun id cache cached => by simp at cached, fun id cache cached => by simp at cached⟩
  have holds := run.preserves_history
    (fun past manager => Remembers past manager ∧ manager.Indexed config) ?_ initially
  · exact holds.1
  · intro past before moment after ⟨remembers, indexed⟩ happens
    exact ⟨remembers.step indexed happens, indexed.run (.cons happens .nil)⟩

theorem snapshotFor_listed_ids {manager : GameManager} {visiblePlayers : List PlayerId}
    (serverTime : Nat)
    (known : ∀ id ∈ visiblePlayers, (manager.world.getPlayer id).isSome) :
    (manager.snapshotFor visiblePlayers serverTime).playerStates.map (·.playerId) =
      visiblePlayers := by
  simp only [GameManager.snapshotFor]
  induction visiblePlayers with
  | nil => rfl
  | cons id rest ih =>
      obtain ⟨player, found⟩ := Option.isSome_iff_exists.mp (known id List.mem_cons_self)
      have ihRest := ih fun other member => known other (List.mem_cons_of_mem id member)
      simp [found, GameManager.snapshotState, ihRest]

/-- The snapshot stage `asked` queried for the player, and `snapshot` lists its answer. -/
structure AnsweredBy (asked : Moment) (id : PlayerId) (asking : Player)
    (snapshot : WorldSnapshot) : Prop where
  stage : asked.event.isSendWorldSnapshots = true
  found : asked.before.world.getPlayer id = some asking
  active : asking.isActive = true
  due : asked.before.ticked.shouldUpdateAOI id asking.position = true
  listed : snapshot.playerStates.map (·.playerId) = asked.before.getPlayersInAOI asking.position

theorem AnsweredBy.lists_self {config : GameConfig} {past : List Moment} {asked : Moment}
    {id : PlayerId} {asking : Player} {snapshot : WorldSnapshot}
    (answered : AnsweredBy asked id asking snapshot) (trace : Trace config past asked.before) :
    id ∈ snapshot.playerStates.map (·.playerId) := by
  rw [answered.listed]
  refine ((GameManager.Indexed.of_trace trace).mem_query_iff _ _ id).mpr
    ⟨asking, answered.found, answered.active, ?_⟩
  simpa [Vec3.distSqXY] using mul_self_nonneg asked.before.config.aoiRange

/-- What is known of a list that is not due for an update. -/
theorem GameManager.recent_of_not_due {manager : GameManager} {id : PlayerId} {position : Vec3}
    {cache : AOICache} (cached : manager.aoiCache.find? id = some cache)
    (notDue : manager.shouldUpdateAOI id position = false) :
    manager.tickNumber - 2 ≤ cache.lastUpdateTick ∧
      position.distSqXY cache.lastPosition < 10 ^ 2 := by
  simp only [shouldUpdateAOI, cached, Bool.or_eq_false_iff, decide_eq_false_iff_not, not_le,
    ge_iff_le, aoiUpdateInterval, aoiPositionThreshold] at notDue
  refine ⟨by omega, ?_⟩
  rw [pow_two]
  exact notDue.2

/-- The list in a player's snapshot answers a query made for the same player at most two
ticks earlier and less than ten units away, whatever happened in between. -/
theorem snapshot_list_recent {config : GameConfig} {front back : List Moment} {shown : Moment}
    {finish : GameManager} (trace : Trace config (front ++ shown :: back) finish)
    (stage : shown.event.isSendWorldSnapshots = true) {id : PlayerId} {player : Player}
    (found : shown.before.world.getPlayer id = some player) (active : player.isActive = true) :
    ∃ snapshot, shown.outputs.batched.filter (·.1 = id) = [(id, snapshot)] ∧
      id ∈ snapshot.playerStates.map (·.playerId) ∧
      ∃ asked ∈ front ++ [shown], ∃ asking, AnsweredBy asked id asking snapshot ∧
        asked.before.ticked.tickNumber ≤ shown.before.ticked.tickNumber ∧
        shown.before.ticked.tickNumber - 2 ≤ asked.before.ticked.tickNumber ∧
        player.position.distSqXY asking.position < 10 ^ 2 := by
  obtain ⟨start, created, run⟩ := trace
  obtain ⟨before, after, first, happens, -⟩ := run.split_at
  obtain rfl := happens.before_eq
  have traceFront : Trace config front shown.before := ⟨start, created, first⟩
  obtain ⟨serverTime, batched⟩ := happens.batched_for stage
    (UnorderedMap.mem_keys_of_find? found)
  have made : shown.before.ticked.snapshotOf serverTime id = some (shown.before.ticked.snapshotFor
      (shown.before.ticked.getCachedPlayersInAOI id player.position).2 serverTime) :=
    GameManager.snapshotOf_eq_some_iff.mpr ⟨player, found, active, rfl⟩
  rw [made] at batched
  refine ⟨_, batched, ?_⟩
  -- Either this stage queries for the player itself, or an earlier one did.
  obtain ⟨due, queried⟩ | ⟨cache, cached, notDue, reused⟩ :=
    shown.before.ticked.getCachedPlayersInAOI_cases id player.position
  · have answered : AnsweredBy shown id player (shown.before.ticked.snapshotFor
        (shown.before.ticked.getCachedPlayersInAOI id player.position).2 serverTime) := by
      refine ⟨stage, found, active, due, ?_⟩
      rw [queried]
      exact snapshotFor_listed_ids serverTime fun other member =>
        (GameManager.Indexed.of_trace traceFront).isSome_getPlayer_of_query member
    refine ⟨answered.lists_self traceFront, shown, by simp, player, answered, le_rfl,
      Nat.sub_le _ _, ?_⟩
    simp [Vec3.distSqXY]
  · have remembers := Remembers.of_trace traceFront
    obtain ⟨asked, member, asks⟩ := remembers.asked id cache cached
    obtain ⟨asking, askingFound, askingActive, askingDue, stored⟩ := asks.requeried
    obtain ⟨recent, near⟩ := GameManager.recent_of_not_due cached notDue
    have past := GameManager.CachesPast.of_trace traceFront id cache cached
    obtain ⟨earlier, askedTrace, -⟩ := traceFront.of_mem member
    have answered : AnsweredBy asked id asking (shown.before.ticked.snapshotFor
        (shown.before.ticked.getCachedPlayersInAOI id player.position).2 serverTime) := by
      refine ⟨asks.stage, askingFound, askingActive, askingDue, ?_⟩
      have listed : (shown.before.ticked.snapshotFor cache.visiblePlayers
          serverTime).playerStates.map (·.playerId) = cache.visiblePlayers :=
        snapshotFor_listed_ids serverTime (remembers.known id cache cached)
      rw [reused, listed, stored]
      rfl
    rw [stored] at recent near past
    exact ⟨answered.lists_self askedTrace, asked, List.mem_append_left _ member, asking, answered,
      past.trans (Nat.le_succ _), recent, near⟩

/-- Player 2 leaves and comes back on another session within one tick; its list is the
one it was shown before. -/
theorem snapshot_list_recent_after_reentry :
    ∃ moments manager player, Trace {} moments manager ∧
      manager.world.getPlayer 2 = some player ∧ player.isActive = true ∧ player.sessionId = 3 ∧
      ∃ snapshot, (Moment.of manager (.sendWorldSnapshots 40)).outputs.batched.filter (·.1 = 2) =
          [(2, snapshot)] ∧
        2 ∈ snapshot.playerStates.map (·.playerId) ∧
        ∃ asked ∈ moments ++ [Moment.of manager (.sendWorldSnapshots 40)], ∃ asking,
          AnsweredBy asked 2 asking snapshot ∧ asked.before.ticked.tickNumber ≤ 2 ∧
          2 - 2 ≤ asked.before.ticked.tickNumber ∧
          player.position.distSqXY asking.position < 10 ^ 2 := by
  have executed : (trace? {} (neighboursUntilTick ++ [disconnectSecond,
      .enterZone 2 3 ⟨20, 20, 0⟩ [true, true], .updateWorld (1 / 50)])).any (fun result =>
        (result.2.world.getPlayer 2).any (fun player => player.isActive && player.sessionId == 3) &&
          result.2.tickNumber == 1) = true := by decide +kernel
  obtain ⟨⟨moments, manager⟩, followed, checked⟩ := (Option.any_eq_true _ _).mp executed
  obtain ⟨entered, tick⟩ := Bool.and_eq_true_iff.mp checked
  obtain ⟨player, found, isPlayer⟩ := (Option.any_eq_true _ _).mp entered
  obtain ⟨active, session⟩ := Bool.and_eq_true_iff.mp isPlayer
  have trace := trace_of_trace? followed
  have shown := snapshot_list_recent (trace.snoc (.sendWorldSnapshots 40) trivial) rfl found active
  have second : (Moment.of manager (.sendWorldSnapshots 40)).before.ticked.tickNumber = 2 :=
    congrArg (· + 1) (of_decide_eq_true tick)
  rw [second] at shown
  exact ⟨moments, manager, player, trace, found, active, of_decide_eq_true session, shown⟩

end CppMMO.Game.Managers
