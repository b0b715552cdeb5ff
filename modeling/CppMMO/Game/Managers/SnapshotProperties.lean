import CppMMO.Game.Managers.GameManagerProperties

/-! What the snapshot stage lists, caches and batches. -/

set_option autoImplicit false

namespace CppMMO.Game.Managers

open CppMMO.Lib CppMMO.Protocol CppMMO.Game.Models CppMMO.Game.Spatial

namespace GameManager

/-! ## One player's AOI -/

theorem getCachedPlayersInAOI_cases (manager : GameManager) (id : PlayerId) (position : Vec3) :
    manager.shouldUpdateAOI id position = true ∧
        manager.getCachedPlayersInAOI id position =
          (manager.updateAOICache id position (manager.getPlayersInAOI position),
            manager.getPlayersInAOI position) ∨
      ∃ cache, manager.aoiCache.find? id = some cache ∧
        manager.shouldUpdateAOI id position = false ∧
        manager.getCachedPlayersInAOI id position = (manager, cache.visiblePlayers) := by
  unfold getCachedPlayersInAOI
  cases due : manager.shouldUpdateAOI id position with
  | true => exact .inl ⟨rfl, if_pos rfl⟩
  | false =>
      cases cached : manager.aoiCache.find? id with
      | none => simp [shouldUpdateAOI, cached] at due
      | some cache => exact .inr ⟨cache, rfl, rfl, if_neg Bool.false_ne_true⟩

/-- Two managers in which one player's snapshot comes out the same. -/
structure SameView (id : PlayerId) (manager other : GameManager) : Prop
    extends SameScene manager other where
  tick_eq : other.tickNumber = manager.tickNumber
  cache_eq : other.aoiCache.find? id = manager.aoiCache.find? id

namespace SameView

variable {id : PlayerId} {manager other : GameManager}

theorem refl (id : PlayerId) (manager : GameManager) : SameView id manager manager :=
  ⟨.refl manager, rfl, rfl⟩

theorem trans {third : GameManager} (front : SameView id manager other)
    (back : SameView id other third) : SameView id manager third :=
  ⟨front.toSameScene.trans back.toSameScene, back.tick_eq.trans front.tick_eq,
    back.cache_eq.trans front.cache_eq⟩

theorem getPlayersInAOI_eq (same : SameView id manager other) (position : Vec3) :
    other.getPlayersInAOI position = manager.getPlayersInAOI position := by
  simp only [getPlayersInAOI, same.quadTree_eq, same.config_eq]

theorem shouldUpdateAOI_eq (same : SameView id manager other) (position : Vec3) :
    other.shouldUpdateAOI id position = manager.shouldUpdateAOI id position := by
  simp only [shouldUpdateAOI, same.cache_eq, same.tick_eq]

theorem visible_eq (same : SameView id manager other) (position : Vec3) :
    (other.getCachedPlayersInAOI id position).2 =
      (manager.getCachedPlayersInAOI id position).2 := by
  simp only [getCachedPlayersInAOI, same.shouldUpdateAOI_eq, same.getPlayersInAOI_eq,
    same.cache_eq]
  split
  · rfl
  · split <;> rfl

theorem snapshotFor_eq (same : SameView id manager other) (visiblePlayers : List PlayerId)
    (serverTime : Nat) :
    other.snapshotFor visiblePlayers serverTime = manager.snapshotFor visiblePlayers serverTime := by
  simp only [snapshotFor, same.tick_eq, same.world_eq]

end SameView

theorem tickNumber_getCachedPlayersInAOI (manager : GameManager) (id : PlayerId)
    (position : Vec3) :
    (manager.getCachedPlayersInAOI id position).1.tickNumber = manager.tickNumber := by
  obtain ⟨-, queried⟩ | ⟨cache, -, -, reused⟩ := manager.getCachedPlayersInAOI_cases id position
  · rw [queried]
    rfl
  · rw [reused]

theorem snapshotFor_getCachedPlayersInAOI (manager : GameManager) (id : PlayerId)
    (position : Vec3) (visiblePlayers : List PlayerId) (serverTime : Nat) :
    (manager.getCachedPlayersInAOI id position).1.snapshotFor visiblePlayers serverTime =
      manager.snapshotFor visiblePlayers serverTime := by
  simp only [snapshotFor, tickNumber_getCachedPlayersInAOI,
    (getCachedPlayersInAOI_sameScene manager id position).world_eq]

/-! ## One iteration of the snapshot loop -/

theorem snapshotPlayer_of_not_active {manager : GameManager} {id : PlayerId} (serverTime : Nat)
    (inactive : ¬ manager.world.Active id) :
    manager.snapshotPlayer serverTime id = (manager, []) := by
  unfold snapshotPlayer
  cases found : manager.world.getPlayer id with
  | none => rfl
  | some player => exact if_neg fun active => inactive ⟨player, found, active⟩

theorem snapshotPlayer_of_active {manager : GameManager} {id : PlayerId} {player : Player}
    (serverTime : Nat) (found : manager.world.getPlayer id = some player)
    (active : player.isActive = true) :
    manager.snapshotPlayer serverTime id =
      let snapshot := manager.snapshotFor
        (manager.getCachedPlayersInAOI id player.position).2 serverTime
      ((manager.getCachedPlayersInAOI id player.position).1.addToPlayerBatch id
        (.worldSnapshot snapshot), [(id, snapshot)]) := by
  simp only [snapshotPlayer, found, active, ↓reduceIte, snapshotFor_getCachedPlayersInAOI]

theorem snapshotPlayer_sameView (serverTime : Nat) (manager : GameManager) {id other : PlayerId}
    (different : other ≠ id) :
    SameView other manager (manager.snapshotPlayer serverTime id).1 := by
  by_cases active : manager.world.Active id
  · obtain ⟨player, found, active⟩ := active
    rw [snapshotPlayer_of_active serverTime found active]
    refine ⟨(getCachedPlayersInAOI_sameScene manager id player.position).trans ⟨rfl, rfl, rfl⟩,
      tickNumber_getCachedPlayersInAOI manager id player.position, ?_⟩
    change (manager.getCachedPlayersInAOI id player.position).1.aoiCache.find? other = _
    obtain ⟨-, queried⟩ | ⟨cache, -, -, reused⟩ :=
      manager.getCachedPlayersInAOI_cases id player.position
    · rw [queried]
      exact (UnorderedMap.find?_assign _ _ _ _).trans (if_neg different)
    · rw [reused]
  · rw [snapshotPlayer_of_not_active serverTime active]
    exact .refl other manager

theorem tickNumber_snapshotPlayer (serverTime : Nat) (manager : GameManager) (id : PlayerId) :
    (manager.snapshotPlayer serverTime id).1.tickNumber = manager.tickNumber := by
  by_cases active : manager.world.Active id
  · obtain ⟨player, found, active⟩ := active
    rw [snapshotPlayer_of_active serverTime found active]
    exact tickNumber_getCachedPlayersInAOI manager id player.position
  · rw [snapshotPlayer_of_not_active serverTime active]

structure Refreshed (manager : GameManager) (id : PlayerId) (cache : AOICache) : Prop where
  exists_player : ∃ player, manager.world.getPlayer id = some player ∧ player.isActive = true ∧
    cache.visiblePlayers = manager.getPlayersInAOI player.position
  tick_eq : cache.lastUpdateTick = manager.tickNumber

/-- The whole entry that a query for an active player leaves when one is due. -/
def Requeried (manager : GameManager) (id : PlayerId) (cache : AOICache) : Prop :=
  ∃ player, manager.world.getPlayer id = some player ∧ player.isActive = true ∧
    manager.shouldUpdateAOI id player.position = true ∧
    cache = { visiblePlayers := manager.getPlayersInAOI player.position
              lastUpdateTick := manager.tickNumber
              lastPosition := player.position }

theorem Requeried.refreshed {manager : GameManager} {id : PlayerId} {cache : AOICache}
    (requeried : manager.Requeried id cache) : manager.Refreshed id cache := by
  obtain ⟨player, found, active, -, rfl⟩ := requeried
  exact ⟨⟨player, found, active, rfl⟩, rfl⟩

theorem aoiCache_snapshotPlayer {serverTime : Nat} {manager : GameManager} {id other : PlayerId}
    {cache : AOICache}
    (cached : (manager.snapshotPlayer serverTime id).1.aoiCache.find? other = some cache) :
    manager.aoiCache.find? other = some cache ∨ other = id ∧ manager.Requeried other cache := by
  by_cases same : other = id
  · subst same
    by_cases active : manager.world.Active other
    · obtain ⟨player, found, active⟩ := active
      rw [snapshotPlayer_of_active serverTime found active] at cached
      change (manager.getCachedPlayersInAOI other player.position).1.aoiCache.find? other = _
        at cached
      obtain ⟨due, queried⟩ | ⟨earlier, -, -, reused⟩ :=
        manager.getCachedPlayersInAOI_cases other player.position
      · rw [queried] at cached
        have stored := (UnorderedMap.find?_assign _ _ _ _).symm.trans cached
        rw [if_pos rfl] at stored
        cases stored
        exact .inr ⟨rfl, player, found, active, due, rfl⟩
      · rw [reused] at cached
        exact .inl cached
    · rw [snapshotPlayer_of_not_active serverTime active] at cached
      exact .inl cached
  · exact .inl ((snapshotPlayer_sameView serverTime manager same).cache_eq.symm.trans cached)

theorem SameView.requeried {id : PlayerId} {manager other : GameManager} {cache : AOICache}
    (same : SameView id manager other) (requeried : other.Requeried id cache) :
    manager.Requeried id cache := by
  obtain ⟨player, found, active, due, stored⟩ := requeried
  refine ⟨player, same.world_eq ▸ found, active, same.shouldUpdateAOI_eq player.position ▸ due, ?_⟩
  rw [stored, same.getPlayersInAOI_eq, same.tick_eq]

/-! ## The whole loop -/

theorem snapshotPlayers_cons_fst (serverTime : Nat) (id : PlayerId) (rest : List PlayerId)
    (manager : GameManager) :
    (snapshotPlayers serverTime (id :: rest) manager).1 =
      (snapshotPlayers serverTime rest (manager.snapshotPlayer serverTime id).1).1 := rfl

theorem snapshotPlayers_cons_snd (serverTime : Nat) (id : PlayerId) (rest : List PlayerId)
    (manager : GameManager) :
    (snapshotPlayers serverTime (id :: rest) manager).2 =
      (manager.snapshotPlayer serverTime id).2 ++
        (snapshotPlayers serverTime rest (manager.snapshotPlayer serverTime id).1).2 := rfl

theorem tickNumber_snapshotPlayers (serverTime : Nat) (ids : List PlayerId)
    (manager : GameManager) :
    (snapshotPlayers serverTime ids manager).1.tickNumber = manager.tickNumber := by
  induction ids generalizing manager with
  | nil => rfl
  | cons id rest ih => exact (ih _).trans (tickNumber_snapshotPlayer serverTime manager id)

theorem aoiCache_snapshotPlayers {serverTime : Nat} {ids : List PlayerId} {manager : GameManager}
    (nodup : ids.Nodup) {id : PlayerId} {cache : AOICache}
    (cached : (snapshotPlayers serverTime ids manager).1.aoiCache.find? id = some cache) :
    manager.aoiCache.find? id = some cache ∨ id ∈ ids ∧ manager.Requeried id cache := by
  induction ids generalizing manager with
  | nil => exact .inl cached
  | cons first rest ih =>
      obtain ⟨notAgain, restNodup⟩ := List.nodup_cons.mp nodup
      rw [snapshotPlayers_cons_fst] at cached
      obtain earlier | ⟨member, requeried⟩ := ih restNodup cached
      · exact (aoiCache_snapshotPlayer earlier).imp_right fun ⟨same, requeried⟩ =>
          ⟨List.mem_cons.mpr (.inl same), requeried⟩
      · have different : id ≠ first := fun same => notAgain (same ▸ member)
        exact .inr ⟨List.mem_cons_of_mem first member,
          (snapshotPlayer_sameView serverTime manager different).requeried requeried⟩

/-- The snapshot an active player gets out of the loop. -/
def snapshotOf (manager : GameManager) (serverTime : Nat) (id : PlayerId) :
    Option WorldSnapshot :=
  match manager.world.getPlayer id with
  | none => none
  | some player =>
      if player.isActive then
        some (manager.snapshotFor (manager.getCachedPlayersInAOI id player.position).2 serverTime)
      else none

theorem snapshotOf_eq_some_iff {manager : GameManager} {serverTime : Nat} {id : PlayerId}
    {snapshot : WorldSnapshot} :
    manager.snapshotOf serverTime id = some snapshot ↔
      ∃ player, manager.world.getPlayer id = some player ∧ player.isActive = true ∧
        snapshot = manager.snapshotFor
          (manager.getCachedPlayersInAOI id player.position).2 serverTime := by
  unfold snapshotOf
  cases manager.world.getPlayer id with
  | none => simp
  | some player =>
      rw [Option.ite_none_right_eq_some]
      constructor
      · rintro ⟨active, made⟩
        exact ⟨player, rfl, active, (Option.some.inj made).symm⟩
      · rintro ⟨other, same, active, made⟩
        cases same
        exact ⟨active, congrArg some made.symm⟩

theorem snapshotOf_eq_none {manager : GameManager} {id : PlayerId} (serverTime : Nat)
    (inactive : ¬ manager.world.Active id) : manager.snapshotOf serverTime id = none := by
  refine Option.eq_none_iff_forall_ne_some.mpr fun snapshot made => inactive ?_
  obtain ⟨player, found, active, -⟩ := snapshotOf_eq_some_iff.mp made
  exact ⟨player, found, active⟩

theorem SameView.snapshotOf_eq {id : PlayerId} {manager other : GameManager}
    (same : SameView id manager other) (serverTime : Nat) :
    other.snapshotOf serverTime id = manager.snapshotOf serverTime id := by
  simp only [snapshotOf, same.world_eq, same.visible_eq, same.snapshotFor_eq]

theorem snapshotPlayer_batched (serverTime : Nat) (manager : GameManager) (id : PlayerId) :
    (manager.snapshotPlayer serverTime id).2 =
      ((manager.snapshotOf serverTime id).map (id, ·)).toList := by
  by_cases active : manager.world.Active id
  · obtain ⟨player, found, active⟩ := active
    rw [snapshotPlayer_of_active serverTime found active]
    simp [snapshotOf, found, active]
  · rw [snapshotPlayer_of_not_active serverTime active, snapshotOf_eq_none serverTime active]
    rfl

theorem snapshotPlayers_batched (serverTime : Nat) {ids : List PlayerId} (nodup : ids.Nodup)
    (manager : GameManager) :
    (snapshotPlayers serverTime ids manager).2 =
      ids.filterMap fun id => (manager.snapshotOf serverTime id).map (id, ·) := by
  induction ids generalizing manager with
  | nil => rfl
  | cons first rest ih =>
      obtain ⟨notAgain, restNodup⟩ := List.nodup_cons.mp nodup
      have unchanged : ∀ id ∈ rest, (manager.snapshotPlayer serverTime first).1.snapshotOf
          serverTime id = manager.snapshotOf serverTime id := by
        intro id member
        have different : id ≠ first := fun same => notAgain (same ▸ member)
        exact (snapshotPlayer_sameView serverTime manager different).snapshotOf_eq serverTime
      rw [snapshotPlayers_cons_snd, snapshotPlayer_batched, ih restNodup,
        List.filterMap_congr fun id member => by rw [unchanged id member]]
      cases made : manager.snapshotOf serverTime first <;> simp [made]

/-- One player's share of the batched snapshots. -/
theorem snapshotPlayers_batched_for (serverTime : Nat) {ids : List PlayerId} (nodup : ids.Nodup)
    (manager : GameManager) {id : PlayerId} (member : id ∈ ids) :
    (snapshotPlayers serverTime ids manager).2.filter (·.1 = id) =
      ((manager.snapshotOf serverTime id).map (id, ·)).toList := by
  rw [snapshotPlayers_batched serverTime nodup, List.filter_filterMap]
  have only : ∀ other ∈ ids, ((manager.snapshotOf serverTime other).map (other, ·)).filter
      (fun entry => decide (entry.1 = id)) =
        if other = id then (manager.snapshotOf serverTime id).map (id, ·) else none := by
    intro other _
    by_cases same : other = id
    · subst same
      cases manager.snapshotOf serverTime other <;> simp
    · cases manager.snapshotOf serverTime other <;> simp [same]
  rw [List.filterMap_congr only]
  have absent : ∀ part : List PlayerId, id ∉ part → part.filterMap (fun other =>
      if other = id then (manager.snapshotOf serverTime id).map (id, ·) else none) = [] := by
    intro part notIn
    exact List.filterMap_eq_nil_iff.mpr fun other within =>
      if_neg (ne_of_mem_of_not_mem within notIn)
  obtain ⟨front, back, rfl⟩ := List.append_of_mem member
  obtain ⟨notElsewhere, -⟩ := List.nodup_cons.mp (List.nodup_middle.mp nodup)
  rw [List.mem_append, not_or] at notElsewhere
  rw [List.filterMap_append, absent front notElsewhere.1, List.filterMap_cons, if_pos rfl,
    absent back notElsewhere.2]
  cases manager.snapshotOf serverTime id <;> rfl

theorem mem_snapshotPlayers_batched {serverTime : Nat} {ids : List PlayerId}
    {manager : GameManager} (nodup : ids.Nodup) {id : PlayerId} {snapshot : WorldSnapshot}
    (batched : (id, snapshot) ∈ (snapshotPlayers serverTime ids manager).2) :
    id ∈ ids ∧ manager.snapshotOf serverTime id = some snapshot := by
  rw [snapshotPlayers_batched serverTime nodup] at batched
  obtain ⟨first, member, made⟩ := List.mem_filterMap.mp batched
  obtain ⟨_, made, same⟩ := Option.map_eq_some_iff.mp made
  cases same
  exact ⟨member, made⟩

def ticked (manager : GameManager) : GameManager :=
  { manager with tickNumber := manager.tickNumber + 1 }

/-- The player's next snapshot repeats this list, stored at an earlier tick. -/
def Reuses (manager : GameManager) (id : PlayerId) (cache : AOICache) : Prop :=
  ∃ player, manager.world.getPlayer id = some player ∧ player.isActive = true ∧
    manager.aoiCache.find? id = some cache ∧
    manager.ticked.shouldUpdateAOI id player.position = false

instance (manager : GameManager) (id : PlayerId) (cache : AOICache) :
    Decidable (manager.Reuses id cache) :=
  match found : manager.world.getPlayer id with
  | none => .isFalse fun reuses => by simp [Reuses, found] at reuses
  | some player =>
      decidable_of_iff (player.isActive = true ∧ manager.aoiCache.find? id = some cache ∧
        manager.ticked.shouldUpdateAOI id player.position = false) (by simp [Reuses, found])

theorem tickNumber_sendWorldSnapshots (manager : GameManager) (serverTime : Nat) :
    (manager.sendWorldSnapshots serverTime).1.tickNumber = manager.tickNumber + 1 :=
  tickNumber_snapshotPlayers serverTime _ manager.ticked

theorem aoiCache_sendWorldSnapshots {manager : GameManager} {serverTime : Nat} {id : PlayerId}
    {cache : AOICache}
    (cached : (manager.sendWorldSnapshots serverTime).1.aoiCache.find? id = some cache) :
    manager.aoiCache.find? id = some cache ∨ manager.ticked.Requeried id cache :=
  (aoiCache_snapshotPlayers (UnorderedMap.keys_nodup _) cached).imp_right And.right

/-- A player listed for another one was just queried, or comes from a reused list. -/
theorem listed_of_batched {manager : GameManager} {serverTime : Nat} {id listed : PlayerId}
    {snapshot : WorldSnapshot}
    (batched : (id, snapshot) ∈ (manager.sendWorldSnapshots serverTime).2)
    (lists : snapshot.Lists listed) :
    ∃ player, manager.world.getPlayer id = some player ∧ player.isActive = true ∧
      (listed ∈ manager.getPlayersInAOI player.position ∨
        ∃ cache, manager.Reuses id cache ∧ listed ∈ cache.visiblePlayers) := by
  obtain ⟨-, made⟩ := mem_snapshotPlayers_batched (UnorderedMap.keys_nodup _) batched
  obtain ⟨player, found, active, snapshot_eq⟩ := snapshotOf_eq_some_iff.mp made
  refine ⟨player, found, active, ?_⟩
  have visible : listed ∈ (manager.ticked.getCachedPlayersInAOI id player.position).2 := by
    rw [snapshot_eq] at lists
    obtain ⟨state, isState, rfl⟩ := List.mem_map.mp lists
    obtain ⟨visibleId, member, shown⟩ := List.mem_filterMap.mp isState
    obtain ⟨other, -, rfl⟩ := Option.map_eq_some_iff.mp shown
    exact member
  obtain ⟨-, queried⟩ | ⟨cache, cached, fresh, reused⟩ :=
    manager.ticked.getCachedPlayersInAOI_cases id player.position
  · rw [queried] at visible
    exact .inl visible
  · rw [reused] at visible
    exact .inr ⟨cache, ⟨player, found, active, cached, fresh⟩, visible⟩

/-! ## Batches -/

def OnlySnapshots (manager : GameManager) : Prop :=
  ∀ id packets, manager.playerBatches.find? id = some packets →
    ∀ packet ∈ packets, ∃ snapshot, packet = .worldSnapshot snapshot

theorem OnlySnapshots.addToPlayerBatch {manager : GameManager} (only : manager.OnlySnapshots)
    (id : PlayerId) (snapshot : WorldSnapshot) :
    (manager.addToPlayerBatch id (.worldSnapshot snapshot)).OnlySnapshots := by
  intro other packets found packet member
  -- The inserting subscript binds an absent key to the empty batch first.
  unfold GameManager.addToPlayerBatch UnorderedMap.subscript at found
  cases bound : manager.playerBatches.find? id with
  | none =>
      simp only [bound, UnorderedMap.find?_assign] at found
      by_cases same : other = id
      · rw [if_pos same] at found
        cases found
        exact ⟨snapshot, List.mem_singleton.mp member⟩
      · rw [if_neg same, if_neg same] at found
        exact only other packets found packet member
  | some earlier =>
      simp only [bound, UnorderedMap.find?_assign] at found
      split at found
      · cases found
        rcases List.mem_append.mp member with old | new
        · exact only id earlier bound packet old
        · exact ⟨snapshot, List.mem_singleton.mp new⟩
      · exact only other packets found packet member

theorem OnlySnapshots.snapshotPlayer {manager : GameManager} (only : manager.OnlySnapshots)
    (serverTime : Nat) (id : PlayerId) :
    (manager.snapshotPlayer serverTime id).1.OnlySnapshots := by
  by_cases active : manager.world.Active id
  · obtain ⟨player, found, active⟩ := active
    rw [snapshotPlayer_of_active serverTime found active]
    refine OnlySnapshots.addToPlayerBatch ?_ id _
    obtain ⟨-, queried⟩ | ⟨cache, -, -, reused⟩ :=
      manager.getCachedPlayersInAOI_cases id player.position
    · rw [queried]
      exact only
    · rw [reused]
      exact only
  · rw [snapshotPlayer_of_not_active serverTime active]
    exact only

theorem OnlySnapshots.snapshotPlayers (serverTime : Nat) (ids : List PlayerId)
    {manager : GameManager} (only : manager.OnlySnapshots) :
    (GameManager.snapshotPlayers serverTime ids manager).1.OnlySnapshots := by
  induction ids generalizing manager with
  | nil => exact only
  | cons id rest ih => exact ih (only.snapshotPlayer serverTime id)

def Drained (manager : GameManager) : Prop :=
  ∀ id packets, manager.playerBatches.find? id = some packets → packets = []

theorem flushAllBatches_drained (manager : GameManager) : manager.flushAllBatches.1.Drained := by
  have emptied : ∀ (ids : List PlayerId) (batches : UnorderedMap PlayerId (List ServerPacket)),
      ∀ id packets, (ids.foldl (fun batches playerId => batches.modify playerId fun _ => [])
          batches).find? id = some packets →
        packets = [] ∨ id ∉ ids ∧ batches.find? id = some packets := by
    intro ids
    induction ids with
    | nil => exact fun batches id packets found => .inr ⟨List.not_mem_nil, found⟩
    | cons first rest ih =>
        intro batches id packets found
        obtain empty | ⟨notIn, earlier⟩ := ih _ id packets found
        · exact .inl empty
        · rw [UnorderedMap.find?_modify] at earlier
          split at earlier
          · obtain ⟨_, -, rfl⟩ := Option.map_eq_some_iff.mp earlier
            exact .inl rfl
          · next different => exact .inr ⟨by simp [different, notIn], earlier⟩
  intro id packets found
  obtain empty | ⟨notIn, earlier⟩ := emptied _ _ id packets found
  · exact empty
  · exact absurd (UnorderedMap.mem_keys_of_find? earlier) notIn

theorem OnlySnapshots.flushAllBatches (manager : GameManager) :
    manager.flushAllBatches.1.OnlySnapshots := by
  intro id packets found packet member
  rw [flushAllBatches_drained manager id packets found] at member
  cases member

theorem OnlySnapshots.of_sameTick {manager other : GameManager} (only : manager.OnlySnapshots)
    (same : SameTick manager other) : other.OnlySnapshots := by
  intro id packets found
  exact only id packets (same.batches_eq ▸ found)

theorem OnlySnapshots.step {manager : GameManager} (only : manager.OnlySnapshots) {event : Event}
    (valid : manager.Valid event) : (manager.step event).1.OnlySnapshots := by
  cases event with
  | processGameCommand command sessionFound spawnPosition now later delivered =>
      exact only.of_sameTick
        (processGameCommand_sameTick manager command sessionFound spawnPosition now later)
  | updateWorld deltaTime => exact only.of_sameTick (updateWorld_sameTick manager deltaTime)
  | sendWorldSnapshots serverTime =>
      have tickedOnly : manager.ticked.OnlySnapshots := only
      exact tickedOnly.snapshotPlayers serverTime _
  | flushAllBatches delivered => exact .flushAllBatches manager
  | rehash players playerBatches =>
      exact fun id packets found => only id packets ((valid.2.find?_eq id).symm.trans found)

theorem OnlySnapshots.create {config : GameConfig} {manager : GameManager}
    (created : GameManager.create? config = some manager) : manager.OnlySnapshots := by
  obtain ⟨quadTree, -, rfl⟩ := Option.map_eq_some_iff.mp created
  intro id packets found
  simp at found

theorem OnlySnapshots.run {start finish : GameManager} {moments : List Moment}
    (only : start.OnlySnapshots) (taken : Run Moment.Happens start moments finish) :
    finish.OnlySnapshots := by
  refine taken.preserves OnlySnapshots ?_ only
  intro before moment after beforeOnly happens
  have stepped := beforeOnly.step happens.valid
  rwa [happens.step_eq] at stepped

end GameManager

end CppMMO.Game.Managers
