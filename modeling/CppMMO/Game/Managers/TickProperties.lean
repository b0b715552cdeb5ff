import CppMMO.Game.Managers.VisibilityProperties

/-! Ticks of the game loop: each one fills the batches once and drains them, so that
every active player gets one snapshot with the number of the tick. -/

set_option autoImplicit false

namespace CppMMO.Game.Managers

open CppMMO.Lib CppMMO.Protocol CppMMO.Game.Models CppMMO.Game.Spatial

namespace GameManager

/-! ## What the snapshot stage batches -/

/-- The packets waiting for a player; a player without an entry has none. -/
def batchOf (manager : GameManager) (id : PlayerId) : List ServerPacket :=
  (manager.playerBatches.find? id).getD []

theorem batchOf_addToPlayerBatch (manager : GameManager) (id other : PlayerId)
    (packet : ServerPacket) :
    (manager.addToPlayerBatch id packet).batchOf other =
      manager.batchOf other ++ if other = id then [packet] else [] := by
  unfold batchOf addToPlayerBatch UnorderedMap.subscript
  cases bound : manager.playerBatches.find? id with
  | none =>
      simp only [UnorderedMap.find?_assign]
      split
      · next same => simp [same, bound]
      · simp
  | some packets =>
      simp only [UnorderedMap.find?_assign]
      split
      · next same => simp [same, bound]
      · simp

theorem playerBatches_getCachedPlayersInAOI (manager : GameManager) (id : PlayerId)
    (position : Vec3) :
    (manager.getCachedPlayersInAOI id position).1.playerBatches = manager.playerBatches := by
  obtain ⟨-, queried⟩ | ⟨cache, -, -, reused⟩ := manager.getCachedPlayersInAOI_cases id position
  · rw [queried]
    rfl
  · rw [reused]

theorem batchOf_snapshotPlayer (serverTime : Nat) (manager : GameManager) (id other : PlayerId) :
    (manager.snapshotPlayer serverTime id).1.batchOf other = manager.batchOf other ++
      if other = id then ((manager.snapshotOf serverTime id).map .worldSnapshot).toList else [] := by
  by_cases active : manager.world.Active id
  · obtain ⟨player, found, active⟩ := active
    have made : manager.snapshotOf serverTime id = some (manager.snapshotFor
        (manager.getCachedPlayersInAOI id player.position).2 serverTime) :=
      snapshotOf_eq_some_iff.mpr ⟨player, found, active, rfl⟩
    rw [snapshotPlayer_of_active serverTime found active, made]
    dsimp only
    rw [batchOf_addToPlayerBatch, batchOf, playerBatches_getCachedPlayersInAOI]
    rfl
  · rw [snapshotPlayer_of_not_active serverTime active, snapshotOf_eq_none serverTime active]
    simp

theorem batchOf_snapshotPlayers (serverTime : Nat) {ids : List PlayerId} (nodup : ids.Nodup)
    (manager : GameManager) (id : PlayerId) :
    (snapshotPlayers serverTime ids manager).1.batchOf id = manager.batchOf id ++
      if id ∈ ids then ((manager.snapshotOf serverTime id).map .worldSnapshot).toList else [] := by
  induction ids generalizing manager with
  | nil => simp [snapshotPlayers]
  | cons first rest ih =>
      obtain ⟨notAgain, restNodup⟩ := List.nodup_cons.mp nodup
      rw [snapshotPlayers_cons_fst, ih restNodup, batchOf_snapshotPlayer]
      by_cases same : id = first
      · subst same
        simp [notAgain]
      · have unchanged := (snapshotPlayer_sameView serverTime manager same).snapshotOf_eq serverTime
        simp [same, unchanged]

theorem batchOf_sendWorldSnapshots (manager : GameManager) (serverTime : Nat) (id : PlayerId) :
    (manager.sendWorldSnapshots serverTime).1.batchOf id =
      manager.batchOf id ++ ((manager.ticked.snapshotOf serverTime id).map .worldSnapshot).toList := by
  have filled := batchOf_snapshotPlayers serverTime
    (UnorderedMap.keys_nodup manager.world.players) manager.ticked id
  by_cases present : id ∈ manager.world.players.keys
  · rw [if_pos present] at filled
    exact filled
  · have missing : ¬ manager.ticked.world.Active id := by
      rintro ⟨player, found, -⟩
      exact present (UnorderedMap.mem_keys_of_find? found)
    rw [if_neg present] at filled
    rw [snapshotOf_eq_none serverTime missing]
    exact filled

/-! ## What the flush stage asks for -/

theorem Drained.batchOf_eq_nil {manager : GameManager} (drained : manager.Drained)
    (id : PlayerId) : manager.batchOf id = [] := by
  unfold batchOf
  cases found : manager.playerBatches.find? id with
  | none => rfl
  | some packets => exact drained id packets found

/-- The requests of `FlushAllBatches`, each under the player whose batch it is. -/
def flushRequests (manager : GameManager) : List (PlayerId × Outgoing) :=
  manager.playerBatches.toList.filterMap fun (playerId, packets) =>
    if packets = [] then none
    else (manager.world.getPlayer playerId).map fun player =>
      (playerId, { session := player.sessionId, lookup := true, packets })

theorem flushAllBatches_outgoing (manager : GameManager) :
    manager.flushAllBatches.2 = manager.flushRequests.map Prod.snd := by
  simp only [flushAllBatches, flushRequests, List.map_filterMap]
  refine List.filterMap_congr fun entry _ => ?_
  split
  · rfl
  · rw [Option.map_map]
    rfl

theorem mem_flushRequests_iff {manager : GameManager} {id : PlayerId} {request : Outgoing} :
    (id, request) ∈ manager.flushRequests ↔ manager.batchOf id ≠ [] ∧
      ∃ player, manager.world.getPlayer id = some player ∧
        request = { session := player.sessionId, lookup := true, packets := manager.batchOf id } := by
  unfold flushRequests
  rw [List.mem_filterMap]
  constructor
  · rintro ⟨⟨other, packets⟩, listed, made⟩
    rw [UnorderedMap.mem_toList_iff] at listed
    dsimp only at made
    split at made
    · cases made
    · next nonempty =>
        obtain ⟨player, found, same⟩ := Option.map_eq_some_iff.mp made
        cases same
        have batch : manager.batchOf id = packets := by simp [batchOf, listed]
        rw [batch]
        exact ⟨nonempty, player, found, rfl⟩
  · rintro ⟨nonempty, player, found, rfl⟩
    have listed : manager.playerBatches.find? id = some (manager.batchOf id) := by
      unfold batchOf at nonempty ⊢
      cases bound : manager.playerBatches.find? id with
      | none => simp [bound] at nonempty
      | some packets => rfl
    refine ⟨(id, manager.batchOf id), (UnorderedMap.mem_toList_iff _ _ _).mpr listed, ?_⟩
    simp [nonempty, found]

theorem flushRequests_nodup (manager : GameManager) :
    (manager.flushRequests.map Prod.fst).Nodup := by
  have keys := manager.playerBatches.keys_nodup
  rw [← UnorderedMap.map_fst_toList, List.Nodup, List.pairwise_map] at keys
  rw [List.Nodup, List.pairwise_map, flushRequests, List.pairwise_filterMap]
  refine keys.imp fun {first second} different request made other otherMade => ?_
  have tag : ∀ {entry : PlayerId × List ServerPacket} {tagged : PlayerId × Outgoing},
      (if entry.2 = [] then none else (manager.world.getPlayer entry.1).map fun player =>
        (entry.1, ({ session := player.sessionId, lookup := true, packets := entry.2 } :
          Outgoing))) = some tagged → tagged.1 = entry.1 := by
    intro entry tagged made
    obtain ⟨-, made⟩ := Option.ite_none_left_eq_some.mp made
    obtain ⟨player, -, rfl⟩ := Option.map_eq_some_iff.mp made
    rfl
  rw [tag made, tag otherMade]
  exact different

end GameManager

/-! ## What reaches a write queue -/

/-- The packets that were sent, each under the player and the session it was for. -/
def enqueued : List (PlayerId × Outgoing) → List Bool →
    List (PlayerId × SessionId × ServerPacket)
  | [], _ => []
  | (id, request) :: rest, delivered =>
      (if delivered.headD false = true then request.packets.map (id, request.session, ·) else []) ++
        enqueued rest delivered.tail

/-- Whether the session of this player was found and connected. -/
def reached (id : PlayerId) : List (PlayerId × Outgoing) → List Bool → Bool
  | [], _ => false
  | (other, _) :: rest, delivered =>
      if other = id then delivered.headD false else reached id rest delivered.tail

theorem enqueued_packets (requests : List (PlayerId × Outgoing)) (delivered : List Bool) :
    (enqueued requests delivered).map Prod.snd = answered true (requests.map Prod.snd) delivered := by
  induction requests generalizing delivered with
  | nil => rfl
  | cons first rest ih =>
      simp only [enqueued, answered, List.map_append, List.map_cons, ih]
      split <;> simp

def enqueuedFor (id : PlayerId) (requests : List (PlayerId × Outgoing)) (delivered : List Bool) :
    List (SessionId × ServerPacket) :=
  ((enqueued requests delivered).filter (·.1 = id)).map Prod.snd

theorem enqueuedFor_cons (id other : PlayerId) (request : Outgoing)
    (rest : List (PlayerId × Outgoing)) (delivered : List Bool) :
    enqueuedFor id ((other, request) :: rest) delivered =
      (if other = id ∧ delivered.headD false = true
        then request.packets.map (request.session, ·) else []) ++
        enqueuedFor id rest delivered.tail := by
  simp only [enqueuedFor, enqueued, List.filter_append, List.map_append]
  congr 1
  by_cases same : other = id <;> cases delivered.headD false <;>
    simp [same, List.filter_map, Function.comp_def]

theorem enqueuedFor_of_not_mem {id : PlayerId} {requests : List (PlayerId × Outgoing)}
    (absent : id ∉ requests.map Prod.fst) (delivered : List Bool) :
    enqueuedFor id requests delivered = [] := by
  induction requests generalizing delivered with
  | nil => rfl
  | cons first rest ih =>
      obtain ⟨other, request⟩ := first
      rw [List.map_cons, List.mem_cons, not_or] at absent
      rw [enqueuedFor_cons, ih absent.2, if_neg fun both => absent.1 both.1.symm]
      rfl

theorem enqueuedFor_of_mem {id : PlayerId} {request : Outgoing}
    {requests : List (PlayerId × Outgoing)} (nodup : (requests.map Prod.fst).Nodup)
    (member : (id, request) ∈ requests) (delivered : List Bool) :
    enqueuedFor id requests delivered =
      if reached id requests delivered = true then request.packets.map (request.session, ·)
      else [] := by
  induction requests generalizing delivered with
  | nil => cases member
  | cons first rest ih =>
      obtain ⟨other, otherRequest⟩ := first
      obtain ⟨notAgain, restNodup⟩ := List.nodup_cons.mp nodup
      rw [enqueuedFor_cons]
      rcases List.mem_cons.mp member with same | later
      · cases same
        simp [enqueuedFor_of_not_mem notAgain, reached]
      · have different : other ≠ id := by
          rintro rfl
          exact notAgain (List.mem_map.mpr ⟨_, later, rfl⟩)
        rw [ih restNodup later]
        simp [reached, different]

theorem reached_of_mem {id : PlayerId} {request : Outgoing} {connected : SessionId → Bool}
    {requests : List (PlayerId × Outgoing)} (nodup : (requests.map Prod.fst).Nodup)
    (member : (id, request) ∈ requests) {delivered : List Bool}
    (answers : ∀ (index : Nat) (asked : Outgoing), (requests.map Prod.snd)[index]? = some asked →
      delivered.getD index false = connected asked.session) :
    reached id requests delivered = connected request.session := by
  induction requests generalizing delivered with
  | nil => cases member
  | cons first rest ih =>
      obtain ⟨other, otherRequest⟩ := first
      obtain ⟨notAgain, restNodup⟩ := List.nodup_cons.mp nodup
      have head : delivered.headD false = delivered.getD 0 false := by cases delivered <;> rfl
      have shift : ∀ index, delivered.tail.getD index false = delivered.getD (index + 1) false := by
        intro index
        cases delivered <;> rfl
      rcases List.mem_cons.mp member with same | later
      · cases same
        rw [reached, if_pos rfl, head]
        exact answers 0 request rfl
      · have different : other ≠ id := by
          rintro rfl
          exact notAgain (List.mem_map.mpr ⟨_, later, rfl⟩)
        rw [reached, if_neg different]
        refine ih restNodup later fun index asked found => ?_
        rw [shift]
        exact answers (index + 1) asked found

/-! ## Ticks -/

def Event.precedesSnapshots : Event → Bool
  | processGameCommand _ _ _ _ _ _ | updateWorld _ | rehash _ _ => true
  | sendWorldSnapshots _ | flushAllBatches _ => false

def Event.isFlushAllBatches : Event → Bool
  | flushAllBatches _ => true
  | _ => false

theorem Event.exists_of_isFlushAllBatches {event : Event}
    (stage : event.isFlushAllBatches = true) : ∃ delivered, event = .flushAllBatches delivered := by
  cases event with
  | flushAllBatches delivered => exact ⟨delivered, rfl⟩
  | _ => cases stage

def Event.isRehash : Event → Bool
  | rehash _ _ => true
  | _ => false

/-- One pass through the loop body: commands and the world update, then the snapshots,
then the flush. The maps may be rehashed in between. -/
structure Tick where
  front : List Moment
  send : Moment
  middle : List Moment
  flush : Moment
  back : List Moment
  front_precedes : ∀ moment ∈ front, moment.event.precedesSnapshots = true
  send_stage : send.event.isSendWorldSnapshots = true
  middle_rehash : ∀ moment ∈ middle, moment.event.isRehash = true
  flush_stage : flush.event.isFlushAllBatches = true
  back_rehash : ∀ moment ∈ back, moment.event.isRehash = true

def Tick.moments (tick : Tick) : List Moment :=
  tick.front ++ tick.send :: (tick.middle ++ tick.flush :: tick.back)

/-- What the moment puts into write queues as the batch of this player. -/
def Moment.enqueuedFor (moment : Moment) (id : PlayerId) : List (SessionId × ServerPacket) :=
  match moment.event with
  | .flushAllBatches delivered =>
      Managers.enqueuedFor id moment.before.flushRequests delivered
  | _ => []

def Moment.reaches (moment : Moment) (id : PlayerId) : Bool :=
  match moment.event with
  | .flushAllBatches delivered => reached id moment.before.flushRequests delivered
  | _ => false

def snapshotTick? : ServerPacket → Option Nat
  | .worldSnapshot snapshot => some snapshot.tickNumber
  | _ => none

def Moment.snapshotTicks (moment : Moment) (id : PlayerId) : List Nat :=
  (moment.enqueuedFor id).filterMap fun entry => snapshotTick? entry.2

/-- The flush finds a session connected exactly when the registry says so. -/
def Moment.AnsweredBy (moment : Moment) (connected : SessionId → Bool) : Prop :=
  ∀ delivered, moment.event = .flushAllBatches delivered → ∀ (index : Nat) (request : Outgoing),
    moment.before.flushAllBatches.2[index]? = some request →
    delivered.getD index false = connected request.session

/-- A player's request in `FlushAllBatches`, to its own session. -/
def snapshotRequest (player : Player) (snapshot : WorldSnapshot) : Outgoing :=
  { session := player.sessionId, lookup := true, packets := [.worldSnapshot snapshot] }

structure Tick.Delivers (tick : Tick) : Prop where
  /-- The flush makes the requests of different players, one for each player that was active in
  the snapshot stage, with its snapshot of this tick, and none for anybody else. -/
  requests : tick.flush.before.flushAllBatches.2 = tick.flush.before.flushRequests.map Prod.snd
  distinct : (tick.flush.before.flushRequests.map Prod.fst).Nodup
  active : ∀ id player, tick.send.before.world.getPlayer id = some player →
    player.isActive = true → ∃ snapshot, (id, snapshot) ∈ tick.send.outputs.batched ∧
      snapshot.tickNumber = tick.send.before.tickNumber + 1 ∧
      (id, snapshotRequest player snapshot) ∈ tick.flush.before.flushRequests
  inactive : ∀ id, ¬ tick.send.before.world.Active id →
    id ∉ tick.flush.before.flushRequests.map Prod.fst
  /-- What the flush puts into write queues are the packets of the requests that it could make. -/
  flushed : ∀ delivered, tick.flush.event = .flushAllBatches delivered →
    tick.flush.outputs.sent = (enqueued tick.flush.before.flushRequests delivered).map Prod.snd
  /-- A player's request is made exactly when its session is registered and connected. -/
  registry : ∀ connected, tick.flush.AnsweredBy connected → ∀ id player,
    tick.send.before.world.getPlayer id = some player → player.isActive = true →
    tick.flush.reaches id = connected player.sessionId
  once : ∀ id player, tick.send.before.world.getPlayer id = some player →
    player.isActive = true → tick.flush.reaches id = true →
    ∃ snapshot, tick.flush.enqueuedFor id = [(player.sessionId, .worldSnapshot snapshot)] ∧
      snapshot.tickNumber = tick.send.before.tickNumber + 1
  nothing : ∀ id, ¬ tick.send.before.world.Active id ∨ tick.flush.reaches id = false →
    tick.flush.enqueuedFor id = []
  elsewhere : ∀ moment ∈ tick.front ++ tick.send :: (tick.middle ++ tick.back),
    ∀ session snapshot, (session, .worldSnapshot snapshot) ∉ moment.outputs.sent
  drained : ∀ moment ∈ tick.flush :: tick.back, moment.after.Drained

/-! ## One tick -/

namespace GameManager

theorem drained_iff {manager : GameManager} : manager.Drained ↔ ∀ id, manager.batchOf id = [] := by
  constructor
  · exact fun drained id => drained.batchOf_eq_nil id
  · intro empty id packets found
    simpa [batchOf, found] using empty id

structure SameBatches (manager other : GameManager) : Prop where
  batches : ∀ id, other.batchOf id = manager.batchOf id
  tick_eq : other.tickNumber = manager.tickNumber

theorem SameBatches.drained {manager other : GameManager} (same : SameBatches manager other)
    (drained : manager.Drained) : other.Drained :=
  drained_iff.mpr fun id => (same.batches id).trans (drained.batchOf_eq_nil id)

theorem SameTick.sameBatches {manager other : GameManager} (same : SameTick manager other) :
    SameBatches manager other :=
  ⟨fun id => by simp only [batchOf, same.batches_eq], same.tick_eq⟩

/-- The maps hold the same in another order. -/
structure Reordered (manager other : GameManager) : Prop extends SameBatches manager other where
  players : ∀ id, other.world.getPlayer id = manager.world.getPlayer id

theorem Reordered.refl (manager : GameManager) : Reordered manager manager :=
  ⟨⟨fun _ => rfl, rfl⟩, fun _ => rfl⟩

theorem step_reordered {manager : GameManager} {event : Event} (valid : manager.Valid event)
    (rehash : event.isRehash = true) : Reordered manager (manager.step event).1 := by
  cases event with
  | rehash players playerBatches =>
      refine ⟨⟨fun id => ?_, rfl⟩, fun id => valid.1.find?_eq id⟩
      simp only [batchOf, step, valid.2.find?_eq id]
  | _ => cases rehash

theorem step_sameBatches {manager : GameManager} {event : Event} (valid : manager.Valid event)
    (precedes : event.precedesSnapshots = true) : SameBatches manager (manager.step event).1 := by
  cases event with
  | processGameCommand command sessionFound spawnPosition now later delivered =>
      exact (manager.processGameCommand_sameTick command sessionFound spawnPosition now
        later).sameBatches
  | updateWorld deltaTime => exact (manager.updateWorld_sameTick deltaTime).sameBatches
  | rehash players playerBatches => exact (step_reordered valid rfl).toSameBatches
  | sendWorldSnapshots => cases precedes
  | flushAllBatches => cases precedes

theorem sameBatches_of_run {start finish : GameManager} {moments : List Moment}
    (run : Run Moment.Happens start moments finish)
    (precede : ∀ moment ∈ moments, moment.event.precedesSnapshots = true) :
    SameBatches start finish := by
  refine (run.with_labels _ precede).preserves (SameBatches start) ?_ ⟨fun _ => rfl, rfl⟩
  intro before moment after same ⟨happens, precedes⟩
  have stepped := step_sameBatches happens.valid precedes
  rw [happens.step_eq] at stepped
  exact ⟨fun id => (stepped.batches id).trans (same.batches id), stepped.tick_eq.trans same.tick_eq⟩

theorem reordered_of_run {start finish : GameManager} {moments : List Moment}
    (run : Run Moment.Happens start moments finish)
    (rehash : ∀ moment ∈ moments, moment.event.isRehash = true) : Reordered start finish := by
  refine (run.with_labels _ rehash).preserves (Reordered start) ?_ (.refl start)
  intro before moment after same ⟨happens, rehashes⟩
  have stepped := step_reordered happens.valid rehashes
  rw [happens.step_eq] at stepped
  exact ⟨⟨fun id => (stepped.batches id).trans (same.batches id),
    stepped.tick_eq.trans same.tick_eq⟩, fun id => (stepped.players id).trans (same.players id)⟩

theorem announceEntry_not_worldSnapshot {manager : GameManager} {id : PlayerId}
    {session : SessionId} {request : Outgoing}
    (isRequest : request ∈ (manager.announceEntry id session).2) (snapshot : WorldSnapshot) :
    .worldSnapshot snapshot ∉ request.packets := by
  simp only [announceEntry, List.mem_append] at isRequest
  rcases isRequest with response | joined
  · unfold sendEnterZoneResponse at response
    split at response
    · cases response
    · cases List.mem_singleton.mp response
      simp
  · unfold broadcastPlayerJoined at joined
    split at joined
    · cases joined
    · obtain ⟨_, _, -, -, -, rfl⟩ := (mem_broadcast_iff _ _ _ _).mp joined
      simp

theorem processGameCommand_not_worldSnapshot {manager : GameManager} {command : GameCommand}
    {sessionFound : Bool} {spawnPosition : Vec3} {now later : TimePoint} {request : Outgoing}
    (isRequest : request ∈
      (manager.processGameCommand command sessionFound spawnPosition now later).2)
    (snapshot : WorldSnapshot) : .worldSnapshot snapshot ∉ request.packets := by
  have outcome := manager.processGameCommand_outcome command sessionFound spawnPosition now later
  generalize manager.processGameCommand command sessionFound spawnPosition now later = result
    at outcome isRequest
  cases outcome with
  | dropped => cases isRequest
  | input payload registered found allowed newer => cases isRequest
  | reentered payload registered found inactive =>
      exact announceEntry_not_worldSnapshot isRequest snapshot
  | spawned payload registered absent => exact announceEntry_not_worldSnapshot isRequest snapshot
  | disconnected payload found =>
      obtain ⟨_, _, -, -, -, rfl⟩ := (mem_broadcast_iff _ _ _ _).mp isRequest
      simp

/-- Snapshots leave through the flush only. -/
theorem step_not_worldSnapshot {manager : GameManager} {event : Event}
    (notFlush : event.isFlushAllBatches = false) (session : SessionId)
    (snapshot : WorldSnapshot) :
    (session, .worldSnapshot snapshot) ∉ (manager.step event).2.sent := by
  intro sent
  cases event with
  | processGameCommand command sessionFound spawnPosition now later delivered =>
      obtain ⟨request, isRequest, -, isPacket⟩ := exists_request_of_answered sent
      exact processGameCommand_not_worldSnapshot isRequest snapshot isPacket
  | updateWorld deltaTime => cases sent
  | sendWorldSnapshots serverTime => cases sent
  | flushAllBatches delivered => cases notFlush
  | rehash players playerBatches => cases sent

end GameManager

theorem batched_of_snapshotOf {manager : GameManager} {serverTime : Nat} {id : PlayerId}
    {snapshot : WorldSnapshot} (made : manager.ticked.snapshotOf serverTime id = some snapshot) :
    (id, snapshot) ∈ (manager.sendWorldSnapshots serverTime).2 := by
  obtain ⟨player, found, -⟩ := GameManager.snapshotOf_eq_some_iff.mp made
  have batched := GameManager.snapshotPlayers_batched serverTime
    (UnorderedMap.keys_nodup manager.world.players) manager.ticked
  have listed : (id, snapshot) ∈ manager.world.players.keys.filterMap fun id =>
      (manager.ticked.snapshotOf serverTime id).map (id, ·) :=
    List.mem_filterMap.mpr ⟨id, UnorderedMap.mem_keys_of_find? found, by rw [made]; rfl⟩
  exact batched ▸ listed

/-- The request of one player in the flush that follows a snapshot stage. -/
theorem request_after_snapshots {asked flushing : GameManager} (drained : asked.Drained)
    (serverTime : Nat)
    (reordered : GameManager.Reordered (asked.sendWorldSnapshots serverTime).1 flushing)
    (id : PlayerId) :
    (∃ player snapshot, asked.world.getPlayer id = some player ∧ player.isActive = true ∧
        (id, snapshot) ∈ (asked.sendWorldSnapshots serverTime).2 ∧
        snapshot.tickNumber = asked.tickNumber + 1 ∧
        (id, snapshotRequest player snapshot) ∈ flushing.flushRequests) ∨
      ¬ asked.world.Active id ∧ id ∉ flushing.flushRequests.map Prod.fst := by
  have batch : flushing.batchOf id =
      ((asked.ticked.snapshotOf serverTime id).map .worldSnapshot).toList := by
    rw [reordered.batches, GameManager.batchOf_sendWorldSnapshots, drained.batchOf_eq_nil]
    rfl
  by_cases active : asked.world.Active id
  · obtain ⟨player, found, active⟩ := active
    have made : asked.ticked.snapshotOf serverTime id = some (asked.ticked.snapshotFor
        (asked.ticked.getCachedPlayersInAOI id player.position).2 serverTime) :=
      GameManager.snapshotOf_eq_some_iff.mpr ⟨player, found, active, rfl⟩
    have still : flushing.world.getPlayer id = some player := by
      rw [reordered.players, (asked.sendWorldSnapshots_sameScene serverTime).world_eq, found]
    rw [made] at batch
    refine .inl ⟨player, asked.ticked.snapshotFor
      (asked.ticked.getCachedPlayersInAOI id player.position).2 serverTime, found, active,
      batched_of_snapshotOf made, rfl, ?_⟩
    refine GameManager.mem_flushRequests_iff.mpr ⟨by rw [batch]; simp, player, still, ?_⟩
    rw [batch]
    rfl
  · have none : asked.ticked.snapshotOf serverTime id = none :=
      GameManager.snapshotOf_eq_none serverTime active
    rw [none] at batch
    refine .inr ⟨active, fun member => ?_⟩
    obtain ⟨⟨_, request⟩, listed, rfl⟩ := List.mem_map.mp member
    exact (GameManager.mem_flushRequests_iff.mp listed).1 batch

theorem Event.not_isFlushAllBatches_of_precedes {event : Event}
    (precedes : event.precedesSnapshots = true) : event.isFlushAllBatches = false := by
  cases event <;> first | rfl | cases precedes

theorem Event.not_isFlushAllBatches_of_isRehash {event : Event} (rehash : event.isRehash = true) :
    event.isFlushAllBatches = false := by
  cases event <;> first | rfl | cases rehash

theorem Tick.not_isFlushAllBatches (tick : Tick) {moment : Moment}
    (member : moment ∈ tick.front ++ tick.send :: (tick.middle ++ tick.back)) :
    moment.event.isFlushAllBatches = false := by
  simp only [List.mem_append, List.mem_cons] at member
  rcases member with front | rfl | middle | back
  · exact Event.not_isFlushAllBatches_of_precedes (tick.front_precedes moment front)
  · obtain ⟨serverTime, taken⟩ := Event.exists_of_isSendWorldSnapshots tick.send_stage
    rw [taken]
    rfl
  · exact Event.not_isFlushAllBatches_of_isRehash (tick.middle_rehash moment middle)
  · exact Event.not_isFlushAllBatches_of_isRehash (tick.back_rehash moment back)

/-- Rehashing after the flush leaves the batches empty. -/
theorem drained_after_flush {flushed finish : GameManager} {back : List Moment}
    (drained : flushed.Drained) (run : Run Moment.Happens flushed back finish)
    (rehash : ∀ moment ∈ back, moment.event.isRehash = true) {moment : Moment}
    (member : moment ∈ back) : moment.after.Drained := by
  obtain ⟨earlier, later, rfl⟩ := List.append_of_mem member
  obtain ⟨_, _, first, happens, -⟩ := run.split_at
  obtain rfl := happens.after_eq
  have same := GameManager.reordered_of_run (first.snoc happens) fun other isOther =>
    rehash other (by
      rcases List.mem_append.mp isOther with earlier | last
      · exact List.mem_append_left _ earlier
      · exact List.mem_append_right _ (by simp [List.mem_singleton.mp last]))
  exact same.drained drained

/-- A tick as its two last stages see it. -/
structure Tick.Staged (tick : Tick) (serverTime : Nat) (delivered : List Bool) : Prop where
  send_event : tick.send.event = .sendWorldSnapshots serverTime
  batched_eq : tick.send.outputs.batched = (tick.send.before.sendWorldSnapshots serverTime).2
  flush_event : tick.flush.event = .flushAllBatches delivered
  drained_before : tick.send.before.Drained
  reordered :
    GameManager.Reordered (tick.send.before.sendWorldSnapshots serverTime).1 tick.flush.before
  sent_eq : tick.flush.outputs.sent = answered true tick.flush.before.flushAllBatches.2 delivered
  drained_after : ∀ moment ∈ tick.flush :: tick.back, moment.after.Drained

/-- A tick that starts with empty batches ends with empty batches, one tick later. -/
theorem Tick.exists_staged {tick : Tick} {start finish : GameManager} (drained : start.Drained)
    (run : Run Moment.Happens start tick.moments finish) :
    (∃ serverTime delivered, tick.Staged serverTime delivered) ∧ finish.Drained ∧
      tick.send.before.tickNumber = start.tickNumber ∧
      finish.tickNumber = start.tickNumber + 1 := by
  obtain ⟨_, sendAfter, frontRun, sends, rest⟩ := run.split_at
  obtain ⟨_, flushAfter, middleRun, flushes, backRun⟩ := rest.split_at
  obtain rfl := sends.before_eq
  obtain rfl := flushes.before_eq
  obtain ⟨serverTime, sendEvent⟩ := Event.exists_of_isSendWorldSnapshots tick.send_stage
  obtain ⟨delivered, flushEvent⟩ := Event.exists_of_isFlushAllBatches tick.flush_stage
  have frontSame := GameManager.sameBatches_of_run frontRun tick.front_precedes
  have middleSame := GameManager.reordered_of_run middleRun tick.middle_rehash
  have backSame := GameManager.reordered_of_run backRun tick.back_rehash
  have sendIs : sendAfter = (tick.send.before.sendWorldSnapshots serverTime).1 := by
    rw [sends.after_eq_step, sendEvent]
    rfl
  have flushIs : flushAfter = tick.flush.before.flushAllBatches.1 := by
    rw [flushes.after_eq_step, flushEvent]
    rfl
  subst sendIs flushIs
  have flushDrained := tick.flush.before.flushAllBatches_drained
  refine ⟨⟨serverTime, delivered, sendEvent, ?_, flushEvent, frontSame.drained drained, middleSame,
    ?_, ?_⟩, backSame.drained flushDrained, frontSame.tick_eq, ?_⟩
  · rw [sends.outputs_eq_step, sendEvent]
    rfl
  · rw [flushes.outputs_eq_step, flushEvent]
    rfl
  · intro moment member
    rcases List.mem_cons.mp member with rfl | later
    · rw [flushes.after_eq]
      exact flushDrained
    · exact drained_after_flush flushDrained backRun tick.back_rehash later
  · calc finish.tickNumber = tick.flush.before.tickNumber := backSame.tick_eq
      _ = (tick.send.before.sendWorldSnapshots serverTime).1.tickNumber := middleSame.tick_eq
      _ = tick.send.before.tickNumber + 1 := GameManager.tickNumber_sendWorldSnapshots _ _
      _ = start.tickNumber + 1 := by rw [frontSame.tick_eq]

namespace Tick.Staged

variable {tick : Tick} {serverTime : Nat} {delivered : List Bool}

theorem request_cases (staged : tick.Staged serverTime delivered) (id : PlayerId) :
    (∃ player snapshot, tick.send.before.world.getPlayer id = some player ∧
        player.isActive = true ∧ (id, snapshot) ∈ (tick.send.before.sendWorldSnapshots serverTime).2 ∧
        snapshot.tickNumber = tick.send.before.tickNumber + 1 ∧
        (id, snapshotRequest player snapshot) ∈ tick.flush.before.flushRequests) ∨
      ¬ tick.send.before.world.Active id ∧ id ∉ tick.flush.before.flushRequests.map Prod.fst :=
  request_after_snapshots staged.drained_before serverTime staged.reordered id

theorem enqueuedFor_cases (staged : tick.Staged serverTime delivered) (id : PlayerId) :
    (∃ player snapshot, tick.send.before.world.getPlayer id = some player ∧
        player.isActive = true ∧ snapshot.tickNumber = tick.send.before.tickNumber + 1 ∧
        tick.flush.enqueuedFor id = if tick.flush.reaches id = true
          then [(player.sessionId, .worldSnapshot snapshot)] else []) ∨
      ¬ tick.send.before.world.Active id ∧ tick.flush.enqueuedFor id = [] := by
  simp only [Moment.enqueuedFor, Moment.reaches, staged.flush_event]
  obtain ⟨player, snapshot, found, active, -, number, asked⟩ | ⟨inactive, absent⟩ :=
    staged.request_cases id
  · exact .inl ⟨player, snapshot, found, active, number,
      enqueuedFor_of_mem (GameManager.flushRequests_nodup _) asked delivered⟩
  · exact .inr ⟨inactive, enqueuedFor_of_not_mem absent delivered⟩

theorem delivers (staged : tick.Staged serverTime delivered) {start finish : GameManager}
    (run : Run Moment.Happens start tick.moments finish) : tick.Delivers := by
  have requests := GameManager.flushAllBatches_outgoing tick.flush.before
  have distinct := GameManager.flushRequests_nodup tick.flush.before
  refine ⟨requests, distinct, ?_, ?_, ?_, ?_, ?_, ?_, ?_, staged.drained_after⟩
  · intro id player found active
    obtain ⟨other, snapshot, otherFound, -, batched, number, asked⟩ | ⟨inactive, -⟩ :=
      staged.request_cases id
    · cases found.symm.trans otherFound
      exact ⟨snapshot, staged.batched_eq ▸ batched, number, asked⟩
    · exact absurd ⟨player, found, active⟩ inactive
  · intro id inactive
    obtain ⟨player, snapshot, found, active, -⟩ | ⟨-, absent⟩ := staged.request_cases id
    · exact absurd ⟨player, found, active⟩ inactive
    · exact absent
  · intro answers isFlush
    cases staged.flush_event.symm.trans isFlush
    rw [staged.sent_eq, enqueued_packets, requests]
  · intro connected answered id player found active
    obtain ⟨other, snapshot, otherFound, -, -, -, asked⟩ | ⟨inactive, -⟩ := staged.request_cases id
    · cases found.symm.trans otherFound
      simp only [Moment.reaches, staged.flush_event]
      refine reached_of_mem distinct asked fun index request isRequest => ?_
      exact answered delivered staged.flush_event index request (requests ▸ isRequest)
    · exact absurd ⟨player, found, active⟩ inactive
  · intro id player found active reaches
    obtain ⟨other, snapshot, otherFound, -, number, enqueues⟩ | ⟨inactive, -⟩ :=
      staged.enqueuedFor_cases id
    · rw [found] at otherFound
      cases otherFound
      rw [if_pos reaches] at enqueues
      exact ⟨snapshot, enqueues, number⟩
    · exact absurd ⟨player, found, active⟩ inactive
  · intro id condition
    obtain ⟨player, snapshot, found, active, -, enqueues⟩ | ⟨-, enqueues⟩ :=
      staged.enqueuedFor_cases id
    · rcases condition with inactive | unreached
      · exact absurd ⟨player, found, active⟩ inactive
      · rw [enqueues, unreached]
        rfl
    · exact enqueues
  · intro moment member session snapshot sent
    have within : moment ∈ tick.moments := by
      simp only [Tick.moments, List.mem_append, List.mem_cons] at member ⊢
      tauto
    obtain ⟨_, _, happens⟩ := run.exists_step_of_mem within
    rw [happens.outputs_eq_step] at sent
    exact GameManager.step_not_worldSnapshot (tick.not_isFlushAllBatches member) session snapshot
      sent

theorem snapshotTicks_flush (staged : tick.Staged serverTime delivered) (id : PlayerId) :
    tick.flush.snapshotTicks id = [] ∨
      tick.flush.snapshotTicks id = [tick.send.before.tickNumber + 1] := by
  unfold Moment.snapshotTicks
  obtain ⟨player, snapshot, -, -, number, enqueues⟩ | ⟨-, enqueues⟩ := staged.enqueuedFor_cases id
  · rw [enqueues]
    split
    · exact .inr (by simp [snapshotTick?, number])
    · exact .inl rfl
  · exact .inl (by rw [enqueues]; rfl)

end Tick.Staged

/-! ## The whole run -/

theorem Moment.snapshotTicks_eq_nil {moment : Moment}
    (notFlush : moment.event.isFlushAllBatches = false) (id : PlayerId) :
    moment.snapshotTicks id = [] := by
  unfold Moment.snapshotTicks Moment.enqueuedFor
  cases taken : moment.event with
  | flushAllBatches delivered => simp [taken, Event.isFlushAllBatches] at notFlush
  | _ => rfl

theorem Tick.snapshotTicks_moments (tick : Tick) (id : PlayerId) :
    tick.moments.flatMap (·.snapshotTicks id) = tick.flush.snapshotTicks id := by
  have silent : ∀ part : List Moment, (∀ moment ∈ part,
      moment ∈ tick.front ++ tick.send :: (tick.middle ++ tick.back)) →
      part.flatMap (·.snapshotTicks id) = [] := by
    intro part within
    exact List.flatMap_eq_nil_iff.mpr fun moment member =>
      Moment.snapshotTicks_eq_nil (tick.not_isFlushAllBatches (within moment member)) id
  have send := silent [tick.send] (by simp)
  simp only [List.flatMap_cons, List.flatMap_nil, List.append_nil] at send
  rw [Tick.moments, List.flatMap_append, List.flatMap_cons, List.flatMap_append, List.flatMap_cons,
    silent tick.front (by simp +contextual), send, silent tick.middle (by simp +contextual),
    silent tick.back (by simp +contextual)]
  simp

theorem delivers_of_run {ticks : List Tick} {rest : List Moment} {start finish : GameManager}
    (drained : start.Drained)
    (run : Run Moment.Happens start (ticks.flatMap Tick.moments ++ rest) finish)
    (unfinished : ∀ moment ∈ rest, moment.event.isFlushAllBatches = false) :
    (∀ tick ∈ ticks, tick.Delivers) ∧ ∀ id,
      ((ticks.flatMap Tick.moments ++ rest).flatMap (·.snapshotTicks id)).Pairwise (· < ·) ∧
      ∀ number ∈ (ticks.flatMap Tick.moments ++ rest).flatMap (·.snapshotTicks id),
        start.tickNumber < number := by
  induction ticks generalizing start with
  | nil =>
      have silent : ∀ id, rest.flatMap (·.snapshotTicks id) = [] := fun id =>
        List.flatMap_eq_nil_iff.mpr fun moment member =>
          Moment.snapshotTicks_eq_nil (unfinished moment member) id
      simp [silent]
  | cons tick ticks ih =>
      rw [List.flatMap_cons, List.append_assoc] at run
      obtain ⟨middle, first, later⟩ := run.split
      obtain ⟨⟨serverTime, delivered, staged⟩, middleDrained, sendTick, middleTick⟩ :=
        Tick.exists_staged drained first
      obtain ⟨deliver, increasing⟩ := ih middleDrained later
      refine ⟨fun other member => ?_, fun id => ?_⟩
      · rcases List.mem_cons.mp member with rfl | member
        · exact staged.delivers first
        · exact deliver other member
      · obtain ⟨ordered, above⟩ := increasing id
        rw [List.flatMap_cons, List.append_assoc, List.flatMap_append, tick.snapshotTicks_moments]
        rw [middleTick] at above
        obtain none | one := staged.snapshotTicks_flush id
        · rw [none, List.nil_append]
          exact ⟨ordered, fun number member => (Nat.lt_succ_self _).trans (above number member)⟩
        · rw [one, sendTick, List.singleton_append]
          refine ⟨List.pairwise_cons.mpr ⟨above, ordered⟩, ?_⟩
          intro number member
          rcases List.mem_cons.mp member with rfl | member
          · exact Nat.lt_succ_self _
          · exact (Nat.lt_succ_self _).trans (above number member)

/-- Every tick of every run gives each active player whose session is reached exactly one
snapshot, with the number of the tick, and the numbers a player gets increase. -/
theorem one_snapshot_per_tick {config : GameConfig} {ticks : List Tick} {rest : List Moment}
    {finish : GameManager} (trace : Trace config (ticks.flatMap Tick.moments ++ rest) finish)
    (unfinished : ∀ moment ∈ rest, moment.event.isFlushAllBatches = false) :
    (∀ tick ∈ ticks, tick.Delivers) ∧ ∀ id,
      ((ticks.flatMap Tick.moments ++ rest).flatMap (·.snapshotTicks id)).Pairwise (· < ·) := by
  obtain ⟨start, created, run⟩ := trace
  have drained : start.Drained := by
    obtain ⟨quadTree, -, rfl⟩ := Option.map_eq_some_iff.mp created
    intro id packets found
    simp at found
  obtain ⟨deliver, increasing⟩ := delivers_of_run drained run unfinished
  exact ⟨deliver, fun id => (increasing id).1⟩

/-- Two ticks with two players; the session of the second one is gone in the second tick. -/
theorem one_snapshot_per_tick_of_neighbours :
    ∃ (ticks : List Tick) (finish : GameManager),
      Trace {} (ticks.flatMap Tick.moments ++ []) finish ∧ ticks.length = 2 ∧
      (∀ tick ∈ ticks, tick.Delivers) ∧
      (ticks.flatMap Tick.moments).flatMap (·.snapshotTicks 1) = [1, 2] ∧
      (ticks.flatMap Tick.moments).flatMap (·.snapshotTicks 2) = [1] ∧
      ∀ id : PlayerId, ((ticks.flatMap Tick.moments ++ []).flatMap
        fun moment : Moment => moment.snapshotTicks id).Pairwise (· < ·) := by
  have executed : (trace? {} (neighboursUntilTick ++ [.updateWorld (1 / 50),
      .sendWorldSnapshots 40, .flushAllBatches [true, false]])).any (fun result =>
        match result.1 with
        | [enter, join, move, send, flush, move', send', flush'] =>
            decide ((∀ moment ∈ [enter, join, move, move'],
                moment.event.precedesSnapshots = true) ∧
              send.event.isSendWorldSnapshots = true ∧ flush.event.isFlushAllBatches = true ∧
              send'.event.isSendWorldSnapshots = true ∧ flush'.event.isFlushAllBatches = true ∧
              [enter, join, move, send, flush, move', send', flush'].flatMap (·.snapshotTicks 1) =
                [1, 2] ∧
              [enter, join, move, send, flush, move', send', flush'].flatMap (·.snapshotTicks 2) =
                [1])
        | _ => false) = true := by decide +kernel
  obtain ⟨⟨moments, finish⟩, followed, checked⟩ := (Option.any_eq_true _ _).mp executed
  dsimp only at checked
  split at checked
  · next enter join move send flush move' send' flush' =>
      obtain ⟨precede, sends, flushes, sends', flushes', first, second⟩ := of_decide_eq_true checked
      have trace := trace_of_trace? followed
      let ticks : List Tick :=
        [⟨[enter, join, move], send, [], flush, [], fun moment member =>
            precede moment (by simp at member ⊢; tauto), sends, by simp, flushes, by simp⟩,
          ⟨[move'], send', [], flush', [], fun moment member =>
            precede moment (by simp at member ⊢; tauto), sends', by simp, flushes', by simp⟩]
      have split : ticks.flatMap Tick.moments ++ [] =
          [enter, join, move, send, flush, move', send', flush'] := rfl
      obtain ⟨deliver, increasing⟩ := one_snapshot_per_tick (split ▸ trace) (by simp)
      exact ⟨ticks, finish, split ▸ trace, rfl, deliver, first, second, increasing⟩
  · cases checked

end CppMMO.Game.Managers
