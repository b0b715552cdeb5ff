import CppMMO.Game.Managers.SnapshotProperties
import CppMMO.Game.Managers.SpatialIndexProperties

/-! What a client is told about other players over time: snapshots against the
messages that announce arrivals and departures. -/

set_option autoImplicit false

namespace CppMMO.Game.Managers

open CppMMO.Lib CppMMO.Protocol CppMMO.Game.Models CppMMO.Game.Spatial

def Event.entering (event : Event) : Option PlayerId :=
  (event.command?.bind (·.payload.enterZone?)).map (·.playerId)

namespace Moment

structure Enters (moment : Moment) (id : PlayerId) : Prop where
  entering : moment.event.entering = some id
  wasInactive : ¬ moment.before.world.Active id
  isActive : moment.after.world.Active id

def TellsLeft (moment : Moment) (id left : PlayerId) : Prop :=
  ∃ player ∈ moment.before.world.getPlayer id,
    (player.sessionId, .playerLeft left) ∈ moment.outputs.sent

instance (moment : Moment) (id left : PlayerId) : Decidable (moment.TellsLeft id left) :=
  inferInstanceAs (Decidable (∃ player ∈ moment.before.world.getPlayer id, _))

def Shows (moment : Moment) (id shown : PlayerId) : Prop :=
  ∃ entry ∈ moment.outputs.batched, entry.1 = id ∧ entry.2.Lists shown

instance (moment : Moment) (id shown : PlayerId) : Decidable (moment.Shows id shown) :=
  inferInstanceAs (Decidable (∃ entry ∈ moment.outputs.batched, _))

def Introduces (moment : Moment) (packets : List (SessionId × ServerPacket))
    (id introduced : PlayerId) : Prop :=
  ∃ player ∈ moment.after.world.getPlayer id, ∃ entry ∈ packets,
    entry.1 = player.sessionId ∧ entry.2.Introduces introduced

instance (moment : Moment) (packets : List (SessionId × ServerPacket))
    (id introduced : PlayerId) : Decidable (moment.Introduces packets id introduced) :=
  inferInstanceAs (Decidable (∃ player ∈ moment.after.world.getPlayer id, _))

end Moment

/-! ## Steps -/

namespace Moment.Happens

variable {before after : GameManager} {moment : Moment}

theorem kept_or_enters (happens : moment.Happens before after) {id : PlayerId} {player : Player}
    (found : after.world.getPlayer id = some player) (active : player.isActive = true) :
    (∃ earlier, before.world.getPlayer id = some earlier ∧ earlier.isActive = true ∧
      earlier.sessionId = player.sessionId) ∨ moment.Enters id := by
  have enters : ∀ {command sessionFound spawnPosition now later delivered},
      moment.event = .processGameCommand command sessionFound spawnPosition now later delivered →
      (∃ data, command.payload = .enterZone data ∧ data.playerId = id) →
      ¬ before.world.Active id → moment.Enters id := by
    rintro command _ _ _ _ _ event_eq ⟨data, payload, rfl⟩ inactive
    refine ⟨?_, happens.before_eq ▸ inactive, happens.after_eq ▸ ⟨player, found, active⟩⟩
    simp [event_eq, Event.entering, Event.command?, GameCommandPayload.enterZone?, payload]
  have valid := happens.valid
  rw [happens.after_eq_step] at found
  cases event_eq : moment.event with
  | processGameCommand command sessionFound spawnPosition now later delivered =>
      rw [event_eq] at found
      obtain kept | ⟨data, entered⟩ := GameManager.kept_or_entered found active
      · exact .inl kept
      · exact .inr (enters event_eq ⟨data, entered.payload, entered.id_eq⟩ entered.wasInactive)
  | updateWorld deltaTime =>
      rw [event_eq] at found
      exact .inl (GameManager.kept_updateWorld found active)
  | sendWorldSnapshots serverTime =>
      rw [event_eq] at found
      have scene := GameManager.sendWorldSnapshots_sameScene before serverTime
      exact .inl ⟨player, scene.world_eq ▸ found, active, rfl⟩
  | flushAllBatches delivered =>
      rw [event_eq] at found
      exact .inl ⟨player, found, active, rfl⟩
  | rehash players playerBatches =>
      rw [event_eq] at found valid
      exact .inl ⟨player, (valid.1.find?_eq id).symm.trans found, active, rfl⟩

theorem enters_of_active (happens : moment.Happens before after) {id : PlayerId}
    (inactive : ¬ before.world.Active id) (active : after.world.Active id) : moment.Enters id := by
  obtain ⟨player, found, isActive⟩ := active
  obtain ⟨earlier, foundEarlier, wasActive, -⟩ | enters := happens.kept_or_enters found isActive
  · exact absurd ⟨earlier, foundEarlier, wasActive⟩ inactive
  · exact enters

end Moment.Happens

theorem active_or_enters {start finish : GameManager} {moments : List Moment}
    (run : Run Moment.Happens start moments finish) {id : PlayerId}
    (active : finish.world.Active id) :
    start.world.Active id ∨ ∃ moment ∈ moments, moment.Enters id := by
  by_cases already : start.world.Active id
  · exact .inl already
  · obtain ⟨front, moment, back, before, after, rfl, -, happens, -, inactive, becomes⟩ :=
      run.exists_change (fun manager => manager.world.Active id) already active
    exact .inr ⟨moment, by simp, happens.enters_of_active inactive becomes⟩

/-! ## Requests -/

namespace GameManager

theorem announceEntry_not_playerLeft {manager : GameManager} {id left : PlayerId}
    {session : SessionId} {request : Outgoing}
    (isRequest : request ∈ (manager.announceEntry id session).2) :
    .playerLeft left ∉ request.packets := by
  intro isPacket
  rcases List.mem_append.mp isRequest with response | joined
  · unfold sendEnterZoneResponse at response
    split at response
    · cases response
    · cases List.mem_singleton.mp response
      simp at isPacket
  · unfold broadcastPlayerJoined at joined
    split at joined
    · cases joined
    · obtain ⟨_, _, -, -, -, rfl⟩ := (mem_broadcast_iff _ _ _ _).mp joined
      simp at isPacket

theorem not_active_of_playerLeft_request {manager : GameManager} {command : GameCommand}
    {sessionFound : Bool} {spawnPosition : Vec3} {now later : TimePoint} {request : Outgoing}
    {left : PlayerId}
    (isRequest : request ∈
      (manager.processGameCommand command sessionFound spawnPosition now later).2)
    (isPacket : .playerLeft left ∈ request.packets) :
    ¬ (manager.processGameCommand command sessionFound spawnPosition now later).1.world.Active
      left := by
  have outcome := manager.processGameCommand_outcome command sessionFound spawnPosition now later
  generalize manager.processGameCommand command sessionFound spawnPosition now later = result
    at outcome isRequest ⊢
  cases outcome with
  | dropped => cases isRequest
  | input payload registered found allowed newer => cases isRequest
  | reentered payload registered found inactive =>
      exact absurd isPacket (announceEntry_not_playerLeft isRequest)
  | spawned payload registered absent =>
      exact absurd isPacket (announceEntry_not_playerLeft isRequest)
  | disconnected payload found =>
      obtain ⟨_, _, -, -, -, rfl⟩ := (mem_broadcast_iff _ _ _ _).mp isRequest
      simp only [List.mem_singleton, ServerPacket.playerLeft.injEq] at isPacket
      subst isPacket
      exact not_active_withDisconnected _ _ _

theorem worldSnapshot_of_flushed {manager : GameManager} (only : manager.OnlySnapshots)
    {request : Outgoing} (isRequest : request ∈ manager.flushAllBatches.2) {packet : ServerPacket}
    (isPacket : packet ∈ request.packets) : ∃ snapshot, packet = .worldSnapshot snapshot := by
  obtain ⟨⟨id, packets⟩, listed, flushed⟩ := List.mem_filterMap.mp isRequest
  dsimp only at flushed
  split at flushed
  · cases flushed
  · obtain ⟨player, -, rfl⟩ := Option.map_eq_some_iff.mp flushed
    exact only id packets ((UnorderedMap.mem_toList_iff _ _ _).mp listed) packet isPacket

end GameManager

namespace Moment.Happens

variable {before after : GameManager} {moment : Moment}

theorem not_active_of_playerLeft (happens : moment.Happens before after)
    (only : before.OnlySnapshots) {session : SessionId} {left : PlayerId}
    (sent : (session, .playerLeft left) ∈ moment.outputs.sent) : ¬ after.world.Active left := by
  rw [happens.outputs_eq_step] at sent
  rw [happens.after_eq_step]
  generalize moment.event = event at sent ⊢
  cases event with
  | processGameCommand command sessionFound spawnPosition now later delivered =>
      obtain ⟨request, isRequest, -, isPacket⟩ := exists_request_of_answered sent
      exact GameManager.not_active_of_playerLeft_request isRequest isPacket
  | updateWorld deltaTime => cases sent
  | sendWorldSnapshots serverTime => cases sent
  | flushAllBatches delivered =>
      obtain ⟨request, isRequest, -, isPacket⟩ := exists_request_of_answered sent
      obtain ⟨snapshot, same⟩ := GameManager.worldSnapshot_of_flushed only isRequest isPacket
      cases same
  | rehash players playerBatches => cases sent

theorem sendWorldSnapshots_of_shows (happens : moment.Happens before after) {id shown : PlayerId}
    (showing : moment.Shows id shown) :
    ∃ serverTime snapshot, moment.event = .sendWorldSnapshots serverTime ∧
      (id, snapshot) ∈ (before.sendWorldSnapshots serverTime).2 ∧ snapshot.Lists shown := by
  obtain ⟨⟨_, snapshot⟩, batched, rfl, lists⟩ := showing
  rw [happens.outputs_eq_step] at batched
  cases event_eq : moment.event with
  | sendWorldSnapshots serverTime =>
      rw [event_eq] at batched
      exact ⟨serverTime, snapshot, rfl, batched, lists⟩
  | processGameCommand => rw [event_eq] at batched; cases batched
  | updateWorld => rw [event_eq] at batched; cases batched
  | flushAllBatches => rw [event_eq] at batched; cases batched
  | rehash => rw [event_eq] at batched; cases batched

end Moment.Happens

/-! ## Departed players -/

def GameManager.Live (manager : GameManager) (id : PlayerId) (cache : AOICache) : Prop :=
  ∀ other ∈ cache.visiblePlayers, other ≠ id → manager.world.Active other

-- Named, since player ids are a finite type too and must not be enumerated.
instance (manager : GameManager) (id : PlayerId) (cache : AOICache) :
    Decidable (manager.Live id cache) :=
  List.decidableBAll _ cache.visiblePlayers

/-- No player is about to be sent a stored list with somebody who is no longer active. -/
def GameManager.CachesLive (manager : GameManager) : Prop :=
  ∀ entry ∈ manager.aoiCache.toList, manager.Reuses entry.1 entry.2 → manager.Live entry.1 entry.2

instance (manager : GameManager) : Decidable manager.CachesLive :=
  inferInstanceAs (Decidable (∀ entry ∈ manager.aoiCache.toList, _))

def Moment.CachesLive (moment : Moment) : Prop :=
  moment.event.isSendWorldSnapshots = true → moment.before.CachesLive

instance (moment : Moment) : Decidable moment.CachesLive :=
  inferInstanceAs (Decidable (_ = true → _))

/-- Once one player was told that another one left, no snapshot shows that one until it
enters again. -/
def NoGhostsAfterLeave (moments : List Moment) : Prop :=
  ∀ (id other : PlayerId) (front : List Moment) (left : Moment) (middle : List Moment)
    (shown : Moment) (back : List Moment), id ≠ other →
    moments = front ++ left :: (middle ++ shown :: back) → left.TellsLeft id other →
    shown.Shows id other → ∃ moment ∈ middle, moment.Enters other

theorem noGhostsAfterLeave {config : GameConfig} {moments : List Moment} {finish : GameManager}
    (trace : Trace config moments finish) (live : ∀ moment ∈ moments, moment.CachesLive) :
    NoGhostsAfterLeave moments := by
  rintro id other front left middle shown back different rfl ⟨player, -, sent⟩ showing
  obtain ⟨start, created, run⟩ := trace
  obtain ⟨told, quiet, first, leftHappens, rest⟩ := run.split_at
  obtain ⟨asked, _, between, shownHappens, -⟩ := rest.split_at
  have only : told.OnlySnapshots := (GameManager.OnlySnapshots.create created).run first
  have gone : ¬ quiet.world.Active other := leftHappens.not_active_of_playerLeft only sent
  have indexed : GameManager.Indexed config asked :=
    (((GameManager.Indexed.create created).run first).run (.cons leftHappens .nil)).run between
  obtain ⟨serverTime, snapshot, event_eq, batched, lists⟩ :=
    shownHappens.sendWorldSnapshots_of_shows showing
  have back_again : asked.world.Active other := by
    obtain ⟨viewer, found, active, queried | ⟨cache, reuses, cached⟩⟩ :=
      GameManager.listed_of_batched batched lists
    · obtain ⟨seen, foundSeen, seenActive, -⟩ := (indexed.mem_query_iff _ _ other).mp queried
      exact ⟨seen, foundSeen, seenActive⟩
    · have shownLive := live shown (by simp) (by rw [event_eq]; rfl)
      rw [shownHappens.before_eq] at shownLive
      have stored : asked.aoiCache.find? id = some cache := reuses.choose_spec.2.2.1
      exact shownLive (id, cache) ((UnorderedMap.mem_toList_iff _ _ _).mpr stored) reuses other
        cached different.symm
  exact (active_or_enters between back_again).resolve_left gone

def neighboursUntilTick : List Event :=
  [.enterZone 1 1 ⟨20, 20, 0⟩ [true], .enterZone 2 2 ⟨30, 20, 0⟩ [true, true],
    .updateWorld (1 / 50), .sendWorldSnapshots 20, .flushAllBatches [true, true]]

def disconnectSecond : Event :=
  .processGameCommand ⟨.playerDisconnect ⟨2⟩, 2⟩ false ⟨20, 20, 0⟩ 40000000 40000000 [true]

/-- The departure falls on the tick in which the stored lists expire, and the player is
back before the next snapshots. -/
theorem noGhostsAfterLeave_when_lists_expire :
    ∃ moments finish, Trace {} moments finish ∧ NoGhostsAfterLeave moments ∧
      (∃ left ∈ moments, left.TellsLeft 1 2) ∧ ∃ shown ∈ moments.getLast?, shown.Shows 1 2 := by
  have executed : (trace? {} (neighboursUntilTick ++ [.sendWorldSnapshots 40,
      .sendWorldSnapshots 60, disconnectSecond, .enterZone 2 3 ⟨20, 20, 0⟩ [true, true],
      .sendWorldSnapshots 80])).map (fun result => decide ((∀ moment ∈ result.1, moment.CachesLive) ∧
        (∃ left ∈ result.1, left.TellsLeft 1 2) ∧ ∃ shown ∈ result.1.getLast?, shown.Shows 1 2)) =
          some true := by decide +kernel
  obtain ⟨⟨moments, finish⟩, followed, checked⟩ := Option.map_eq_some_iff.mp executed
  obtain ⟨live, tells, shows⟩ := of_decide_eq_true checked
  have trace := trace_of_trace? followed
  exact ⟨moments, finish, trace, noGhostsAfterLeave trace live, tells, shows⟩

/-- In the tick of the departure the list stored one tick ago is sent again. -/
theorem ghost_in_tick_of_departure :
    ∃ moments finish, Trace {} moments finish ∧ ¬ NoGhostsAfterLeave moments := by
  have executed : (trace? {} (neighboursUntilTick ++ [disconnectSecond, .updateWorld (1 / 50),
      .sendWorldSnapshots 40])).map (fun result => match result.1 with
        | [_, _, _, _, _, left, move, shown] => decide (left.TellsLeft 1 2 ∧ shown.Shows 1 2 ∧
            move.event.entering ≠ some 2)
        | _ => false) = some true := by decide +kernel
  obtain ⟨⟨moments, finish⟩, followed, checked⟩ := Option.map_eq_some_iff.mp executed
  have trace := trace_of_trace? followed
  dsimp only at checked
  split at checked
  · next first second third fourth fifth left move shown =>
      obtain ⟨tells, shows, other⟩ := of_decide_eq_true checked
      refine ⟨_, finish, trace, fun noGhosts => ?_⟩
      obtain ⟨moment, member, enters⟩ := noGhosts 1 2 [first, second, third, fourth, fifth] left
        [move] shown [] (by decide) rfl tells shows
      cases List.mem_singleton.mp member
      exact other enters.entering
  · cases checked

/-! ## Introductions -/

def Event.Built (event : Event) : Prop := ∀ command ∈ event.command?, command.Built

instance (event : Event) : Decidable event.Built :=
  inferInstanceAs (Decidable (∀ command ∈ event.command?, _))

/-- The other player is active and too far away when the first one enters. -/
def Moment.OutOfRange (moment : Moment) (id other : PlayerId) : Prop :=
  ∃ player ∈ moment.after.world.getPlayer id, ∃ far ∈ moment.after.world.getPlayer other,
    far.isActive = true ∧ moment.after.config.aoiRange * moment.after.config.aoiRange <
      far.position.distSqXY player.position

instance (moment : Moment) (id other : PlayerId) : Decidable (moment.OutOfRange id other) :=
  inferInstanceAs (Decidable (∃ player ∈ moment.after.world.getPlayer id,
    ∃ far ∈ moment.after.world.getPlayer other, _))

def Moment.RepeatsListOf (moment : Moment) (id : PlayerId) (tick : Nat) : Prop :=
  ∃ cache, moment.before.Reuses id cache ∧ cache.lastUpdateTick ≤ tick

/-- What a run shows one player of others was introduced to it since it last entered. -/
def IntroducedBeforeSeen (moments : List Moment) : Prop :=
  ∀ (id other : PlayerId) (front : List Moment) (enter : Moment) (middle : List Moment)
    (shown : Moment) (back : List Moment), id ≠ other →
    moments = front ++ enter :: (middle ++ shown :: back) → enter.Enters id →
    (∀ moment ∈ middle, ¬ moment.Enters id) → shown.Shows id other →
    ∃ moment ∈ enter :: middle, moment.Introduces moment.outputs.sent id other

/-- The same with packets for a session that was gone, and with what is left out: somebody who
has not entered since the entry of the one player and was then active out of its range, or was
inactive, so that the snapshot repeats a list stored before. -/
def IntroducedInRange (moments : List Moment) : Prop :=
  ∀ (id other : PlayerId) (front : List Moment) (enter : Moment) (middle : List Moment)
    (shown : Moment) (back : List Moment), id ≠ other →
    moments = front ++ enter :: (middle ++ shown :: back) → enter.Enters id →
    (∀ moment ∈ middle, ¬ moment.Enters id) → shown.Shows id other →
    (∃ moment ∈ enter :: middle,
      moment.Introduces (moment.outputs.sent ++ moment.outputs.refused) id other) ∨
    (∀ moment ∈ middle, ¬ moment.Enters other) ∧
      (enter.OutOfRange id other ∨
        ¬ enter.after.world.Active other ∧ shown.RepeatsListOf id enter.after.tickNumber)

/-- Along a run, whoever is in a list stored since its start was active at the start or
entered. -/
structure SeenSince (config : GameConfig) (start : GameManager) (past : List Moment)
    (manager : GameManager) : Prop where
  run : Run Moment.Happens start past manager
  indexed : manager.Indexed config
  seen : ∀ id cache, manager.aoiCache.find? id = some cache →
    start.tickNumber < cache.lastUpdateTick → ∀ other ∈ cache.visiblePlayers,
    start.world.Active other ∨ ∃ moment ∈ past, moment.Enters other

theorem Moment.Happens.cached_or_refreshed {before after : GameManager} {moment : Moment}
    (happens : moment.Happens before after) {id : PlayerId} {cache : AOICache}
    (cached : after.aoiCache.find? id = some cache) :
    before.aoiCache.find? id = some cache ∨
      before.ticked.Refreshed id cache ∧ after.tickNumber = before.tickNumber + 1 := by
  rw [happens.after_eq_step] at cached ⊢
  generalize moment.event = event at cached ⊢
  cases event with
  | processGameCommand command sessionFound spawnPosition now later delivered =>
      have same :=
        before.processGameCommand_sameTick command sessionFound spawnPosition now later
      exact .inl (same.cache_eq ▸ cached)
  | updateWorld deltaTime => exact .inl ((before.updateWorld_sameTick deltaTime).cache_eq ▸ cached)
  | sendWorldSnapshots serverTime =>
      exact (GameManager.aoiCache_sendWorldSnapshots cached).imp_right fun requeried =>
        ⟨requeried.refreshed, before.tickNumber_sendWorldSnapshots serverTime⟩
  | flushAllBatches delivered => exact .inl cached
  | rehash players playerBatches => exact .inl cached

theorem Moment.Happens.tickNumber_le {before after : GameManager} {moment : Moment}
    (happens : moment.Happens before after) : before.tickNumber ≤ after.tickNumber := by
  rw [happens.after_eq_step]
  cases moment.event with
  | processGameCommand command sessionFound spawnPosition now later delivered =>
      exact (before.processGameCommand_sameTick command sessionFound spawnPosition now
        later).tick_eq.ge
  | updateWorld deltaTime => exact (before.updateWorld_sameTick deltaTime).tick_eq.ge
  | sendWorldSnapshots serverTime =>
      exact (Nat.le_succ _).trans (before.tickNumber_sendWorldSnapshots serverTime).ge
  | flushAllBatches delivered => exact le_rfl
  | rehash players playerBatches => exact le_rfl

def GameManager.CachesPast (manager : GameManager) : Prop :=
  ∀ id cache, manager.aoiCache.find? id = some cache → cache.lastUpdateTick ≤ manager.tickNumber

theorem GameManager.CachesPast.of_trace {config : GameConfig} {moments : List Moment}
    {finish : GameManager} (trace : Trace config moments finish) : finish.CachesPast := by
  refine Trace.preserves GameManager.CachesPast ?_ ?_ trace
  · intro quadTree id cache cached
    simp at cached
  · intro before moment after past happens id cache cached
    obtain stored | ⟨refreshed, ticked⟩ := happens.cached_or_refreshed cached
    · exact (past id cache stored).trans happens.tickNumber_le
    · rw [refreshed.tick_eq, ticked]
      rfl

theorem SeenSince.step {config : GameConfig} {start before after : GameManager}
    {past : List Moment} {moment : Moment} (since : SeenSince config start past before)
    (happens : moment.Happens before after) :
    SeenSince config start (past ++ [moment]) after := by
  refine ⟨since.run.snoc happens, since.indexed.run (.cons happens .nil), ?_⟩
  have widen : ∀ other, (start.world.Active other ∨ ∃ earlier ∈ past, earlier.Enters other) →
      start.world.Active other ∨ ∃ earlier ∈ past ++ [moment], earlier.Enters other :=
    fun other => Or.imp_right fun ⟨earlier, member, enters⟩ =>
      ⟨earlier, List.mem_append_left _ member, enters⟩
  intro id cache cached recent other member
  obtain stored | ⟨⟨⟨player, found, active, visible⟩, -⟩, -⟩ := happens.cached_or_refreshed cached
  · exact widen other (since.seen id cache stored recent other member)
  · rw [visible] at member
    obtain ⟨seen, foundSeen, seenActive, -⟩ := (since.indexed.mem_query_iff _ _ other).mp member
    exact widen other (active_or_enters since.run ⟨seen, foundSeen, seenActive⟩)

theorem active_or_enters_of_shown {config : GameConfig} {start asked after : GameManager}
    {middle : List Moment} {shown : Moment} {id other : PlayerId}
    (indexed : start.Indexed config)
    (past : start.CachesPast)
    (between : Run Moment.Happens start middle asked) (happens : shown.Happens asked after)
    (showing : shown.Shows id other) (recent : ¬ shown.RepeatsListOf id start.tickNumber) :
    start.world.Active other ∨ ∃ moment ∈ middle, moment.Enters other := by
  have initially : SeenSince config start [] start :=
    ⟨.nil, indexed, fun id cache cached late => absurd late (past id cache cached).not_gt⟩
  have since : SeenSince config start middle asked :=
    between.preserves_history (SeenSince config start) SeenSince.step initially
  obtain ⟨serverTime, snapshot, -, batched, lists⟩ := happens.sendWorldSnapshots_of_shows showing
  obtain ⟨viewer, found, active, queried | ⟨cache, reuses, member⟩⟩ :=
    GameManager.listed_of_batched batched lists
  · obtain ⟨seen, foundSeen, seenActive, -⟩ := (since.indexed.mem_query_iff _ _ other).mp queried
    exact active_or_enters since.run ⟨seen, foundSeen, seenActive⟩
  · have late : start.tickNumber < cache.lastUpdateTick := by
      by_contra early
      exact recent ⟨cache, happens.before_eq ▸ reuses, Nat.le_of_not_lt early⟩
    exact since.seen id cache reuses.choose_spec.2.2.1 late other member

theorem Moment.Happens.announces {before after : GameManager} {moment : Moment} {id : PlayerId}
    (happens : moment.Happens before after) (enters : moment.Enters id) :
    ∃ command sessionFound spawnPosition now later delivered data player,
      moment.event = .processGameCommand command sessionFound spawnPosition now later delivered ∧
      command.payload = .enterZone data ∧ after.world.getPlayer id = some player ∧
      player.sessionId = data.sessionId ∧
      moment.outputs = .ofRequests (after.announceEntry id command.senderSessionId).2 delivered := by
  obtain ⟨entering, wasInactive, isActive⟩ := enters
  obtain ⟨before_eq, after_eq, -, step_eq⟩ := happens
  rw [before_eq] at wasInactive
  rw [after_eq] at isActive
  cases event_eq : moment.event with
  | updateWorld | sendWorldSnapshots | flushAllBatches | rehash =>
      simp [event_eq, Event.entering, Event.command?] at entering
  | processGameCommand command sessionFound spawnPosition now later delivered =>
      have outcome :=
        before.processGameCommand_outcome command sessionFound spawnPosition now later
      rw [event_eq] at step_eq
      simp only [event_eq, Event.entering, Event.command?, Option.bind_some] at entering
      simp only [GameManager.step] at step_eq
      generalize before.processGameCommand command sessionFound spawnPosition now later = result
        at outcome step_eq
      obtain ⟨rfl, outputs_eq⟩ := Prod.mk.inj step_eq
      cases outcome with
      | dropped => exact absurd isActive wasInactive
      | input payload => simp [payload, GameCommandPayload.enterZone?] at entering
      | disconnected payload => simp [payload, GameCommandPayload.enterZone?] at entering
      | @reentered data player payload registered found inactive =>
          simp only [payload, GameCommandPayload.enterZone?, Option.map_some,
            Option.some.injEq] at entering
          subst entering
          have written := GameManager.getPlayer_withReentered before data player.position now
            data.playerId
          rw [if_pos rfl, found, Option.map_some] at written
          exact ⟨command, _, _, _, _, delivered, data, _, rfl, payload, written, rfl,
            outputs_eq.symm⟩
      | @spawned data payload registered absent =>
          simp only [payload, GameCommandPayload.enterZone?, Option.map_some,
            Option.some.injEq] at entering
          subst entering
          have written := GameManager.getPlayer_withSpawned before data spawnPosition data.playerId
          rw [if_pos rfl] at written
          exact ⟨command, _, _, _, _, delivered, data, _, rfl, payload, written, rfl,
            outputs_eq.symm⟩

theorem Moment.Introduces.of_request {moment : Moment} {outgoing : List Outgoing}
    {delivered : List Bool} {request : Outgoing} {packet : ServerPacket} {id introduced : PlayerId}
    {player : Player} (outputs_eq : moment.outputs = .ofRequests outgoing delivered)
    (isRequest : request ∈ outgoing) (isPacket : packet ∈ request.packets)
    (found : moment.after.world.getPlayer id = some player)
    (addressed : request.session = player.sessionId) (carries : packet.Introduces introduced) :
    moment.Introduces (moment.outputs.sent ++ moment.outputs.refused) id introduced := by
  refine ⟨player, found, (request.session, packet), ?_, addressed, carries⟩
  rw [outputs_eq]
  exact List.mem_append.mpr (mem_sent_or_refused delivered isRequest isPacket)

theorem Moment.Happens.introduces_joining {before after : GameManager} {moment : Moment}
    {id joining : PlayerId} (happens : moment.Happens before after) (enters : moment.Enters joining)
    (different : id ≠ joining) (active : after.world.Active id) :
    moment.Introduces (moment.outputs.sent ++ moment.outputs.refused) id joining := by
  obtain ⟨player, found, isActive⟩ := active
  obtain ⟨command, _, _, _, _, delivered, data, joined, -, -, foundJoined, -, outputs_eq⟩ :=
    happens.announces enters
  have isRequest : (⟨player.sessionId, true,
      [.playerJoined (GameManager.joinedInfo joining joined)]⟩ : Outgoing) ∈
        (after.announceEntry joining command.senderSessionId).2 := by
    refine List.mem_append_right _ ?_
    simp only [GameManager.broadcastPlayerJoined, foundJoined]
    exact (GameManager.mem_broadcast_iff _ _ _ _).mpr ⟨id, player, found, different, isActive, rfl⟩
  exact .of_request outputs_eq isRequest List.mem_cons_self (happens.after_eq ▸ found) rfl rfl

theorem Moment.Happens.introduces_near {config : GameConfig} {before after : GameManager}
    {moment : Moment} {id other : PlayerId} (happens : moment.Happens before after)
    (indexed : after.Indexed config) (built : moment.event.Built) (enters : moment.Enters id)
    (different : id ≠ other) (active : after.world.Active other)
    (near : ¬ moment.OutOfRange id other) :
    moment.Introduces (moment.outputs.sent ++ moment.outputs.refused) id other := by
  obtain ⟨seen, foundSeen, seenActive⟩ := active
  obtain ⟨command, _, _, _, _, delivered, data, player, event_eq, payload, found, session_eq,
    outputs_eq⟩ := happens.announces enters
  have sender_eq : command.senderSessionId = player.sessionId := by
    have asked : data ∈ command.payload.enterZone? := by rw [payload]; rfl
    rw [event_eq] at built
    rw [session_eq, built command rfl data asked]
  have inRange : seen.position.distSqXY player.position ≤
      after.config.aoiRange * after.config.aoiRange := by
    by_contra far
    refine near ⟨player, ?_, seen, ?_, seenActive, ?_⟩
    · exact happens.after_eq ▸ found
    · exact happens.after_eq ▸ foundSeen
    · rw [happens.after_eq]
      exact lt_of_not_ge far
  have listed : other ∈ (after.nearPlayerInfos id player.position).map (·.playerId) := by
    rw [indexed.nearPlayerInfos_ids, List.mem_filter]
    refine ⟨(indexed.mem_query_iff _ _ other).mpr ⟨seen, foundSeen, seenActive, inRange⟩, ?_⟩
    simpa using different.symm
  have isRequest : (⟨player.sessionId, false, [.zoneEntered 1 (GameManager.zoneInfo id player)
      (after.nearPlayerInfos id player.position)]⟩ : Outgoing) ∈
        (after.announceEntry id command.senderSessionId).2 := by
    refine List.mem_append_left _ ?_
    simp only [GameManager.sendEnterZoneResponse, found, sender_eq, List.mem_singleton]
  exact .of_request outputs_eq isRequest List.mem_cons_self (happens.after_eq ▸ found) rfl listed

theorem introducedInRange {config : GameConfig} {moments : List Moment} {finish : GameManager}
    (trace : Trace config moments finish) (built : ∀ moment ∈ moments, moment.event.Built) :
    IntroducedInRange moments := by
  rintro id other front enter middle shown back different rfl enters latest showing
  obtain ⟨start, created, run⟩ := trace
  obtain ⟨before, entered, first, enterHappens, rest⟩ := run.split_at
  obtain ⟨asked, _, between, shownHappens, -⟩ := rest.split_at
  have enteredTrace : Trace config (front ++ [enter]) entered :=
    ⟨start, created, first.snoc enterHappens⟩
  have indexed : entered.Indexed config := .of_trace enteredTrace
  -- The viewer is active when it is shown the snapshot, so since it entered it never left.
  have askedActive : asked.world.Active id := by
    obtain ⟨serverTime, snapshot, -, batched, lists⟩ :=
      shownHappens.sendWorldSnapshots_of_shows showing
    obtain ⟨viewer, found, active, -⟩ := GameManager.listed_of_batched batched lists
    exact ⟨viewer, found, active⟩
  by_cases joining : ∃ joined ∈ middle, joined.Enters other
  · obtain ⟨joined, member, joins⟩ := joining
    obtain ⟨earlier, later, rfl⟩ := List.append_of_mem member
    obtain ⟨_, afterJoin, -, joinHappens, remaining⟩ := between.split_at
    have stayed : afterJoin.world.Active id :=
      (active_or_enters remaining askedActive).resolve_right fun ⟨again, isLater, entersAgain⟩ =>
        latest again (by simp [isLater]) entersAgain
    exact .inl ⟨joined, List.mem_cons_of_mem enter member,
      joinHappens.introduces_joining joins different stayed⟩
  · have notSince : ∀ moment ∈ middle, ¬ moment.Enters other := by simpa using joining
    rw [enterHappens.after_eq]
    by_cases active : entered.world.Active other
    · by_cases far : enter.OutOfRange id other
      · exact .inr ⟨notSince, .inl far⟩
      · exact .inl ⟨enter, List.mem_cons_self, enterHappens.introduces_near indexed
          (built enter (by simp)) enters different active far⟩
    · refine .inr ⟨notSince, .inr ⟨active, ?_⟩⟩
      by_contra recent
      obtain already | later := active_or_enters_of_shown indexed (.of_trace enteredTrace) between
        shownHappens showing recent
      · exact active already
      · exact joining later

theorem introducedInRange_of_neighbours :
    ∃ moments finish, Trace {} moments finish ∧ IntroducedInRange moments ∧
      (∃ shown ∈ moments, shown.Shows 1 2 ∧ shown.Shows 2 1) := by
  have executed : (trace? {} neighboursUntilTick).map (fun result =>
      decide ((∀ moment ∈ result.1, moment.event.Built) ∧
        ∃ shown ∈ result.1, shown.Shows 1 2 ∧ shown.Shows 2 1)) = some true := by decide +kernel
  obtain ⟨⟨moments, finish⟩, followed, checked⟩ := Option.map_eq_some_iff.mp executed
  obtain ⟨built, shows⟩ := of_decide_eq_true checked
  have trace := trace_of_trace? followed
  exact ⟨moments, finish, trace, introducedInRange trace built, shows⟩

/-- Between its entry and a snapshot the player was told nothing of one who is in it. -/
def ShownUnintroduced (id other : PlayerId) (enter : Moment) (middle : List Moment)
    (shown : Moment) : Prop :=
  (enter.event.entering = some id ∧ ¬ enter.before.world.Active id ∧
      enter.after.world.Active id) ∧
    (∀ moment ∈ middle, moment.event.entering ≠ some id) ∧ shown.Shows id other ∧
    ∀ moment ∈ enter :: middle, ¬ moment.Introduces moment.outputs.sent id other

instance (id other : PlayerId) (enter : Moment) (middle : List Moment) (shown : Moment) :
    Decidable (ShownUnintroduced id other enter middle shown) :=
  inferInstanceAs (Decidable (_ ∧ _ ∧ _ ∧ _))

theorem ShownUnintroduced.refutes {id other : PlayerId} {front middle back : List Moment}
    {enter shown : Moment} (unintroduced : ShownUnintroduced id other enter middle shown)
    (different : id ≠ other) :
    ¬ IntroducedBeforeSeen (front ++ enter :: (middle ++ shown :: back)) := by
  intro introduced
  obtain ⟨⟨entering, wasInactive, isActive⟩, others, shows, silent⟩ := unintroduced
  obtain ⟨moment, member, introduces⟩ := introduced id other front enter middle shown back
    different rfl ⟨entering, wasInactive, isActive⟩
    (fun moment member enters => others moment member enters.entering) shows
  exact silent moment member introduces

/-- The last moment shows one player another one that it was not told of since the entry
that `count` moments precede. -/
def lastShownUnintroduced (id other : PlayerId) (count : Nat) (moments : List Moment) : Bool :=
  match moments.drop count with
  | [] => false
  | enter :: rest =>
      rest.getLast?.any fun shown => ShownUnintroduced id other enter rest.dropLast shown

theorem not_introducedBeforeSeen_of_last {id other : PlayerId} {count : Nat}
    {moments : List Moment} (last : lastShownUnintroduced id other count moments = true)
    (different : id ≠ other) : ¬ IntroducedBeforeSeen moments := by
  unfold lastShownUnintroduced at last
  split at last
  · cases last
  · next enter rest dropped =>
      obtain ⟨shown, isLast, unintroduced⟩ := (Option.any_eq_true _ _).mp last
      have split : moments = moments.take count ++ enter :: (rest.dropLast ++ shown :: []) := by
        rw [List.dropLast_append_getLast? shown isLast, ← dropped, List.take_append_drop]
      rw [split]
      exact (of_decide_eq_true unintroduced).refutes different

theorem exists_unintroduced (events : List Event) (count : Nat) (property : Moment → Prop)
    [DecidablePred property]
    (executed : (trace? {} events).any (fun result => lastShownUnintroduced 1 2 count result.1 &&
      decide (∀ moment ∈ result.1, moment.event.Built ∧ property moment)) = true) :
    ∃ moments finish, Trace {} moments finish ∧ ¬ IntroducedBeforeSeen moments ∧
      ∀ moment ∈ moments, moment.event.Built ∧ property moment := by
  obtain ⟨⟨moments, finish⟩, followed, checked⟩ := (Option.any_eq_true _ _).mp executed
  obtain ⟨last, holds⟩ := Bool.and_eq_true_iff.mp checked
  exact ⟨moments, finish, trace_of_trace? followed,
    not_introducedBeforeSeen_of_last last (by decide), of_decide_eq_true holds⟩

/-- A player enters just out of range of another one and steps into range in the same
tick: the snapshot shows somebody it was never told of. So does the snapshot batched
for a player whose session was lost before the other one joined, and one that repeats
the list of an earlier visit. -/
theorem strangers_shown :
    (∃ moments finish, Trace {} moments finish ∧ ¬ IntroducedBeforeSeen moments ∧
      ∀ moment ∈ moments, moment.event.Built ∧ moment.outputs.refused = []) ∧
    (∃ moments finish, Trace {} moments finish ∧ ¬ IntroducedBeforeSeen moments ∧
      ∀ moment ∈ moments, moment.event.Built ∧ ¬ moment.OutOfRange 1 2) ∧
    ∃ moments finish, Trace {} moments finish ∧ ¬ IntroducedBeforeSeen moments ∧
      ∀ moment ∈ moments, moment.event.Built ∧ moment.outputs.refused = [] ∧
        ¬ moment.OutOfRange 1 2 :=
  ⟨exists_unintroduced [.enterZone 2 2 ⟨20, 20, 0⟩ [true],
      .enterZone 1 1 ⟨120 + 1 / 20, 20, 0⟩ [true, true],
      .processGameCommand ⟨.playerInput ⟨1, 4, 1⟩, 1⟩ true ⟨20, 20, 0⟩ 40000000 40000000 [],
      .updateWorld (1 / 50), .sendWorldSnapshots 40] 1 _ (by decide +kernel),
    exists_unintroduced [.enterZone 1 1 ⟨20, 20, 0⟩ [true],
      .enterZone 2 2 ⟨30, 20, 0⟩ [true, false], .sendWorldSnapshots 40] 0 _ (by decide +kernel),
    exists_unintroduced (neighboursUntilTick ++ [disconnectSecond,
      .processGameCommand ⟨.playerDisconnect ⟨1⟩, 1⟩ false ⟨20, 20, 0⟩ 50000000 50000000 [],
      .enterZone 1 3 ⟨20, 20, 0⟩ [true], .sendWorldSnapshots 40]) 7 _ (by decide +kernel)⟩

end CppMMO.Game.Managers
