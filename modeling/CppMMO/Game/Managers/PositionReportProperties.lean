import CppMMO.Game.Managers.MovementProperties
import CppMMO.Game.Managers.SnapshotProperties

/-! What clients are told about where a player is, by snapshots, zone entries and joins, is the
same for all of them, and never farther apart than the player can have moved meanwhile. -/

set_option autoImplicit false

namespace CppMMO.Protocol

open CppMMO.Game

def PlayerInfo.Locates (info : PlayerInfo) (id : PlayerId) (position : Vec3) : Prop :=
  info.playerId = id ∧ info.position = some position

def WorldSnapshot.Locates (snapshot : WorldSnapshot) (id : PlayerId) (position : Vec3) : Prop :=
  ∃ state ∈ snapshot.playerStates, state.playerId = id ∧ state.position = some position

def ServerPacket.Locates (id : PlayerId) (position : Vec3) : ServerPacket → Prop
  | worldSnapshot snapshot => snapshot.Locates id position
  | zoneEntered _ myPlayer otherPlayers =>
      ∃ info ∈ myPlayer :: otherPlayers, info.Locates id position
  | playerJoined info => info.Locates id position
  | loginSuccess _ _ | loginFailure _ _ _ | chat _ _ | playerLeft _ => False

instance (info : PlayerInfo) (id : PlayerId) (position : Vec3) :
    Decidable (info.Locates id position) := inferInstanceAs (Decidable (_ ∧ _))

instance (snapshot : WorldSnapshot) (id : PlayerId) (position : Vec3) :
    Decidable (snapshot.Locates id position) := inferInstanceAs (Decidable (∃ state ∈ _, _))

instance (id : PlayerId) (position : Vec3) :
    ∀ packet : ServerPacket, Decidable (packet.Locates id position)
  | .worldSnapshot snapshot => inferInstanceAs (Decidable (snapshot.Locates id position))
  | .zoneEntered _ _ _ => inferInstanceAs (Decidable (∃ info ∈ _, _))
  | .playerJoined info => inferInstanceAs (Decidable (info.Locates id position))
  | .loginSuccess _ _ | .loginFailure _ _ _ | .chat _ _ | .playerLeft _ =>
      inferInstanceAs (Decidable False)

end CppMMO.Protocol

namespace CppMMO.Game.Models

/-- The player stands there in this world. -/
def World.Places (world : World) (id : PlayerId) (position : Vec3) : Prop :=
  ∃ player, world.getPlayer id = some player ∧ player.position = position

end CppMMO.Game.Models

namespace CppMMO.Game.Managers

open CppMMO.Lib CppMMO.Protocol CppMMO.Game.Models

/-- A packet built at this moment says where the player is. What the flush sends was built by
the snapshot stage. -/
def Moment.Reports (moment : Moment) (id : PlayerId) (position : Vec3) : Prop :=
  (∃ entry ∈ moment.outputs.batched, entry.2.Locates id position) ∨
    moment.event.command?.isSome = true ∧
      ∃ entry ∈ moment.outputs.sent, entry.2.Locates id position

instance (moment : Moment) (id : PlayerId) (position : Vec3) :
    Decidable (moment.Reports id position) := inferInstanceAs (Decidable (_ ∨ _ ∧ _))

namespace GameManager

theorem places_of_snapshot {manager : GameManager} {visiblePlayers : List PlayerId}
    {serverTime : Nat} {id : PlayerId} {position : Vec3}
    (locates : (manager.snapshotFor visiblePlayers serverTime).Locates id position) :
    manager.world.Places id position := by
  obtain ⟨state, isState, sameId, located⟩ := locates
  obtain ⟨visible, -, shown⟩ := List.mem_filterMap.mp isState
  obtain ⟨player, found, rfl⟩ := Option.map_eq_some_iff.mp shown
  cases sameId
  exact ⟨player, found, Option.some.inj located⟩

theorem places_of_zoneInfo {manager : GameManager} {listed id : PlayerId} {player : Player}
    {position : Vec3} (found : manager.world.getPlayer listed = some player)
    (locates : (zoneInfo listed player).Locates id position) :
    manager.world.Places id position := by
  obtain ⟨sameId, located⟩ := locates
  cases sameId
  exact ⟨player, found, Option.some.inj located⟩

theorem places_of_announceEntry {manager : GameManager} {entering id : PlayerId}
    {session : SessionId} {request : Outgoing} {packet : ServerPacket} {position : Vec3}
    (isRequest : request ∈ (manager.announceEntry entering session).2)
    (isPacket : packet ∈ request.packets) (locates : packet.Locates id position) :
    manager.world.Places id position := by
  rcases List.mem_append.mp isRequest with response | joined
  · unfold sendEnterZoneResponse at response
    split at response
    · cases response
    · next player found =>
        cases List.mem_singleton.mp response
        cases List.mem_singleton.mp isPacket
        obtain ⟨info, isInfo, located⟩ := locates
        rcases List.mem_cons.mp isInfo with rfl | near
        · exact places_of_zoneInfo found located
        · obtain ⟨nearId, -, listed⟩ := List.mem_filterMap.mp near
          split at listed
          · cases listed
          · obtain ⟨other, otherFound, rfl⟩ := Option.map_eq_some_iff.mp listed
            exact places_of_zoneInfo otherFound located
  · unfold broadcastPlayerJoined at joined
    split at joined
    · cases joined
    · next player found =>
        obtain ⟨_, _, -, -, -, rfl⟩ := (mem_broadcast_iff _ _ _ _).mp joined
        cases List.mem_singleton.mp isPacket
        obtain ⟨sameId, located⟩ := locates
        cases sameId
        exact ⟨player, found, Option.some.inj located⟩

theorem places_of_command {manager : GameManager} {command : GameCommand} {sessionFound : Bool}
    {spawnPosition : Vec3} {now later : TimePoint} {request : Outgoing} {packet : ServerPacket}
    {id : PlayerId} {position : Vec3}
    (isRequest : request ∈
      (manager.processGameCommand command sessionFound spawnPosition now later).2)
    (isPacket : packet ∈ request.packets) (locates : packet.Locates id position) :
    (manager.processGameCommand command sessionFound spawnPosition now later).1.world.Places
      id position := by
  have outcome := manager.processGameCommand_outcome command sessionFound spawnPosition now later
  generalize manager.processGameCommand command sessionFound spawnPosition now later = result
    at outcome isRequest ⊢
  cases outcome with
  | dropped => cases isRequest
  | input payload registered found allowed newer => cases isRequest
  | reentered payload registered found inactive =>
      exact places_of_announceEntry isRequest isPacket locates
  | spawned payload registered absent => exact places_of_announceEntry isRequest isPacket locates
  | disconnected payload found =>
      obtain ⟨_, _, -, -, -, rfl⟩ := (mem_broadcast_iff _ _ _ _).mp isRequest
      cases List.mem_singleton.mp isPacket
      exact False.elim locates

end GameManager

namespace Moment.Reports

variable {moment : Moment} {id : PlayerId} {position : Vec3}

/-- Only commands and the snapshot stage report, and they take no simulated time. -/
theorem deltaTime_eq_zero {before after : GameManager} (happens : moment.Happens before after)
    (reports : moment.Reports id position) : moment.event.deltaTime = 0 := by
  cases taken : moment.event with
  | updateWorld deltaTime =>
      have silent : moment.outputs = {} := by
        rw [happens.outputs_eq_step, taken]
        rfl
      rw [Moment.Reports, silent] at reports
      simp at reports
  | processGameCommand | sendWorldSnapshots | flushAllBatches | rehash => rfl

/-- A report is true of the world that its moment leaves behind. -/
theorem places {before after : GameManager} (happens : moment.Happens before after)
    (reports : moment.Reports id position) : after.world.Places id position := by
  rw [happens.after_eq_step]
  rcases reports with ⟨⟨recipient, snapshot⟩, batched, locates⟩ |
    ⟨isCommand, ⟨session, packet⟩, isSent, locates⟩
  · rw [happens.outputs_eq_step] at batched
    cases taken : moment.event with
    | sendWorldSnapshots serverTime =>
        rw [taken] at batched
        obtain ⟨-, made⟩ :=
          GameManager.mem_snapshotPlayers_batched (UnorderedMap.keys_nodup _) batched
        obtain ⟨player, -, -, rfl⟩ := GameManager.snapshotOf_eq_some_iff.mp made
        have there := GameManager.places_of_snapshot locates
        rw [GameManager.step, (before.sendWorldSnapshots_sameScene serverTime).world_eq]
        exact there
    | processGameCommand | updateWorld | flushAllBatches | rehash =>
        rw [taken] at batched
        cases batched
  · rw [happens.outputs_eq_step] at isSent
    cases taken : moment.event with
    | processGameCommand command sessionFound spawnPosition now later delivered =>
        rw [taken] at isSent
        obtain ⟨request, isRequest, -, isPacket⟩ := exists_request_of_answered isSent
        exact GameManager.places_of_command isRequest isPacket locates
    | updateWorld | sendWorldSnapshots | flushAllBatches | rehash =>
        rw [taken] at isCommand
        cases isCommand

end Moment.Reports

/-- All reports of one moment agree on a player, and those of two moments are no farther apart
than the player can have walked in the time simulated between them. -/
theorem reports_agree {config : GameConfig} {moments : List Moment} {finish : GameManager}
    (trace : Trace config moments finish) (id : PlayerId) :
    (∀ moment ∈ moments, ∀ position other, moment.Reports id position →
      moment.Reports id other → config.OnMap position ∧ other = position) ∧
    ∀ front first middle second back,
      moments = front ++ first :: (middle ++ second :: back) →
      ∀ position other, first.Reports id position → second.Reports id other →
        position.distXY other ≤ ((|config.moveSpeed| * simulatedTime middle : ℚ) : ℝ) := by
  refine ⟨?_, ?_⟩
  · intro moment member position other reports reportsOther
    obtain ⟨earlier, soFar, happens⟩ := trace.of_mem member
    obtain ⟨player, found, rfl⟩ := reports.places happens
    obtain ⟨again, foundAgain, rfl⟩ := reportsOther.places happens
    cases found.symm.trans foundAgain
    have confined := (GameManager.Confined.of_trace soFar).step happens
    exact ⟨(confined.players id player found).onMap, rfl⟩
  · intro front first middle second back split position other reports reportsLater
    subst split
    obtain ⟨start, created, run⟩ := trace
    obtain ⟨before, after, frontRun, happens, rest⟩ := run.split_at
    obtain ⟨beforeLater, afterLater, middleRun, happensLater, -⟩ := rest.split_at
    have confined := (GameManager.Confined.of_trace ⟨start, created, frontRun⟩).step happens
    obtain ⟨player, found, rfl⟩ := reports.places happens
    obtain ⟨again, foundAgain, rfl⟩ := reportsLater.places happensLater
    obtain ⟨-, later, foundLater, travelled⟩ :=
      confined.travelled (middleRun.snoc happensLater) found
    cases foundAgain.symm.trans foundLater
    rwa [simulatedTime_snoc, reportsLater.deltaTime_eq_zero happensLater, add_zero] at travelled

/-- Player 1 is announced to player 2, walks right for 20 ms and is in the next snapshots. -/
theorem reports_agree_of_walk :
    ∃ front first middle second finish, Trace {} (front ++ first :: (middle ++ [second])) finish ∧
      first.Reports 1 ⟨50, 50, 0⟩ ∧ second.Reports 1 ⟨501 / 10, 50, 0⟩ ∧
      Vec3.distXY ⟨50, 50, 0⟩ ⟨501 / 10, 50, 0⟩ ≤
        ((|(5 : ℚ)| * simulatedTime middle : ℚ) : ℝ) := by
  let events : List Event := [.enterZone 2 8 ⟨60, 60, 0⟩ [true],
    .enterZone 1 7 ⟨50, 50, 0⟩ [true, true],
    .processGameCommand ⟨.playerInput { playerId := 1, inputFlags := 8, sequenceNumber := 1 }, 7⟩
      true ⟨50, 50, 0⟩ 100000000 100000000 [],
    .updateWorld (1 / 50), .sendWorldSnapshots 40]
  have executed : (trace? {} events).any (fun result =>
      match result.1 with
      | [_, first, _, _, second] => decide
          (first.Reports 1 ⟨50, 50, 0⟩ ∧ second.Reports 1 ⟨501 / 10, 50, 0⟩)
      | _ => false) = true := by decide +kernel
  obtain ⟨⟨moments, finish⟩, followed, checked⟩ := (Option.any_eq_true _ _).mp executed
  have trace := trace_of_trace? followed
  split at checked
  · next beside first input walk second shape =>
      obtain ⟨reports, reportsLater⟩ := of_decide_eq_true checked
      obtain rfl : moments = [beside] ++ first :: ([input, walk] ++ [second]) := shape
      exact ⟨[beside], first, [input, walk], second, finish, trace, reports, reportsLater,
        (reports_agree trace 1).2 _ first _ second [] rfl _ _ reports reportsLater⟩
  · cases checked

end CppMMO.Game.Managers
