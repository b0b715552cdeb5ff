import CppMMO.Game.Managers.SpatialIndexProperties
import CppMMO.SessionProperties

/-! Players and the sessions they were entered with. -/

set_option autoImplicit false

namespace CppMMO

open CppMMO.Lib CppMMO.Protocol CppMMO.Game CppMMO.Game.Models CppMMO.Game.Managers CppMMO.Utils

namespace Server

/-! ## Commands as the workers build them -/

structure CommandsBuilt (server : Server) : Prop where
  held : ∀ command, .pushGameCommand command ∈ server.working → command.Built
  queued : ∀ command ∈ server.gameLogicQueue, command.Built

namespace CommandsBuilt

variable {before : Server} {label : Label}

theorem processJob (built : before.CommandsBuilt) (job : Job) (endpointKnown : Bool) :
    (before.effect (.processJob job endpointKnown)).CommandsBuilt := by
  simp only [effect]
  split
  · exact built
  · next handling handled =>
      have erased : ∀ command, .pushGameCommand command ∈ before.working.erase (.job job) →
          command.Built :=
        fun other member => built.held other (List.mem_of_mem_erase member)
      have comesFrom := handleJob_comesFrom handled
      cases handling with
      | ignore | sendLoginFailure | publish | verifySessionTicket =>
          exact ⟨fun other member => erased other (by simpa [takeUp] using member), built.queued⟩
      | pushGameCommand command =>
          refine ⟨fun other member => ?_, built.queued⟩
          rcases List.mem_cons.mp member with same | earlier
          · cases same
            obtain ⟨sender, ⟨data, payload, -⟩ | ⟨-, data, payload, -, session_eq⟩⟩ := comesFrom
            · intro entering isEntering
              rw [payload] at isEntering
              cases isEntering
            · intro entering isEntering
              rw [payload] at isEntering
              cases isEntering
              rw [session_eq, sender]
          · exact erased other earlier

theorem step (built : before.CommandsBuilt) (enabled : before.Enabled label) :
    (before.effect label).CommandsBuilt := by
  cases label with
  | popJob job =>
      exact ⟨fun command member => built.held command (by simpa [effect] using member), built.queued⟩
  | processJob job endpointKnown => exact built.processJob job endpointKnown
  | pushGameCommand command =>
      refine ⟨fun other member => built.held other (List.mem_of_mem_erase member), ?_⟩
      intro other member
      rcases List.mem_append.mp member with earlier | pushed
      · exact built.queued other earlier
      · cases List.mem_singleton.mp pushed
        exact built.held command enabled
  | publish | sendLoginFailure =>
      exact ⟨fun other member => built.held other (List.mem_of_mem_erase member), built.queued⟩
  | pushDisconnect removed playerId =>
      refine ⟨built.held, fun other member => ?_⟩
      rcases List.mem_append.mp member with earlier | pushed
      · exact built.queued other earlier
      · cases List.mem_singleton.mp pushed
        intro data entering
        cases entering
  | processGameCommand =>
      exact ⟨built.held, fun other member => built.queued other (List.mem_of_mem_erase member)⟩
  | checkConnected | setPlayerId | removeSession | getPlayerId | isConnected | send =>
      simp only [effect]
      split <;> exact ⟨built.held, built.queued⟩
  | _ => exact ⟨built.held, built.queued⟩

end CommandsBuilt

/-- The player that the game thread is about to enter with the session it has found. -/
def entering? (server : Server) (session : SessionId) : Option PlayerId :=
  match server.found with
  | some (⟨.enterZone data, sender⟩, true) =>
      if sender = session ∧ ¬ server.manager.world.Active data.playerId then some data.playerId
      else none
  | _ => none

theorem mem_entering?_iff {server : Server} {session : SessionId} {id : PlayerId} :
    id ∈ server.entering? session ↔ ∃ data : EnterZoneCommandData, data.playerId = id ∧
      server.found = some (⟨.enterZone data, session⟩, true) ∧
      ¬ server.manager.world.Active id := by
  unfold entering?
  split
  · next data sender found =>
      simp only [found, Option.mem_def, Option.ite_none_right_eq_some, Option.some.injEq,
        Prod.mk.injEq, GameCommand.mk.injEq, GameCommandPayload.enterZone.injEq, and_true]
      constructor
      · rintro ⟨⟨rfl, inactive⟩, rfl⟩
        exact ⟨data, rfl, ⟨rfl, rfl⟩, inactive⟩
      · rintro ⟨same, rfl, ⟨rfl, rfl⟩, inactive⟩
        exact ⟨⟨rfl, inactive⟩, rfl⟩
  · next other =>
      refine iff_of_false (by simp) ?_
      rintro ⟨data, -, found, -⟩
      exact other data session found

/-- Whoever is active after a step was so before, with the same session, or was about to enter
with it. -/
theorem owns_effect {before : Server} {label : Label} (built : before.CommandsBuilt)
    (enabled : before.Enabled label) {session : SessionId} {id : PlayerId}
    (owned : (before.effect label).manager.Owns session id) :
    before.manager.Owns session id ∨ id ∈ before.entering? session := by
  obtain ⟨player, found, active, rfl⟩ := owned
  cases label with
  | processGameCommand command sessionFound spawnPosition now later =>
      obtain ⟨-, inHand, queued, -⟩ := enabled
      obtain kept | ⟨data, entered⟩ := GameManager.kept_or_entered found active
      · exact .inl kept
      · obtain ⟨payload, sender⟩ := command
        obtain rfl : payload = .enterZone data := entered.payload
        have isSender := built.queued _ queued data rfl
        obtain rfl : sessionFound = true := entered.registered
        rw [entered.session_eq, isSender]
        exact .inr (mem_entering?_iff.mpr
          ⟨data, entered.id_eq, inHand, entered.wasInactive⟩)
  | updateWorld deltaTime => exact .inl (GameManager.kept_updateWorld found active)
  | sendWorldSnapshots serverTime =>
      have scene := before.manager.sendWorldSnapshots_sameScene serverTime
      exact .inl ⟨player, scene.world_eq ▸ found, active, rfl⟩
  | rehash players playerBatches =>
      exact .inl ⟨player, (enabled.2.2.1.find?_eq id).symm.trans found, active, rfl⟩
  | flushAllBatches => exact .inl ⟨player, found, active, rfl⟩
  | _ =>
      have managed := manager_effect enabled
      exact .inl ⟨player, managed ▸ found, active, rfl⟩

/-! ## Orphans -/

/-- The player is active with the session, or about to be. -/
def Involves (server : Server) (session : SessionId) (id : PlayerId) : Prop :=
  server.manager.Owns session id ∨ id ∈ server.entering? session

/-- Something is still to come that deactivates the player, or its session is there. -/
def Covers (server : Server) (session : SessionId) (id : PlayerId) : Prop :=
  session ∈ server.activeSessions ∨ (session, .erased) ∈ server.disconnects ∨
    (session, .queueing id) ∈ server.disconnects ∨
    ∃ command ∈ server.gameLogicQueue, command.payload = .playerDisconnect { playerId := id }

/-- Commands are as the workers build them, and no active player is left behind. -/
structure Covered (server : Server) : Prop where
  built : server.CommandsBuilt
  covers : ∀ session id, server.Involves session id → server.Covers session id

def Label.getPlayerId? : Label → Option SessionId
  | .getPlayerId session => some session
  | _ => none

/-- When a removed session's player id is read, it names every player that is active
with the session, and the one the game thread has found the session for and is about to enter. -/
def NamesItsPlayers (server : Server) (label : Label) : Prop :=
  ∀ session ∈ label.getPlayerId?,
    (∀ entry ∈ server.manager.world.getAllPlayers,
      entry.2.isActive = true → entry.2.sessionId = session →
        (server.sessions session).playerId = entry.1 ∧ entry.1 ≠ 0) ∧
    ∀ id ∈ server.entering? session, (server.sessions session).playerId = id ∧ id ≠ 0

instance (server : Server) (label : Label) : Decidable (server.NamesItsPlayers label) :=
  have (session : SessionId) : Decidable (∀ id ∈ server.entering? session,
      (server.sessions session).playerId = id ∧ id ≠ 0) :=
    Option.decidableForallMem _
  inferInstanceAs (Decidable (∀ session ∈ label.getPlayerId?,
    (∀ entry ∈ _, _) ∧ ∀ id ∈ server.entering? session, _))

theorem NamesItsPlayers.of_involves {server : Server} {session : SessionId} {id : PlayerId}
    (names : server.NamesItsPlayers (.getPlayerId session)) (involved : server.Involves session id) :
    (server.sessions session).playerId = id ∧ id ≠ 0 := by
  obtain ⟨active, entering⟩ := names session rfl
  rcases involved with ⟨player, found, isActive, owner⟩ | isEntering
  · exact active (id, player) ((World.mem_getAllPlayers_iff _ _ _).mpr found) isActive owner
  · exact entering id isEntering

/-- Whoever is involved with a session after a step was so before, or the session has just
been found registered. -/
theorem involves_effect {before : Server} {label : Label} (built : before.CommandsBuilt)
    (enabled : before.Enabled label) {session : SessionId} {id : PlayerId}
    (involved : (before.effect label).Involves session id) :
    before.Involves session id ∨ session ∈ before.activeSessions ∧
      (before.effect label).activeSessions = before.activeSessions := by
  rcases involved with owned | entering
  · exact .inl (owns_effect built enabled owned)
  · obtain ⟨data, same, found, inactive⟩ := mem_entering?_iff.mp entering
    rcases found_effect enabled found with ⟨foundBefore, quiet⟩ | ⟨rfl, registered⟩
    · have managed := manager_effect enabled
      rw [event?_eq_none quiet] at managed
      exact .inl (.inr (mem_entering?_iff.mpr ⟨data, same, foundBefore, managed ▸ inactive⟩))
    · exact .inr ⟨List.contains_iff_mem.mp registered.symm, rfl⟩

def namedStep (server : Server) (label : Label) : Option Server :=
  if server.NamesItsPlayers label then server.step label else none

/-- Nothing is queued, no worker has a job, no `RemoveSession` is under way. -/
def Quiescent (server : Server) : Prop :=
  server.jobQueue = [] ∧ server.gameLogicQueue = [] ∧ server.working = [] ∧
    ∀ entry ∈ server.disconnects, entry.2.isRemoving = false

instance (server : Server) : Decidable server.Quiescent :=
  inferInstanceAs (Decidable (_ ∧ _ ∧ _ ∧ _))

namespace Covers

variable {before after : Server} {session : SessionId} {id : PlayerId}

theorem mono (covers : before.Covers session id)
    (active : ∀ other ∈ before.activeSessions, other ∈ after.activeSessions)
    (disconnects : ∀ entry ∈ before.disconnects, entry.2.isRemoving = true →
      entry ∈ after.disconnects)
    (queue : ∀ command ∈ before.gameLogicQueue, command ∈ after.gameLogicQueue) :
    after.Covers session id := by
  rcases covers with registered | erased | queueing | ⟨command, queued, payload⟩
  · exact .inl (active _ registered)
  · exact .inr (.inl (disconnects _ erased rfl))
  · exact .inr (.inr (.inl (disconnects _ queueing rfl)))
  · exact .inr (.inr (.inr ⟨command, queue _ queued, payload⟩))

theorem removeSession (covers : before.Covers session id) (removed : SessionId) :
    (before.effect (.removeSession removed)).Covers session id := by
  have others : ∀ entry ∈ before.disconnects, entry.2.isRemoving = true →
      entry ∈ before.disconnects.erase (removed, .closed) := by
    intro entry member removing
    refine (List.mem_erase_of_ne ?_).mpr member
    rintro rfl
    cases removing
  simp only [effect]
  split
  · rcases covers with registered | erased | queueing | queued
    · by_cases same : session = removed
      · exact .inr (.inl (same ▸ List.mem_cons_self))
      · exact .inl (List.mem_filter.mpr ⟨registered, by simpa using same⟩)
    · exact .inr (.inl (List.mem_cons_of_mem _ (others _ erased rfl)))
    · exact .inr (.inr (.inl (List.mem_cons_of_mem _ (others _ queueing rfl))))
    · exact .inr (.inr (.inr queued))
  · exact covers.mono (fun _ member => member)
      (fun entry member removing => List.mem_cons_of_mem _ (others entry member removing))
      (fun _ member => member)

theorem getPlayerId (covers : before.Covers session id) (involved : before.Involves session id)
    {removed : SessionId} (names : before.NamesItsPlayers (.getPlayerId removed)) :
    (before.effect (.getPlayerId removed)).Covers session id := by
  by_cases same : session = removed
  · subst same
    obtain ⟨named, nonzero⟩ := names.of_involves involved
    refine .inr (.inr (.inl ?_))
    simp [effect, named, nonzero]
  · have others : ∀ phase, (session, phase) ∈ before.disconnects →
        (session, phase) ∈ before.disconnects.erase (removed, .erased) :=
      fun phase member => (List.mem_erase_of_ne fun equal => same (congrArg Prod.fst equal)).mpr member
    simp only [effect]
    split
    all_goals
      rcases covers with registered | erased | queueing | queued
      · exact .inl registered
      · exact .inr (.inl (List.mem_cons_of_mem _ (others _ erased)))
      · exact .inr (.inr (.inl (List.mem_cons_of_mem _ (others _ queueing))))
      · exact .inr (.inr (.inr queued))

theorem pushDisconnect (covers : before.Covers session id) (removed : SessionId)
    (playerId : PlayerId) : (before.effect (.pushDisconnect removed playerId)).Covers session id := by
  rcases covers with registered | erased | queueing | queued
  · exact .inl registered
  · exact .inr (.inl (List.mem_cons_of_mem _ ((List.mem_erase_of_ne (by simp)).mpr erased)))
  · by_cases same : (session, Disconnecting.queueing id) = (removed, .queueing playerId)
    · cases same
      exact .inr (.inr (.inr ⟨_, List.mem_append_right _ List.mem_cons_self, rfl⟩))
    · exact .inr (.inr (.inl
        (List.mem_cons_of_mem _ ((List.mem_erase_of_ne same).mpr queueing))))
  · obtain ⟨command, member, payload⟩ := queued
    exact .inr (.inr (.inr ⟨command, List.mem_append_left _ member, payload⟩))

theorem processGameCommand (covers : before.Covers session id) {command : GameCommand}
    {sessionFound : Bool} {spawnPosition : Vec3} {now later : TimePoint}
    (still : (before.effect (.processGameCommand command sessionFound spawnPosition now
      later)).Involves session id) :
    (before.effect (.processGameCommand command sessionFound spawnPosition now later)).Covers
      session id := by
  rcases covers with registered | erased | queueing | ⟨other, member, payload⟩
  · exact .inl registered
  · exact .inr (.inl erased)
  · exact .inr (.inr (.inl queueing))
  · refine .inr (.inr (.inr ⟨other, (List.mem_erase_of_ne ?_).mpr member, payload⟩))
    -- The disconnect of a player that is still active cannot be the one processed.
    rintro rfl
    rcases still with ⟨player, found, active, -⟩ | entering
    · exact GameManager.not_active_of_disconnect payload ⟨player, found, active⟩
    · cases entering

theorem step (covers : before.Covers session id) {label : Label}
    (names : before.NamesItsPlayers label) (involved : before.Involves session id)
    (still : (before.effect label).Involves session id) :
    (before.effect label).Covers session id := by
  have same : ∀ {after : Server}, after.activeSessions = before.activeSessions →
      after.disconnects = before.disconnects → after.gameLogicQueue = before.gameLogicQueue →
      after.Covers session id :=
    fun active disconnects queue => covers.mono (fun _ member => active ▸ member)
      (fun _ member _ => disconnects ▸ member) (fun _ member => queue ▸ member)
  cases label with
  | addSession added =>
      exact covers.mono (fun _ member => List.mem_insert_of_mem member) (fun _ member _ => member)
        (fun _ member => member)
  | processJob job endpointKnown =>
      simp only [effect]
      split
      · exact covers
      · next handling _ => cases handling <;> exact same rfl rfl rfl
  | pushGameCommand command =>
      exact covers.mono (fun _ member => member) (fun _ member _ => member)
        (fun _ member => List.mem_append_left _ member)
  | disconnect closing =>
      exact covers.mono (fun _ member => member) (fun _ member _ => List.mem_cons_of_mem _ member)
        (fun _ member => member)
  | removeSession removed => exact covers.removeSession removed
  | getPlayerId removed => exact covers.getPlayerId involved names
  | pushDisconnect removed playerId => exact covers.pushDisconnect removed playerId
  | onSessionDisconnected removed =>
      refine covers.mono (fun _ member => member)
        (fun entry member removing => (List.mem_erase_of_ne ?_).mpr member) (fun _ member => member)
      rintro rfl
      cases removing
  | processGameCommand => exact covers.processGameCommand still
  | checkConnected | setPlayerId | isConnected | send =>
      simp only [effect]
      split <;> exact same rfl rfl rfl
  | _ => exact same rfl rfl rfl

end Covers

theorem Covered.step {before : Server} {label : Label} (covered : before.Covered)
    (enabled : before.Enabled label) (names : before.NamesItsPlayers label) :
    (before.effect label).Covered := by
  refine ⟨covered.built.step enabled, fun session id involved => ?_⟩
  rcases involves_effect covered.built enabled involved with earlier | ⟨registered, unchanged⟩
  · exact (covered.covers session id earlier).step names earlier involved
  · exact .inl (unchanged ▸ registered)

/-- In every run whose steps name their players, a state with nothing under way has no
active player without its session. -/
theorem no_orphaned_player {config : GameConfig} {start finish : Server} {labels : List Label}
    (created : create? config = some start) (run : Run (Taken namedStep) start labels finish)
    (quiescent : finish.Quiescent) (session : SessionId) (id : PlayerId)
    (owned : finish.manager.Owns session id) : session ∈ finish.activeSessions := by
  have covered : finish.Covered := by
    refine run.preserves Covered ?_ ?_
    · intro before label after coveredBefore taken
      obtain ⟨names, stepped⟩ := Option.ite_none_right_eq_some.mp taken
      obtain ⟨enabled, rfl⟩ := step_eq_some_iff.mp stepped
      exact coveredBefore.step enabled names
    · obtain ⟨manager, createdManager, rfl⟩ := Option.map_eq_some_iff.mp created
      obtain ⟨quadTree, -, rfl⟩ := Option.map_eq_some_iff.mp createdManager
      refine ⟨⟨by simp, by simp⟩, ?_⟩
      rintro session id (⟨player, found, -⟩ | entering)
      · simp at found
      · cases entering
  obtain ⟨-, emptyQueue, -, noneRemoving⟩ := quiescent
  rcases covered.covers session id (.inl owned) with
    registered | erased | queueing | ⟨command, queued, -⟩
  · exact registered
  · exact absurd (noneRemoving _ erased) (by simp [Disconnecting.isRemoving])
  · exact absurd (noneRemoving _ queueing) (by simp [Disconnecting.isRemoving])
  · rw [emptyQueue] at queued
    cases queued

/-- Two players; the session of one of them closes, and the other one stays. -/
theorem no_orphaned_player_after_leave :
    ∃ start finish, create? {} = some start ∧
      Run (Taken namedStep) start (connects 0 ++ logsIn 0 7 ++ enters 0 7 1 ++ connects 1 ++
        logsIn 1 8 ++ enters 1 8 2 ++ leaves 0 7 ++
        processes (disconnectCommand 0 7) false ++ [.isConnected, .send]) finish ∧
      finish.Quiescent ∧ finish.manager.Owns 1 8 ∧ 1 ∈ finish.activeSessions := by
  obtain ⟨start, finish, created, run, quiescent, owned⟩ :=
    exists_run_of_execute namedStep (create? {}) (connects 0 ++ logsIn 0 7 ++ enters 0 7 1 ++
      connects 1 ++ logsIn 1 8 ++ enters 1 8 2 ++ leaves 0 7 ++
      processes (disconnectCommand 0 7) false ++ [.isConnected, .send])
      (fun finish => finish.Quiescent ∧ finish.manager.Owns 1 8) (by decide +kernel)
  exact ⟨start, finish, created, run, quiescent, owned,
    no_orphaned_player created run quiescent 1 8 owned⟩

/-- A session logs in a second time, with another character, and closes. -/
theorem orphan_after_second_login :
    ∃ start labels finish, create? {} = some start ∧ Runs start labels finish ∧
      finish.Quiescent ∧ finish.manager.Owns 0 7 ∧ 0 ∉ finish.activeSessions := by
  obtain ⟨start, finish, created, run, holds⟩ :=
    exists_run_of_execute step (create? {}) (connects 0 ++ logsIn 0 7 ++ enters 0 7 1 ++
      logsIn 0 8 ++ leaves 0 8 ++ processes (disconnectCommand 0 8) false)
      (fun finish => finish.Quiescent ∧ finish.manager.Owns 0 7 ∧ 0 ∉ finish.activeSessions)
      (by decide +kernel)
  exact ⟨start, _, finish, created, run, holds⟩

end Server

/-! ## Disconnects of a session that is not the owner -/

namespace Game.Managers

/-- What a disconnect of `session` for the player `id` may do, if only owners count. -/
structure Moment.DisconnectsOwned (moment : Moment) (session : SessionId) (id : PlayerId) :
    Prop where
  deactivates : ∀ other, moment.before.world.Active other → ¬ moment.after.world.Active other →
    moment.before.Owns session other
  removes : ∀ other, other ∈ moment.before.quadTree.root.ids →
    other ∉ moment.after.quadTree.root.ids → moment.before.Owns session other
  unowned : ¬ moment.before.Owns session id →
    moment.before.world.Same moment.after.world ∧
      moment.after.quadTree = moment.before.quadTree ∧ moment.outputs.sent = []

namespace GameManager

def announcedTo (manager : GameManager) (id : PlayerId) : Nat :=
  manager.world.getAllPlayers.countP fun entry => entry.1 ≠ id && entry.2.isActive

/-- The player left at this very clock reading, has had no input accepted since, and no
session it is announced to can be reached. -/
def JustLeft (manager : GameManager) (id : PlayerId) (now : TimePoint) (delivered : List Bool) :
    Prop :=
  ∃ player, manager.world.getPlayer id = some player ∧ player.isActive = false ∧
    player.lastInputSequence = 0 ∧ player.disconnectTime = now ∧
    true ∉ delivered.take (manager.announcedTo id)

theorem length_broadcast (manager : GameManager) (id : PlayerId) (packet : ServerPacket) :
    (manager.broadcast id packet).length = manager.announcedTo id := by
  unfold broadcast announcedTo
  rw [List.length_filterMap_eq_countP]
  refine List.countP_congr ?_
  rintro ⟨other, player⟩ -
  by_cases told : other ≠ id ∧ player.isActive = true <;> simp_all

theorem announcedTo_withDisconnected (manager : GameManager) (id : PlayerId) (now : TimePoint) :
    (manager.withDisconnected id now).announcedTo id = manager.announcedTo id :=
  UnorderedMap.countP_toList_modify _ _ _ _ fun _ => by simp

theorem sent_withDisconnected_eq_nil_iff (manager : GameManager) (id : PlayerId)
    (now : TimePoint) (delivered : List Bool) :
    answered true ((manager.withDisconnected id now).broadcastPlayerLeft id) delivered = [] ↔
      true ∉ delivered.take (manager.announcedTo id) := by
  rw [answered_true_eq_nil_iff, broadcastPlayerLeft, length_broadcast, announcedTo_withDisconnected]
  intro request member
  obtain ⟨⟨other, player⟩, -, requested⟩ := List.mem_filterMap.mp member
  dsimp only at requested
  split at requested
  · cases requested
    exact List.cons_ne_nil _ _
  · cases requested

theorem same_withDisconnected_iff {manager : GameManager} {id : PlayerId} {player : Player}
    (found : manager.world.getPlayer id = some player) (now : TimePoint) :
    manager.world.Same (manager.withDisconnected id now).world ↔
      player.isActive = false ∧ player.lastInputSequence = 0 ∧ player.disconnectTime = now := by
  have changed : (manager.withDisconnected id now).world.getPlayer id =
      some { player.setActive false now with lastInputSequence := 0 } := by
    rw [getPlayer_withDisconnected, if_pos rfl, found, Option.map_some]
  constructor
  · intro same
    have unchanged := Option.some.inj (found.symm.trans ((same id).symm.trans changed))
    exact ⟨congrArg Player.isActive unchanged, congrArg Player.lastInputSequence unchanged,
      congrArg Player.disconnectTime unchanged⟩
  · rintro ⟨inactive, sequence, time⟩ other
    by_cases isPlayer : other = id
    · subst isPlayer
      rw [changed, found]
      cases player
      simp_all [Player.setActive]
    · rw [getPlayer_withDisconnected, if_neg isPlayer]

theorem processGameCommand_disconnect_of_absent {manager : GameManager}
    {data : PlayerDisconnectCommandData} (absent : manager.world.getPlayer data.playerId = none)
    (session : SessionId) (sessionFound : Bool) (spawnPosition : Vec3) (now later : TimePoint) :
    manager.processGameCommand ⟨.playerDisconnect data, session⟩ sessionFound spawnPosition now
      later = (manager, []) := by
  simp only [processGameCommand, handlePlayerDisconnect, absent]

theorem processGameCommand_disconnect_of_found {manager : GameManager}
    {data : PlayerDisconnectCommandData} {player : Player}
    (found : manager.world.getPlayer data.playerId = some player)
    (session : SessionId) (sessionFound : Bool) (spawnPosition : Vec3) (now later : TimePoint) :
    manager.processGameCommand ⟨.playerDisconnect data, session⟩ sessionFound spawnPosition now
      later = (manager.withDisconnected data.playerId now,
        (manager.withDisconnected data.playerId now).broadcastPlayerLeft data.playerId) := by
  simp only [processGameCommand, handlePlayerDisconnect, found, withDisconnected]

theorem active_withDisconnected_iff {manager : GameManager} {id other : PlayerId} (now : TimePoint)
    (different : other ≠ id) :
    (manager.withDisconnected id now).world.Active other ↔ manager.world.Active other := by
  unfold World.Active
  rw [getPlayer_withDisconnected, if_neg different]

end GameManager

namespace Moment.DisconnectsOwned

variable {moment : Moment} {session : SessionId} {id : PlayerId}

theorem of_unchanged (world : moment.before.world.Same moment.after.world)
    (quadTree : moment.after.quadTree = moment.before.quadTree) (sent : moment.outputs.sent = []) :
    moment.DisconnectsOwned session id where
  deactivates other active inactive := by
    obtain ⟨player, found, isActive⟩ := active
    exact absurd ⟨player, (world other).trans found, isActive⟩ inactive
  removes other before after := absurd (quadTree ▸ before) after
  unowned _ := ⟨world, quadTree, sent⟩

theorem of_owned {config : GameConfig} (indexed : moment.before.Indexed config)
    (owned : moment.before.Owns session id) {now : TimePoint}
    (after_eq : moment.after = moment.before.withDisconnected id now) :
    moment.DisconnectsOwned session id := by
  have deactivates : ∀ other, moment.before.world.Active other →
      ¬ moment.after.world.Active other → moment.before.Owns session other := by
    intro other active inactive
    by_cases same : other = id
    · exact same ▸ owned
    · rw [after_eq, GameManager.active_withDisconnected_iff now same] at inactive
      exact absurd active inactive
  refine ⟨deactivates, fun other before after => deactivates other ?_ ?_, fun notOwned =>
    absurd owned notOwned⟩
  · rwa [indexed.represents.mem_iff, World.isSome_activePosition_iff] at before
  · have indexedAfter := indexed.withDisconnected id now
    rwa [after_eq, indexedAfter.represents.mem_iff, World.isSome_activePosition_iff,
      ← after_eq] at after

end Moment.DisconnectsOwned

/-- The disconnect of a session leaves the players of other sessions alone exactly when
its player is not in the world, is its own, or just left unnoticed. -/
theorem disconnectsOwned_iff {config : GameConfig} {moments : List Moment} {finish : GameManager}
    (trace : Trace config moments finish) {moment : Moment} (member : moment ∈ moments)
    {data : PlayerDisconnectCommandData} {session : SessionId} {sessionFound : Bool}
    {spawnPosition : Vec3} {now later : TimePoint} {delivered : List Bool}
    (event : moment.event = .processGameCommand ⟨.playerDisconnect data, session⟩ sessionFound
      spawnPosition now later delivered) :
    moment.DisconnectsOwned session data.playerId ↔
      moment.before.world.getPlayer data.playerId = none ∨
        moment.before.Owns session data.playerId ∨
        moment.before.JustLeft data.playerId now delivered := by
  obtain ⟨earlier, reached, happens⟩ := trace.of_mem member
  have indexed := GameManager.Indexed.of_trace reached
  have stepped := happens.step_eq
  rw [event] at stepped
  cases found : moment.before.world.getPlayer data.playerId with
  | none =>
      simp only [GameManager.step, GameManager.processGameCommand_disconnect_of_absent found,
        Prod.mk.injEq] at stepped
      obtain ⟨after_eq, outputs⟩ := stepped
      refine iff_of_true (.of_unchanged ?_ ?_ ?_) (.inl rfl)
      · rw [← after_eq]
        exact fun _ => rfl
      · rw [← after_eq]
      · rw [← outputs]
        rfl
  | some player =>
      simp only [GameManager.step, GameManager.processGameCommand_disconnect_of_found found,
        Prod.mk.injEq] at stepped
      obtain ⟨after_eq, outputs⟩ := stepped
      have sent_iff : moment.outputs.sent = [] ↔
          true ∉ delivered.take (moment.before.announcedTo data.playerId) := by
        rw [← outputs]
        exact moment.before.sent_withDisconnected_eq_nil_iff data.playerId now delivered
      have same_iff := GameManager.same_withDisconnected_iff found now
      rw [after_eq] at same_iff
      by_cases owned : moment.before.Owns session data.playerId
      · exact iff_of_true (.of_owned indexed owned after_eq.symm) (.inr (.inl owned))
      · constructor
        · intro respects
          obtain ⟨world, -, sent⟩ := respects.unowned owned
          obtain ⟨inactive, sequence, time⟩ := same_iff.mp world
          exact .inr (.inr ⟨player, found, inactive, sequence, time, sent_iff.mp sent⟩)
        · rintro (absent | isOwned | ⟨same, foundSame, inactive, sequence, time, unreached⟩)
          · cases absent
          · exact absurd isOwned owned
          · cases found.symm.trans foundSame
            refine .of_unchanged (same_iff.mpr ⟨inactive, sequence, time⟩) ?_ (sent_iff.mpr unreached)
            -- An inactive player is not indexed, so there is nothing to remove.
            rw [← after_eq]
            refine Spatial.QuadTree.remove_of_find?_eq_none ?_
            rw [indexed.represents.positions, World.activePosition, found]
            simp [inactive]

theorem disconnectsOwned_of_owner :
    ∃ moments finish, Trace {} moments finish ∧ finish.Owns 0 7 ∧
      (Moment.of finish (.processGameCommand (Server.disconnectCommand 0 7) false ⟨20, 20, 0⟩ 0 0
        [])).DisconnectsOwned 0 7 := by
  have executed : (trace? {} [.enterZone 7 0 ⟨20, 20, 0⟩ [true]]).any (fun result =>
      result.2.Owns 0 7 ∧ result.2.config.Spawns ⟨20, 20, 0⟩) = true := by decide +kernel
  obtain ⟨⟨moments, finish⟩, followed, checked⟩ := (Option.any_eq_true _ _).mp executed
  obtain ⟨owned, spawns⟩ := of_decide_eq_true checked
  have trace := trace_of_trace? followed
  have longer := trace.snoc (.processGameCommand (Server.disconnectCommand 0 7) false ⟨20, 20, 0⟩
    0 0 []) spawns
  exact ⟨moments, finish, trace, owned,
    (disconnectsOwned_iff longer List.mem_concat_self rfl).mpr (.inr (.inl owned))⟩

/-- Two sessions log in as one player, the first enters with it, the second closes. -/
theorem player_removed_by_second_session :
    ∃ start labels server, Server.create? {} = some start ∧ Server.Runs start labels server ∧
      Server.disconnectCommand 1 7 ∈ server.gameLogicQueue ∧ server.manager.Owns 0 7 ∧
      0 ∈ server.activeSessions ∧ ∀ sessionFound later delivered,
        ¬ (Moment.of server.manager (.processGameCommand (Server.disconnectCommand 1 7)
          sessionFound ⟨20, 20, 0⟩ 0 later delivered)).DisconnectsOwned 1 7 := by
  obtain ⟨start, server, created, run, queued, owned, registered, inactive⟩ :=
    exists_run_of_execute Server.step (Server.create? {}) (Server.connects 0 ++
      Server.logsIn 0 7 ++ Server.connects 1 ++ Server.logsIn 1 7 ++ Server.enters 0 7 1 ++
      Server.leaves 1 7)
      (fun server => Server.disconnectCommand 1 7 ∈ server.gameLogicQueue ∧
        server.manager.Owns 0 7 ∧ 0 ∈ server.activeSessions ∧
        ¬ (server.manager.handlePlayerDisconnect { playerId := 7 } 0).1.world.Active 7)
      (by decide +kernel)
  refine ⟨start, _, server, created, run, queued, owned, registered, ?_⟩
  intro sessionFound later delivered respects
  obtain ⟨player, found, active, owner⟩ := owned
  obtain ⟨same, foundSame, -, other⟩ := respects.deactivates 7 ⟨player, found, active⟩ inactive
  cases found.symm.trans foundSame
  simp [owner] at other

/-! ## Inputs of a session that is not the owner -/

/-- What an input of `session` for the player `id` may do, if only owners count. -/
structure Moment.InputsOwned (moment : Moment) (session : SessionId) (id : PlayerId) : Prop where
  changes : ∀ other player changed, moment.before.world.getPlayer other = some player →
    moment.after.world.getPlayer other = some changed →
    (changed.velocity ≠ player.velocity ∨ changed.currentInputFlags ≠ player.currentInputFlags ∨
      changed.lastInputSequence ≠ player.lastInputSequence ∨
      changed.lastInputTime ≠ player.lastInputTime) →
    moment.before.Owns session other
  unowned : ¬ moment.before.Owns session id → moment.before.world.Same moment.after.world

namespace GameManager

variable {manager : GameManager} {data : PlayerInputCommandData} {now : TimePoint}

theorem processGameCommand_input_of_accepted (accepts : manager.Accepts data now)
    (session : SessionId) (spawnPosition : Vec3) (later : TimePoint) :
    manager.processGameCommand ⟨.playerInput data, session⟩ true spawnPosition now later =
      (manager.withInput data later, []) := by
  obtain ⟨player, found, allowed, newer⟩ := accepts
  simp [processGameCommand, handlePlayerInput, found, allowed, UInt32.not_le.mpr newer, withInput]

theorem processGameCommand_input_of_refused {sessionFound : Bool}
    (refused : sessionFound = true → ¬ manager.Accepts data now) (session : SessionId)
    (spawnPosition : Vec3) (later : TimePoint) :
    manager.processGameCommand ⟨.playerInput data, session⟩ sessionFound spawnPosition now later =
      (manager, []) := by
  cases sessionFound with
  | false => exact processGameCommand_of_unregistered rfl
  | true =>
      refine processGameCommand_of_drops ?_ true spawnPosition later
      exact refused rfl

end GameManager

namespace Moment.InputsOwned

variable {moment : Moment} {session : SessionId} {data : PlayerInputCommandData}

theorem of_unchanged (after_eq : moment.after = moment.before) :
    moment.InputsOwned session data.playerId where
  changes other player changed found foundAfter differs := by
    rw [after_eq, found] at foundAfter
    cases foundAfter
    simp at differs
  unowned _ := after_eq ▸ fun _ => rfl

theorem of_owned (owned : moment.before.Owns session data.playerId) {later : TimePoint}
    (after_eq : moment.after = moment.before.withInput data later) :
    moment.InputsOwned session data.playerId where
  changes other player changed found foundAfter differs := by
    by_cases same : other = data.playerId
    · exact same ▸ owned
    · rw [after_eq, GameManager.getPlayer_withInput, if_neg same, found] at foundAfter
      cases foundAfter
      simp at differs
  unowned notOwned := absurd owned notOwned

end Moment.InputsOwned

/-- An input changes nobody but the sender's own active player exactly when it is the
owner's or is refused. -/
theorem inputsOwned_iff {config : GameConfig} {moments : List Moment} {finish : GameManager}
    (trace : Trace config moments finish) {moment : Moment} (member : moment ∈ moments)
    {data : PlayerInputCommandData} {session : SessionId} {sessionFound : Bool}
    {spawnPosition : Vec3} {now later : TimePoint} {delivered : List Bool}
    (event : moment.event = .processGameCommand ⟨.playerInput data, session⟩ sessionFound
      spawnPosition now later delivered) :
    moment.InputsOwned session data.playerId ↔
      moment.before.Owns session data.playerId ∨
        (sessionFound = true → ¬ moment.before.Accepts data now) := by
  obtain ⟨-, -, happens⟩ := trace.of_mem member
  have stepped := happens.step_eq
  rw [event] at stepped
  by_cases refused : sessionFound = true → ¬ moment.before.Accepts data now
  · simp only [GameManager.step, GameManager.processGameCommand_input_of_refused refused,
      Prod.mk.injEq] at stepped
    exact iff_of_true (.of_unchanged stepped.1.symm) (.inr refused)
  · obtain ⟨registered, accepts⟩ := Classical.not_imp.mp refused
    have accepted := Classical.not_not.mp accepts
    subst registered
    simp only [GameManager.step, GameManager.processGameCommand_input_of_accepted accepted,
      Prod.mk.injEq] at stepped
    by_cases owned : moment.before.Owns session data.playerId
    · exact iff_of_true (.of_owned owned stepped.1.symm) (.inl owned)
    · refine iff_of_false (fun respects => ?_) (not_or.mpr ⟨owned, refused⟩)
      obtain ⟨player, found, -, newer⟩ := accepted
      have same := respects.unowned owned data.playerId
      rw [← stepped.1, GameManager.getPlayer_withInput, if_pos rfl, found, Option.map_some] at same
      have sequence := congrArg Player.lastInputSequence (Option.some.inj same)
      exact absurd newer (sequence ▸ UInt32.lt_irrefl _)

theorem inputsOwned_of_owner :
    ∃ moments finish, Trace {} moments finish ∧ finish.Owns 0 7 ∧
      finish.Accepts ⟨7, 1, 1⟩ 50000000 ∧
      (Moment.of finish (.processGameCommand ⟨.playerInput ⟨7, 1, 1⟩, 0⟩ true ⟨20, 20, 0⟩ 50000000
        50000000 [])).InputsOwned 0 7 := by
  have executed : (trace? {} [.enterZone 7 0 ⟨20, 20, 0⟩ [true]]).any (fun result =>
      result.2.Owns 0 7 ∧ result.2.config.Spawns ⟨20, 20, 0⟩ ∧
        result.2.Accepts ⟨7, 1, 1⟩ 50000000) = true := by decide +kernel
  obtain ⟨⟨moments, finish⟩, followed, checked⟩ := (Option.any_eq_true _ _).mp executed
  obtain ⟨owned, spawns, accepts⟩ := of_decide_eq_true checked
  have trace := trace_of_trace? followed
  have longer := trace.snoc (.processGameCommand ⟨.playerInput ⟨7, 1, 1⟩, 0⟩ true ⟨20, 20, 0⟩
    50000000 50000000 []) spawns
  exact ⟨moments, finish, trace, owned, accepts,
    (inputsOwned_iff longer List.mem_concat_self rfl).mpr (.inl owned)⟩

/-- Two sessions log in as one player, the first enters with it, the second moves it. -/
theorem player_moved_by_second_session :
    ∃ start labels server, Server.create? {} = some start ∧ Server.Runs start labels server ∧
      ⟨.playerInput ⟨7, 1, 1⟩, 1⟩ ∈ server.gameLogicQueue ∧ server.manager.Owns 0 7 ∧
      1 ∈ server.activeSessions ∧ ∀ delivered,
        ¬ (Moment.of server.manager (.processGameCommand ⟨.playerInput ⟨7, 1, 1⟩, 1⟩ true
          ⟨20, 20, 0⟩ 50000000 50000000 delivered)).InputsOwned 1 7 := by
  obtain ⟨start, server, created, run, queued, owned, notOwned, registered, changed⟩ :=
    exists_run_of_execute Server.step (Server.create? {}) (Server.connects 0 ++
      Server.logsIn 0 7 ++ Server.connects 1 ++ Server.logsIn 1 7 ++ Server.enters 0 7 1 ++
      Server.hands 1 { id := .cPlayerInput, data := some { castPlayerInput := ⟨1, 1⟩ } } ++
      [.pushGameCommand ⟨.playerInput ⟨7, 1, 1⟩, 1⟩])
      (fun server => ⟨.playerInput ⟨7, 1, 1⟩, 1⟩ ∈ server.gameLogicQueue ∧
        server.manager.Owns 0 7 ∧ ¬ server.manager.Owns 1 7 ∧ 1 ∈ server.activeSessions ∧
        (server.manager.handlePlayerInput ⟨7, 1, 1⟩ 50000000 50000000).world.getPlayer 7 ≠
          server.manager.world.getPlayer 7)
      (by decide +kernel)
  exact ⟨start, _, server, created, run, queued, owned, registered, fun delivered respects =>
    changed (respects.unowned notOwned 7)⟩

end Game.Managers

end CppMMO
