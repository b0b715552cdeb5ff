import CppMMO.Game.Managers.VisibilityProperties

/-! Which joined and left messages one command makes, and for whom. -/

set_option autoImplicit false

namespace CppMMO

open CppMMO.Lib CppMMO.Protocol CppMMO.Game CppMMO.Game.Models

/-- Whether a packet tells that the player joined (`true`) or left (`false`). -/
def Protocol.ServerPacket.announces? (id : PlayerId) : ServerPacket → Option Bool
  | .playerJoined playerInfo => if playerInfo.playerId = id then some true else none
  | .playerLeft playerId => if playerId = id then some false else none
  | _ => none

namespace Game.Managers

/-- What one session is told about a player's comings and goings. -/
def announcements (session : SessionId) (id : PlayerId) (packets : List (SessionId × ServerPacket)) :
    List Bool :=
  packets.filterMap fun entry => if entry.1 = session then entry.2.announces? id else none

@[simp] theorem announcements_nil (session : SessionId) (id : PlayerId) :
    announcements session id [] = [] := rfl

theorem announcements_append (session : SessionId) (id : PlayerId)
    (packets more : List (SessionId × ServerPacket)) :
    announcements session id (packets ++ more) =
      announcements session id packets ++ announcements session id more :=
  List.filterMap_append

theorem announcements_eq_nil {session : SessionId} {id : PlayerId}
    {packets : List (SessionId × ServerPacket)}
    (silent : ∀ entry ∈ packets, entry.2.announces? id = none) :
    announcements session id packets = [] := by
  refine List.filterMap_eq_nil_iff.mpr fun entry member => ?_
  rw [silent entry member]
  exact ite_self none

/-- The packets of a list of requests, each with the session it is for. -/
def addressed (requests : List Outgoing) : List (SessionId × ServerPacket) :=
  requests.flatMap fun request => request.packets.map (request.session, ·)

@[simp] theorem addressed_nil : addressed [] = [] := rfl

theorem addressed_cons (request : Outgoing) (requests : List Outgoing) :
    addressed (request :: requests) =
      request.packets.map (request.session, ·) ++ addressed requests :=
  List.flatMap_cons

theorem addressed_append (requests more : List Outgoing) :
    addressed (requests ++ more) = addressed requests ++ addressed more :=
  List.flatMap_append

theorem mem_addressed_iff (requests : List Outgoing) (session : SessionId) (packet : ServerPacket) :
    (session, packet) ∈ addressed requests ↔
      ∃ request ∈ requests, request.session = session ∧ packet ∈ request.packets := by
  simp only [addressed, List.mem_flatMap, List.mem_map, Prod.mk.injEq]
  constructor
  · rintro ⟨request, isRequest, other, isPacket, rfl, rfl⟩
    exact ⟨request, isRequest, rfl, isPacket⟩
  · rintro ⟨request, isRequest, rfl, isPacket⟩
    exact ⟨request, isRequest, packet, isPacket, rfl, rfl⟩

namespace GameManager

/-- The players that a message about `id` is broadcast to through the session. -/
def listeners (manager : GameManager) (id : PlayerId) (session : SessionId) :
    List (PlayerId × Player) :=
  manager.world.getAllPlayers.filter fun entry =>
    entry.1 ≠ id ∧ entry.2.isActive ∧ entry.2.sessionId = session

theorem mem_listeners_iff (manager : GameManager) (id : PlayerId) (session : SessionId)
    (other : PlayerId) (player : Player) :
    (other, player) ∈ manager.listeners id session ↔
      manager.world.getPlayer other = some player ∧ other ≠ id ∧ player.isActive = true ∧
        player.sessionId = session := by
  simp [listeners, World.mem_getAllPlayers_iff]

theorem announcements_broadcast (manager : GameManager) (id : PlayerId) {packet : ServerPacket}
    {joined : Bool} (tells : packet.announces? id = some joined) (session : SessionId) :
    announcements session id (addressed (manager.broadcast id packet)) =
      (manager.listeners id session).map fun _ => joined := by
  unfold broadcast listeners
  induction manager.world.getAllPlayers with
  | nil => rfl
  | cons entry rest ih =>
      obtain ⟨other, player⟩ := entry
      simp only [List.filterMap_cons, List.filter_cons]
      by_cases told : other ≠ id ∧ player.isActive = true
      · simp only [if_pos told, addressed_cons, announcements_append, ih]
        by_cases here : player.sessionId = session <;>
          simp [announcements, told, here, tells]
      · have silent : ¬ (other ≠ id ∧ player.isActive = true ∧ player.sessionId = session) :=
          fun listens => told ⟨listens.1, listens.2.1⟩
        simp only [if_neg told, ih, silent, decide_false, Bool.false_eq_true, ↓reduceIte]

/-- A command that changes nobody's activity is silent; any other is announced, after an
optional answer to the one who entered, to every other active player. -/
structure Announced (before : GameManager) (id : PlayerId) (joined : Bool)
    (after : GameManager) (outgoing : List Outgoing) : Prop where
  others : ∀ other, other ≠ id → after.world.getPlayer other = before.world.getPlayer other
  active_iff : after.world.Active id ↔ joined = true
  wasInactive : joined = true → ¬ before.world.Active id
  broadcast : ∃ response packet, outgoing = response ++ after.broadcast id packet ∧
    (∀ request ∈ response, ∀ answer ∈ request.packets, ∀ other, answer.announces? other = none) ∧
    ∀ other, packet.announces? other = if id = other then some joined else none

/-- The player whose coming or going the command is about to announce. -/
def announced? (manager : GameManager) (command : GameCommand) (sessionFound : Bool) :
    Option PlayerId :=
  match command.payload with
  | .enterZone data =>
      if sessionFound ∧ ¬ manager.world.Active data.playerId then some data.playerId else none
  | .playerDisconnect data =>
      if (manager.world.getPlayer data.playerId).isSome then some data.playerId else none
  | .playerInput _ | .playerSpawn _ => none

theorem announceEntry_announced {before after : GameManager} {id : PlayerId} {player : Player}
    (entered : after.world.getPlayer id = some player) (isActive : player.isActive = true)
    (wasInactive : ¬ before.world.Active id)
    (others : ∀ other, other ≠ id → after.world.getPlayer other = before.world.getPlayer other)
    (session : SessionId) : Announced before id true after (after.announceEntry id session).2 := by
  refine ⟨others, by simp [World.Active, entered, isActive], fun _ => wasInactive, ?_⟩
  refine ⟨after.sendEnterZoneResponse id session, .playerJoined (joinedInfo id player), ?_, ?_, ?_⟩
  · simp only [announceEntry, broadcastPlayerJoined, entered]
  · intro request isResponse answer isAnswer other
    simp only [sendEnterZoneResponse, entered, List.mem_singleton] at isResponse
    subst isResponse
    rw [List.mem_singleton.mp isAnswer]
    rfl
  · exact fun other => rfl

theorem processGameCommand_announced (manager : GameManager) (command : GameCommand)
    (sessionFound : Bool) (spawnPosition : Vec3) (now later : TimePoint) :
    ((∀ id, (manager.processGameCommand command sessionFound spawnPosition now
          later).1.world.Active id ↔ manager.world.Active id) ∧
        (manager.processGameCommand command sessionFound spawnPosition now later).2 = []) ∨
      ∃ id joined, manager.announced? command sessionFound = some id ∧
        (joined = false → command.payload = .playerDisconnect { playerId := id }) ∧
        Announced manager id joined
          (manager.processGameCommand command sessionFound spawnPosition now later).1
          (manager.processGameCommand command sessionFound spawnPosition now later).2 := by
  have outcome := manager.processGameCommand_outcome command sessionFound spawnPosition now later
  generalize manager.processGameCommand command sessionFound spawnPosition now later = result
    at outcome ⊢
  cases outcome with
  | dropped => exact .inl ⟨fun _ => Iff.rfl, rfl⟩
  | @input data player payload registered found allowed newer =>
      refine .inl ⟨fun id => ?_, rfl⟩
      simp only [World.Active, getPlayer_withInput]
      split
      · next same => simp [same, found, Player.updateLastInputTime]
      · exact Iff.rfl
  | @reentered data player payload registered found inactive =>
      have wasInactive : ¬ manager.world.Active data.playerId := by
        simp [World.Active, found, inactive]
      refine .inr ⟨data.playerId, true, ?_, by simp, ?_⟩
      · simp [announced?, payload, registered, wasInactive]
      · have entered := getPlayer_withReentered manager data player.position now data.playerId
        rw [if_pos rfl, found, Option.map_some] at entered
        exact announceEntry_announced entered rfl wasInactive (fun other different =>
          (getPlayer_withReentered _ _ _ _ _).trans (if_neg different)) command.senderSessionId
  | @spawned data payload registered absent =>
      have wasInactive : ¬ manager.world.Active data.playerId := by
        simp [World.Active, absent]
      refine .inr ⟨data.playerId, true, ?_, by simp, ?_⟩
      · simp [announced?, payload, registered, wasInactive]
      · have entered := getPlayer_withSpawned manager data spawnPosition data.playerId
        rw [if_pos rfl] at entered
        exact announceEntry_announced entered rfl wasInactive (fun other different =>
          (getPlayer_withSpawned _ _ _ _).trans (if_neg different)) command.senderSessionId
  | @disconnected data player payload found =>
      refine .inr ⟨data.playerId, false, ?_, fun _ => payload, ?_⟩
      · simp [announced?, payload, found]
      · refine ⟨?_, ?_, by simp, [], .playerLeft data.playerId, rfl, by simp, fun other => rfl⟩
        · exact fun other different =>
            (getPlayer_withDisconnected _ _ _ _).trans (if_neg different)
        · simpa using not_active_withDisconnected manager data.playerId now

/-- No two of the players that hear the announcement share a session, and a disconnect is
announced of a player that is active, or to nobody. -/
structure Orderly (manager : GameManager) (command : GameCommand) (id : PlayerId) : Prop where
  separate : ∀ one ∈ manager.world.getAllPlayers, ∀ other ∈ manager.world.getAllPlayers,
    one.1 ≠ id → other.1 ≠ id → one.2.isActive = true → other.2.isActive = true →
    one.2.sessionId = other.2.sessionId → one.1 = other.1
  leaves : command.payload = .playerDisconnect { playerId := id } → manager.world.Active id ∨
    ∀ entry ∈ manager.world.getAllPlayers, entry.1 ≠ id → entry.2.isActive = false

instance (manager : GameManager) (command : GameCommand) (id : PlayerId) :
    Decidable (manager.Orderly command id) :=
  decidable_of_iff ((∀ one ∈ manager.world.getAllPlayers, ∀ other ∈ manager.world.getAllPlayers,
      one.1 ≠ id → other.1 ≠ id → one.2.isActive = true → other.2.isActive = true →
      one.2.sessionId = other.2.sessionId → one.1 = other.1) ∧
    (command.payload = .playerDisconnect { playerId := id } → manager.world.Active id ∨
      ∀ entry ∈ manager.world.getAllPlayers, entry.1 ≠ id → entry.2.isActive = false))
    ⟨fun both => ⟨both.1, both.2⟩, fun orderly => ⟨orderly.separate, orderly.leaves⟩⟩

namespace Announced

variable {before after : GameManager} {id : PlayerId} {joined : Bool} {outgoing : List Outgoing}

theorem announcements_eq (announced : Announced before id joined after outgoing)
    (session : SessionId) (about : PlayerId) :
    announcements session about (addressed outgoing) =
      if id = about then (after.listeners id session).map fun _ => joined else [] := by
  obtain ⟨response, packet, rfl, silent, tells⟩ := announced.broadcast
  have noAnswer : announcements session about (addressed response) = [] := by
    refine announcements_eq_nil fun entry member => ?_
    obtain ⟨request, isRequest, -, isPacket⟩ :=
      (mem_addressed_iff response entry.1 entry.2).mp member
    exact silent request isRequest entry.2 isPacket about
  rw [addressed_append, announcements_append, noAnswer, List.nil_append]
  split
  · next same =>
      subst same
      exact announcements_broadcast after id (by rw [tells, if_pos rfl]) session
  · next different =>
      refine announcements_eq_nil fun entry member => ?_
      obtain ⟨request, isRequest, -, isPacket⟩ := (mem_addressed_iff _ entry.1 entry.2).mp member
      obtain ⟨_, _, -, -, -, rfl⟩ := (mem_broadcast_iff _ _ _ _).mp isRequest
      rw [List.mem_singleton.mp isPacket, tells, if_neg different]

theorem mem_listeners (announced : Announced before id joined after outgoing)
    {session : SessionId} {entry : PlayerId × Player} (listens : entry ∈ after.listeners id session) :
    entry ∈ before.world.getAllPlayers ∧ entry.1 ≠ id ∧ entry.2.isActive = true ∧
      entry.2.sessionId = session := by
  obtain ⟨found, different, active, here⟩ := (mem_listeners_iff _ _ _ entry.1 entry.2).mp listens
  rw [announced.others entry.1 different] at found
  exact ⟨(World.mem_getAllPlayers_iff _ _ _).mpr found, different, active, here⟩

theorem listeners_eq_nil_or_singleton (announced : Announced before id joined after outgoing)
    {command : GameCommand} (orderly : before.Orderly command id) (session : SessionId) :
    after.listeners id session = [] ∨ ∃ entry, after.listeners id session = [entry] := by
  have distinct : ((after.listeners id session).map Prod.fst).Nodup := by
    refine List.Nodup.sublist (List.filter_sublist.map _) ?_
    rw [World.getAllPlayers, UnorderedMap.map_fst_toList]
    exact UnorderedMap.keys_nodup _
  have same : ∀ one ∈ after.listeners id session, ∀ other ∈ after.listeners id session,
      one.1 = other.1 := by
    intro one listens other listensToo
    obtain ⟨present, different, active, here⟩ := announced.mem_listeners listens
    obtain ⟨presentToo, differentToo, activeToo, hereToo⟩ := announced.mem_listeners listensToo
    exact orderly.separate one present other presentToo different differentToo active activeToo
      (here.trans hereToo.symm)
  rcases listed : after.listeners id session with _ | ⟨one, _ | ⟨other, rest⟩⟩
  · exact .inl rfl
  · exact .inr ⟨one, rfl⟩
  · rw [listed] at distinct same
    have equal := same one List.mem_cons_self other (by simp)
    simp [equal] at distinct

theorem listeners_ne_nil (announced : Announced before id joined after outgoing)
    {session : SessionId} {owner : PlayerId} (owns : before.Owns session owner)
    (different : owner ≠ id) : after.listeners id session ≠ [] := by
  obtain ⟨player, found, active, here⟩ := owns
  rw [← announced.others owner different] at found
  exact List.ne_nil_of_mem ((mem_listeners_iff _ _ _ owner player).mpr ⟨found, different, active, here⟩)

/-- Whoever hears of it, the player's activity has changed. -/
theorem wasActive_iff (announced : Announced before id joined after outgoing)
    {command : GameCommand} (orderly : before.Orderly command id)
    (leaves : joined = false → command.payload = .playerDisconnect { playerId := id })
    {session : SessionId} {entry : PlayerId × Player} (listens : entry ∈ after.listeners id session) :
    before.world.Active id ↔ joined = false := by
  obtain ⟨present, different, active, -⟩ := announced.mem_listeners listens
  cases joined with
  | true => simpa using announced.wasInactive rfl
  | false =>
      rcases orderly.leaves (leaves rfl) with wasActive | alone
      · simpa using wasActive
      · rw [alone entry present different] at active
        cases active

end Announced

/-- An orderly command tells a session at most one thing about a player, and tells it only
when the player's activity changes; a session with another active player it always tells. -/
theorem processGameCommand_tells {manager : GameManager} {command : GameCommand}
    {sessionFound : Bool}
    (orderly : ∀ id ∈ manager.announced? command sessionFound, manager.Orderly command id)
    (spawnPosition : Vec3) (now later : TimePoint) (session : SessionId) (about : PlayerId) :
    (announcements session about (addressed
        (manager.processGameCommand command sessionFound spawnPosition now later).2) = [] ∧
        ∀ owner, owner ≠ about → manager.Owns session owner →
          ((manager.processGameCommand command sessionFound spawnPosition now
            later).1.world.Active about ↔ manager.world.Active about)) ∨
      ∃ joined, announcements session about (addressed
          (manager.processGameCommand command sessionFound spawnPosition now later).2) = [joined] ∧
        (manager.world.Active about ↔ joined = false) ∧
        ((manager.processGameCommand command sessionFound spawnPosition now
          later).1.world.Active about ↔ joined = true) := by
  rcases manager.processGameCommand_announced command sessionFound spawnPosition now later with
    ⟨same, nothing⟩ | ⟨id, joined, isAnnounced, leaves, announced⟩
  · rw [nothing]
    exact .inl ⟨rfl, fun _ _ _ => same about⟩
  · have inOrder := orderly id isAnnounced
    rw [announced.announcements_eq]
    split
    · next isAbout =>
        subst isAbout
        rcases announced.listeners_eq_nil_or_singleton inOrder session with nobody | ⟨entry, single⟩
        · rw [nobody]
          exact .inl ⟨rfl, fun owner different owns =>
            absurd nobody (announced.listeners_ne_nil owns different)⟩
        · rw [single]
          exact .inr ⟨joined, rfl, announced.wasActive_iff inOrder leaves
            (single ▸ List.mem_singleton_self entry), announced.active_iff⟩
    · next different =>
        refine .inl ⟨rfl, fun _ _ _ => ?_⟩
        simp only [World.Active, announced.others about (Ne.symm different)]

theorem lookup_of_announces {manager : GameManager} {command : GameCommand} {sessionFound : Bool}
    {spawnPosition : Vec3} {now later : TimePoint} {request : Outgoing}
    (isRequest : request ∈
      (manager.processGameCommand command sessionFound spawnPosition now later).2)
    {packet : ServerPacket} (isPacket : packet ∈ request.packets) {about : PlayerId} {joined : Bool}
    (announces : packet.announces? about = some joined) : request.lookup = true := by
  rcases manager.processGameCommand_announced command sessionFound spawnPosition now later with
    ⟨-, nothing⟩ | ⟨id, _, -, -, announced⟩
  · rw [nothing] at isRequest
    cases isRequest
  · obtain ⟨response, other, sent, silent, -⟩ := announced.broadcast
    rw [sent] at isRequest
    rcases List.mem_append.mp isRequest with answer | told
    · rw [silent request answer packet isPacket about] at announces
      cases announces
    · obtain ⟨_, _, -, -, -, rfl⟩ := (mem_broadcast_iff _ _ _ _).mp told
      rfl

theorem announces?_of_flushed {manager : GameManager} (only : manager.OnlySnapshots)
    {request : Outgoing} (isRequest : request ∈ manager.flushAllBatches.2) {packet : ServerPacket}
    (isPacket : packet ∈ request.packets) (about : PlayerId) : packet.announces? about = none := by
  obtain ⟨snapshot, rfl⟩ := worldSnapshot_of_flushed only isRequest isPacket
  rfl

end GameManager

end Game.Managers

end CppMMO
