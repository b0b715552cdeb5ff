import CppMMO.Game.Managers.GameManagerProperties

/-! The packets that describe players, against the world they describe. -/

set_option autoImplicit false

namespace CppMMO.Protocol

open CppMMO.Game CppMMO.Game.Models

/-- The schema's state of a player, with every field filled in. -/
def PlayerState.ofPlayer (id : PlayerId) (player : Player) : PlayerState :=
  { playerId := id, position := some player.position, velocity := some player.velocity,
    rotation := player.rotation, hp := player.hp, mp := player.mp,
    lastInputSequence := player.lastInputSequence }

def PlayerInfo.ofPlayer (id : PlayerId) (player : Player) : PlayerInfo :=
  { playerId := id, name := player.name, position := some player.position, hp := player.hp,
    maxHp := player.maxHp, mp := player.mp, maxMp := player.maxMp }

/-- The player infos of the two packets that introduce players. -/
def ServerPacket.playerInfos : ServerPacket → List PlayerInfo
  | zoneEntered _ myPlayer otherPlayers => myPlayer :: otherPlayers
  | playerJoined playerInfo => [playerInfo]
  | loginSuccess _ _ | loginFailure _ _ _ | chat _ _ | worldSnapshot _ | playerLeft _ => []

end CppMMO.Protocol

namespace CppMMO.Game.Models

open CppMMO.Protocol

/-- The info has the id of a player of the world, and all of its fields. -/
def World.Backs (world : World) (info : PlayerInfo) : Prop :=
  ∃ player, world.getPlayer info.playerId = some player ∧
    info = .ofPlayer info.playerId player

theorem World.backs_iff {world : World} {info : PlayerInfo} {player : Player}
    (found : world.getPlayer info.playerId = some player) :
    world.Backs info ↔ info = .ofPlayer info.playerId player := by
  constructor
  · intro backed
    obtain ⟨other, foundOther, carries⟩ := backed
    cases found.symm.trans foundOther
    exact carries
  · exact fun carries => ⟨player, found, carries⟩

instance (world : World) (info : PlayerInfo) : Decidable (world.Backs info) :=
  match found : world.getPlayer info.playerId with
  | none => .isFalse fun backed => by simp [World.Backs, found] at backed
  | some _ => decidable_of_iff _ (World.backs_iff found).symm

end CppMMO.Game.Models

namespace CppMMO.Game.Managers

open CppMMO.Lib CppMMO.Protocol CppMMO.Game.Models

/-! ## Which players survive each encoder -/

/-- The player has the activity flag for its rotation, and what a snapshot leaves out
is zero. -/
structure FitsSnapshot (player : Player) : Prop where
  rotation_eq : player.rotation = if player.isActive then 1 else 0
  hp_eq : player.hp = 0
  mp_eq : player.mp = 0
  lastInputSequence_eq : player.lastInputSequence = 0

structure FitsZoneEntered (id : PlayerId) (player : Player) : Prop where
  name_eq : player.name = playerName id
  hp_eq : player.hp = 100
  maxHp_eq : player.maxHp = 100
  mp_eq : player.mp = 0
  maxMp_eq : player.maxMp = 0

structure FitsPlayerJoined (id : PlayerId) (player : Player) : Prop where
  name_eq : player.name = playerName id
  mp_eq : player.mp = 0
  maxMp_eq : player.maxMp = 0

namespace GameManager

theorem snapshotState_eq_iff (id : PlayerId) (player : Player) :
    snapshotState id player = .ofPlayer id player ↔ FitsSnapshot player := by
  simp only [snapshotState, PlayerState.ofPlayer, PlayerState.mk.injEq, true_and]
  constructor
  · intro same
    obtain ⟨rotation_eq, hp_eq, mp_eq, sequence_eq⟩ := same
    exact ⟨rotation_eq.symm, hp_eq.symm, mp_eq.symm, sequence_eq.symm⟩
  · intro fits
    exact ⟨fits.rotation_eq.symm, fits.hp_eq.symm, fits.mp_eq.symm, fits.lastInputSequence_eq.symm⟩

theorem zoneInfo_eq_iff (id : PlayerId) (player : Player) :
    zoneInfo id player = .ofPlayer id player ↔ FitsZoneEntered id player := by
  simp only [zoneInfo, PlayerInfo.ofPlayer, PlayerInfo.mk.injEq, true_and]
  constructor
  · intro same
    obtain ⟨name_eq, hp_eq, maxHp_eq, mp_eq, maxMp_eq⟩ := same
    exact ⟨name_eq.symm, hp_eq.symm, maxHp_eq.symm, mp_eq.symm, maxMp_eq.symm⟩
  · intro fits
    exact ⟨fits.name_eq.symm, fits.hp_eq.symm, fits.maxHp_eq.symm, fits.mp_eq.symm,
      fits.maxMp_eq.symm⟩

theorem joinedInfo_eq_iff (id : PlayerId) (player : Player) :
    joinedInfo id player = .ofPlayer id player ↔ FitsPlayerJoined id player := by
  simp only [joinedInfo, PlayerInfo.ofPlayer, PlayerInfo.mk.injEq, true_and]
  constructor
  · intro same
    obtain ⟨name_eq, mp_eq, maxMp_eq⟩ := same
    exact ⟨name_eq.symm, mp_eq.symm, maxMp_eq.symm⟩
  · intro fits
    exact ⟨fits.name_eq.symm, fits.mp_eq.symm, fits.maxMp_eq.symm⟩

/-! ## The packets as a whole -/

/-- Two readings of the entries found under the same ids agree as lists exactly when
they agree entry by entry. -/
theorem filterMap_map_eq_iff {Id Entry Reading : Type} (find : Id → Option Entry)
    (first second : Id → Entry → Reading) (ids : List Id) :
    (ids.filterMap fun id => (find id).map (first id)) =
        (ids.filterMap fun id => (find id).map (second id)) ↔
      ∀ id ∈ ids, ∀ entry, find id = some entry → first id entry = second id entry := by
  induction ids with
  | nil => simp
  | cons id rest ih =>
      cases found : find id with
      | none => simp [found, ih]
      | some entry => simp [found, ih]

theorem snapshotFor_faithful_iff (manager : GameManager) (visiblePlayers : List PlayerId)
    (serverTime : Nat) :
    (manager.snapshotFor visiblePlayers serverTime).playerStates =
        (visiblePlayers.filterMap fun id => (manager.world.getPlayer id).map (.ofPlayer id)) ↔
      ∀ id ∈ visiblePlayers, ∀ player, manager.world.getPlayer id = some player →
        FitsSnapshot player := by
  simp only [snapshotFor, filterMap_map_eq_iff, snapshotState_eq_iff]

/-- Every player info that these requests send is backed by the world. -/
def Faithful (manager : GameManager) (requests : List Outgoing) : Prop :=
  ∀ request ∈ requests, ∀ packet ∈ request.packets, ∀ info ∈ packet.playerInfos,
    manager.world.Backs info

instance (manager : GameManager) (requests : List Outgoing) :
    Decidable (manager.Faithful requests) :=
  inferInstanceAs (Decidable (∀ request ∈ requests, ∀ packet ∈ request.packets,
    ∀ info ∈ packet.playerInfos, manager.world.Backs info))

theorem zoneInfo_backed_iff {manager : GameManager} {id : PlayerId} {player : Player}
    (found : manager.world.getPlayer id = some player) :
    manager.world.Backs (zoneInfo id player) ↔ FitsZoneEntered id player :=
  (World.backs_iff found).trans (zoneInfo_eq_iff id player)

theorem joinedInfo_backed_iff {manager : GameManager} {id : PlayerId} {player : Player}
    (found : manager.world.getPlayer id = some player) :
    manager.world.Backs (joinedInfo id player) ↔ FitsPlayerJoined id player :=
  (World.backs_iff found).trans (joinedInfo_eq_iff id player)

theorem mem_nearPlayerInfos_iff {manager : GameManager} {id : PlayerId} {position : Vec3}
    {info : PlayerInfo} :
    info ∈ manager.nearPlayerInfos id position ↔
      ∃ near ∈ manager.getPlayersInAOI position, near ≠ id ∧
        ∃ player, manager.world.getPlayer near = some player ∧ info = zoneInfo near player := by
  simp only [nearPlayerInfos, List.mem_filterMap]
  constructor
  · intro member
    obtain ⟨near, inRange, listed⟩ := member
    split at listed
    · cases listed
    · next other =>
        obtain ⟨player, found, rfl⟩ := Option.map_eq_some_iff.mp listed
        exact ⟨near, inRange, other, player, found, rfl⟩
  · intro described
    obtain ⟨near, inRange, other, player, found, rfl⟩ := described
    exact ⟨near, inRange, by rw [if_neg other, found, Option.map_some]⟩

theorem sendEnterZoneResponse_faithful_iff (manager : GameManager) (entering : PlayerId)
    (session : SessionId) :
    manager.Faithful (manager.sendEnterZoneResponse entering session) ↔
      ∀ player, manager.world.getPlayer entering = some player →
        ∀ id ∈ entering :: manager.getPlayersInAOI player.position, ∀ described,
          manager.world.getPlayer id = some described → FitsZoneEntered id described := by
  unfold sendEnterZoneResponse
  cases found : manager.world.getPlayer entering with
  | none => simp [Faithful]
  | some player =>
      constructor
      · intro faithful _ same id member described foundDescribed
        cases same
        have backed := faithful _ List.mem_cons_self _ List.mem_cons_self
        by_cases isEntering : id = entering
        · subst isEntering
          cases found.symm.trans foundDescribed
          exact (zoneInfo_backed_iff found).mp (backed _ List.mem_cons_self)
        · have inRange := (List.mem_cons.mp member).resolve_left isEntering
          exact (zoneInfo_backed_iff foundDescribed).mp (backed _ (List.mem_cons_of_mem _
            (mem_nearPlayerInfos_iff.mpr ⟨id, inRange, isEntering, described, foundDescribed, rfl⟩)))
      · intro fits request isRequest packet isPacket info isInfo
        cases List.mem_singleton.mp isRequest
        cases List.mem_singleton.mp isPacket
        rcases List.mem_cons.mp isInfo with rfl | near
        · exact (zoneInfo_backed_iff found).mpr (fits player rfl _ List.mem_cons_self _ found)
        · obtain ⟨id, inRange, -, described, foundDescribed, rfl⟩ := mem_nearPlayerInfos_iff.mp near
          exact (zoneInfo_backed_iff foundDescribed).mpr
            (fits player rfl id (List.mem_cons_of_mem _ inRange) described foundDescribed)

theorem broadcastPlayerJoined_faithful_iff (manager : GameManager) (joining : PlayerId) :
    manager.Faithful (manager.broadcastPlayerJoined joining) ↔
      ∀ player, manager.world.getPlayer joining = some player →
        (∃ other, other ≠ joining ∧ manager.world.Active other) →
          FitsPlayerJoined joining player := by
  unfold broadcastPlayerJoined
  cases found : manager.world.getPlayer joining with
  | none => simp [Faithful]
  | some player =>
      constructor
      · intro faithful _ same listeners
        obtain ⟨other, isOther, listener, foundListener, active⟩ := listeners
        cases same
        have told := (mem_broadcast_iff manager joining
          (.playerJoined (joinedInfo joining player)) _).mpr
          ⟨other, listener, foundListener, isOther, active, rfl⟩
        exact (joinedInfo_backed_iff found).mp
          (faithful _ told _ List.mem_cons_self _ List.mem_cons_self)
      · intro fits request isRequest packet isPacket info isInfo
        obtain ⟨other, listener, foundListener, isOther, active, rfl⟩ :=
          (mem_broadcast_iff _ _ _ _).mp isRequest
        cases List.mem_singleton.mp isPacket
        cases List.mem_singleton.mp isInfo
        exact (joinedInfo_backed_iff found).mpr
          (fits player rfl ⟨other, isOther, listener, foundListener, active⟩)

/-- What the three encoders send about players is what the world holds: a snapshot for
these visible players, the response to one player's entry and the broadcast of another's. -/
structure StateSurvives (manager : GameManager) (visiblePlayers : List PlayerId)
    (serverTime : Nat) (entering : PlayerId) (session : SessionId) (joining : PlayerId) :
    Prop where
  worldSnapshot : (manager.snapshotFor visiblePlayers serverTime).playerStates =
    visiblePlayers.filterMap fun id => (manager.world.getPlayer id).map (.ofPlayer id)
  zoneEntered : manager.Faithful (manager.sendEnterZoneResponse entering session)
  playerJoined : manager.Faithful (manager.broadcastPlayerJoined joining)

/-- The players to be described hold just the values that the encoders put in their place. -/
structure FitsEncoders (manager : GameManager) (visiblePlayers : List PlayerId)
    (entering joining : PlayerId) : Prop where
  worldSnapshot : ∀ id ∈ visiblePlayers, ∀ player, manager.world.getPlayer id = some player →
    FitsSnapshot player
  zoneEntered : ∀ player, manager.world.getPlayer entering = some player →
    ∀ id ∈ entering :: manager.getPlayersInAOI player.position, ∀ described,
      manager.world.getPlayer id = some described → FitsZoneEntered id described
  playerJoined : ∀ player, manager.world.getPlayer joining = some player →
    (∃ other, other ≠ joining ∧ manager.world.Active other) → FitsPlayerJoined joining player

theorem stateSurvives_iff (manager : GameManager) (visiblePlayers : List PlayerId)
    (serverTime : Nat) (entering : PlayerId) (session : SessionId) (joining : PlayerId) :
    manager.StateSurvives visiblePlayers serverTime entering session joining ↔
      manager.FitsEncoders visiblePlayers entering joining := by
  have snapshot := manager.snapshotFor_faithful_iff visiblePlayers serverTime
  have zone := manager.sendEnterZoneResponse_faithful_iff entering session
  have joined := manager.broadcastPlayerJoined_faithful_iff joining
  constructor
  · intro survives
    exact ⟨snapshot.mp survives.worldSnapshot, zone.mp survives.zoneEntered,
      joined.mp survives.playerJoined⟩
  · intro fits
    exact ⟨snapshot.mpr fits.worldSnapshot, zone.mpr fits.zoneEntered,
      joined.mpr fits.playerJoined⟩

/-- Two players have entered and nothing else has happened. -/
theorem not_stateSurvives_of_fresh_players :
    ∃ moments manager, Trace {} moments manager ∧
      (manager.snapshotFor [1] 20).playerStates =
        [{ playerId := 1, position := some ⟨50, 50, 0⟩, velocity := some {}, rotation := 1 }] ∧
      ([1].filterMap fun id => (manager.world.getPlayer id).map (PlayerState.ofPlayer id)) =
        [{ playerId := 1, position := some ⟨50, 50, 0⟩, velocity := some {}, hp := 100, mp := 50 }] ∧
      ¬ manager.Faithful (manager.sendEnterZoneResponse 1 7) ∧
      ¬ manager.Faithful (manager.broadcastPlayerJoined 1) ∧
      ¬ manager.StateSurvives [1] 20 1 7 1 := by
  have executed : (trace? {} [.enterZone 1 7 ⟨50, 50, 0⟩ [true],
      .enterZone 2 8 ⟨60, 60, 0⟩ [true, true]]).any (fun result => decide (
        (result.2.snapshotFor [1] 20).playerStates =
          [{ playerId := 1, position := some ⟨50, 50, 0⟩, velocity := some {}, rotation := 1 }] ∧
        ([1].filterMap fun id => (result.2.world.getPlayer id).map (PlayerState.ofPlayer id)) =
          [{ playerId := 1, position := some ⟨50, 50, 0⟩, velocity := some {}, hp := 100,
             mp := 50 }] ∧
        ¬ result.2.Faithful (result.2.sendEnterZoneResponse 1 7) ∧
        ¬ result.2.Faithful (result.2.broadcastPlayerJoined 1))) = true := by decide +kernel
  obtain ⟨⟨moments, manager⟩, followed, checked⟩ := (Option.any_eq_true _ _).mp executed
  obtain ⟨encoded, held, zone, joined⟩ := of_decide_eq_true checked
  exact ⟨moments, manager, trace_of_trace? followed, encoded, held, zone, joined,
    fun survives => zone survives.zoneEntered⟩

/-! ## In the states that the game thread reaches -/

/-- Nothing in the game changes these fields after a player has entered. -/
structure AsCreated (id : PlayerId) (player : Player) : Prop where
  name_eq : player.name = playerName id
  rotation_eq : player.rotation = 0
  hp_eq : player.hp = 100
  maxHp_eq : player.maxHp = 100
  mp_eq : player.mp = 50
  maxMp_eq : player.maxMp = 50

theorem PlayerChange.asCreated {config : GameConfig} {id : PlayerId} {event : Event}
    {before after : Option Player} (change : PlayerChange config id event before after)
    (asCreated : ∀ player, before = some player → AsCreated id player) :
    ∀ player, after = some player → AsCreated id player := by
  intro player found
  cases change with
  | kept => exact asCreated player found
  | input | disconnected | reentered =>
      cases found
      obtain ⟨name_eq, rotation_eq, hp_eq, maxHp_eq, mp_eq, maxMp_eq⟩ := asCreated _ rfl
      exact ⟨name_eq, rotation_eq, hp_eq, maxHp_eq, mp_eq, maxMp_eq⟩
  | spawned =>
      cases found
      exact ⟨rfl, rfl, rfl, rfl, rfl, rfl⟩
  | @moved earlier deltaTime =>
      cases found
      obtain ⟨name_eq, rotation_eq, hp_eq, maxHp_eq, mp_eq, maxMp_eq⟩ := asCreated earlier rfl
      unfold GameManager.moved
      split
      · exact ⟨name_eq, rotation_eq, hp_eq, maxHp_eq, mp_eq, maxMp_eq⟩
      · exact ⟨name_eq, rotation_eq, hp_eq, maxHp_eq, mp_eq, maxMp_eq⟩

theorem asCreated_of_trace {config : GameConfig} {moments : List Moment} {manager : GameManager}
    (trace : Trace config moments manager) :
    ∀ id player, manager.world.getPlayer id = some player → AsCreated id player := by
  refine Trace.preserves (fun manager => ∀ id player, manager.world.getPlayer id = some player →
    AsCreated id player) ?_ ?_ trace
  · intro quadTree id player found
    simp at found
  · intro before moment after asCreated happens id
    rw [happens.after_eq_step]
    exact (step_playerChange happens.valid id).asCreated (asCreated id)

/-- In a running game no snapshot that lists anybody is faithful, and neither is the
response to an entry. -/
theorem fitsEncoders_iff_of_trace {config : GameConfig} {moments : List Moment}
    {manager : GameManager} (trace : Trace config moments manager)
    (visiblePlayers : List PlayerId) (entering joining : PlayerId) :
    manager.FitsEncoders visiblePlayers entering joining ↔
      (∀ id ∈ visiblePlayers, manager.world.getPlayer id = none) ∧
        manager.world.getPlayer entering = none ∧
        (manager.world.getPlayer joining = none ∨
          ∀ other, other ≠ joining → ¬ manager.world.Active other) := by
  have asCreated := asCreated_of_trace trace
  constructor
  · intro fits
    refine ⟨fun id member => ?_, ?_, ?_⟩
    · cases found : manager.world.getPlayer id with
      | none => rfl
      | some player =>
          have zero := (fits.worldSnapshot id member player found).hp_eq
          simp [(asCreated id player found).hp_eq] at zero
    · cases found : manager.world.getPlayer entering with
      | none => rfl
      | some player =>
          have zero := (fits.zoneEntered player found entering List.mem_cons_self player found).mp_eq
          simp [(asCreated entering player found).mp_eq] at zero
    · cases found : manager.world.getPlayer joining with
      | none => exact .inl rfl
      | some player =>
          refine .inr fun other isOther active => ?_
          have zero := (fits.playerJoined player found ⟨other, isOther, active⟩).mp_eq
          simp [(asCreated joining player found).mp_eq] at zero
  · intro nobody
    obtain ⟨nobodyVisible, nobodyEnters, nobodyHears⟩ := nobody
    refine ⟨fun id member player found => ?_, fun player found => ?_,
      fun player found listeners => ?_⟩
    · simp [nobodyVisible id member] at found
    · simp [nobodyEnters] at found
    · obtain ⟨other, isOther, active⟩ := listeners
      rcases nobodyHears with absent | alone
      · simp [absent] at found
      · exact absurd active (alone other isOther)

end GameManager

end CppMMO.Game.Managers
