import CppMMO.Game.Managers.GameLoop
import CppMMO.Game.Managers.GameManagerProperties
import CppMMO.Server
import Mathlib.Data.List.Count

/-! The server against the game thread alone, and what becomes of a session once it is
removed. -/

set_option autoImplicit false

namespace CppMMO

open CppMMO.Lib CppMMO.Protocol CppMMO.Game CppMMO.Game.Models CppMMO.Game.Managers CppMMO.Utils

def Accepting.isStarted (session : SessionId) : Accepting → Bool
  | .started other => other = session
  | .idle | .added _ | .ended => false

/-- `RemoveSession` has taken the session out and is not done with it. -/
def Disconnecting.isRemoving : Disconnecting → Bool
  | .erased | .queueing _ => true
  | .closed | .removed => false

namespace Server

/-! ## The game thread inside the server -/

/-- The event of the game thread that a step of the server is, if it is one. -/
def event? : Label → Option Event
  | .processGameCommand command sessionFound spawnPosition now later =>
      some (.processGameCommand command sessionFound spawnPosition now later [])
  | .updateWorld deltaTime => some (.updateWorld deltaTime)
  | .sendWorldSnapshots serverTime => some (.sendWorldSnapshots serverTime)
  | .flushAllBatches => some (.flushAllBatches [])
  | .rehash players playerBatches => some (.rehash players playerBatches)
  | _ => none

theorem takeUp_manager (server : Server) (session : SessionId) (handling : Handling) :
    (server.takeUp session handling).manager = server.manager := by
  cases handling <;> rfl

/-- A step leaves the game manager alone, or is a valid event of the game thread. -/
theorem manager_effect {server : Server} {label : Label} (enabled : server.Enabled label) :
    match event? label with
    | none => (server.effect label).manager = server.manager
    | some event => server.manager.Valid event ∧
        (server.effect label).manager = (server.manager.step event).1 := by
  cases label with
  | processGameCommand command sessionFound spawnPosition now later =>
      exact ⟨enabled.2.2.2, rfl⟩
  | updateWorld deltaTime => exact ⟨enabled.2.2, rfl⟩
  | sendWorldSnapshots serverTime => exact ⟨trivial, rfl⟩
  | flushAllBatches => exact ⟨trivial, rfl⟩
  | rehash players playerBatches => exact ⟨enabled.2.2, rfl⟩
  | processJob job endpointKnown =>
      simp only [event?, effect]
      split
      · rfl
      · exact takeUp_manager _ _ _
  | checkConnected | setPlayerId | removeSession | getPlayerId | isConnected | send =>
      simp only [event?, effect]
      split <;> rfl
  | _ => rfl

/-- A stage of the game loop, as opposed to the sending it leads to. -/
def Label.isStage : Label → Bool
  | .processGameCommand _ _ _ _ _ | .updateWorld _ | .sendWorldSnapshots _ | .flushAllBatches
  | .rehash _ _ => true
  | _ => false

theorem event?_eq_none {label : Label} (other : label.isStage = false) : event? label = none := by
  cases label <;> first | rfl | cases other

/-- A command in hand was there before, and nothing else happened on the game thread, or its
session has just been looked up. -/
theorem found_effect {server : Server} {label : Label} (enabled : server.Enabled label)
    {command : GameCommand} {sessionFound : Bool}
    (found : (server.effect label).found = some (command, sessionFound)) :
    server.found = some (command, sessionFound) ∧ label.isStage = false ∨
      label = .getSession command ∧
        sessionFound = server.activeSessions.contains command.senderSessionId := by
  cases label with
  | getSession other =>
      obtain ⟨rfl, isFound⟩ := Prod.mk.inj (Option.some.inj found)
      exact .inr ⟨rfl, isFound.symm⟩
  | processGameCommand => cases found
  | updateWorld | rehash => cases enabled.2.1.symm.trans found
  | sendWorldSnapshots | flushAllBatches => cases enabled.2.symm.trans found
  | processJob job endpointKnown =>
      simp only [effect] at found
      split at found
      · exact .inl ⟨found, rfl⟩
      · next handling _ => cases handling <;> exact .inl ⟨found, rfl⟩
  | checkConnected | setPlayerId | removeSession | getPlayerId | isConnected | send =>
      simp only [effect] at found
      split at found <;> exact .inl ⟨found, rfl⟩
  | _ => exact .inl ⟨found, rfl⟩

/-- The game manager of a running server is in a state the game thread can reach. -/
theorem exists_trace {config : GameConfig} {start finish : Server} {labels : List Label}
    (created : create? config = some start) (run : Runs start labels finish) :
    ∃ moments, Trace config moments finish.manager := by
  refine run.preserves (fun server => ∃ moments, Trace config moments server.manager) ?_ ?_
  · rintro before label after ⟨moments, trace⟩ taken
    obtain ⟨enabled, rfl⟩ := step_eq_some_iff.mp taken
    have managed := manager_effect enabled
    cases isEvent : event? label with
    | none =>
        rw [isEvent] at managed
        exact ⟨moments, managed ▸ trace⟩
    | some event =>
        rw [isEvent] at managed
        exact ⟨moments ++ [Moment.of before.manager event], managed.2 ▸ trace.snoc event managed.1⟩
  · obtain ⟨manager, createdManager, rfl⟩ := Option.map_eq_some_iff.mp created
    exact ⟨[], manager, createdManager, .nil⟩

/-! ## A session is removed once -/

def Label.pushesDisconnect (session : SessionId) : Label → Bool
  | .pushDisconnect other _ => other = session
  | _ => false

def Label.processesDisconnect (session : SessionId) : Label → Bool
  | .processGameCommand command _ _ _ _ => command.isDisconnectOf session
  | _ => false

def removingOf (session : SessionId) (entry : SessionId × Disconnecting) : Bool :=
  entry.1 = session && entry.2.isRemoving

def registrations (server : Server) (session : SessionId) : Nat :=
  (server.accepting.isStarted session).toNat +
    (server.activeSessions.contains session).toNat +
    server.disconnects.countP (removingOf session)

/-- A session is registered at most once, and its registration is traded for at most one
disconnect command, which is in the queue until it is processed. -/
structure Ledger (session : SessionId) (past : List Label) (server : Server) : Prop where
  unused : server.nextSessionId ≤ session →
    server.registrations session + past.countP (Label.pushesDisconnect session) = 0
  once : server.registrations session + past.countP (Label.pushesDisconnect session) ≤ 1
  queued : server.gameLogicQueue.countP (GameCommand.isDisconnectOf session) +
      past.countP (Label.processesDisconnect session) =
    past.countP (Label.pushesDisconnect session)
  notBuilt : ∀ command, .pushGameCommand command ∈ server.working →
    command.payload.isDisconnect = false

private theorem countP_erase_of_neg {α : Type} [BEq α] [LawfulBEq α] {test : α → Bool} {item : α}
    (fails : test item = false) (items : List α) :
    (items.erase item).countP test = items.countP test := by
  by_cases member : item ∈ items
  · simp [(List.perm_cons_erase member).countP_eq test, fails]
  · rw [List.erase_of_not_mem member]

private theorem countP_erase_add_one {α : Type} [BEq α] [LawfulBEq α] {test : α → Bool} {item : α}
    (passes : test item = true) {items : List α} (member : item ∈ items) :
    (items.erase item).countP test + 1 = items.countP test := by
  simp [(List.perm_cons_erase member).countP_eq test, passes]

private theorem countP_replace_le {α : Type} [BEq α] [LawfulBEq α] {test : α → Bool}
    {item next : α} {items : List α} (member : item ∈ items)
    (noMore : test next = true → test item = true) :
    (next :: items.erase item).countP test ≤ items.countP test := by
  rw [(List.perm_cons_erase member).countP_eq test, List.countP_cons, List.countP_cons]
  refine Nat.add_le_add_left ?_ _
  split
  · next passes => rw [if_pos (noMore passes)]
  · exact Nat.zero_le _

namespace Ledger

variable {session : SessionId} {past : List Label} {before after : Server} {label : Label}

theorem frame (ledger : Ledger session past before)
    (noPush : label.pushesDisconnect session = false)
    (noProcess : label.processesDisconnect session = false)
    (next : before.nextSessionId ≤ after.nextSessionId)
    (notMore : after.registrations session ≤ before.registrations session)
    (sameQueue : after.gameLogicQueue.countP (GameCommand.isDisconnectOf session) =
      before.gameLogicQueue.countP (GameCommand.isDisconnectOf session))
    (sameBuilt : ∀ command, .pushGameCommand command ∈ after.working →
      command.payload.isDisconnect = false) :
    Ledger session (past ++ [label]) after := by
  have pushes : (past ++ [label]).countP (Label.pushesDisconnect session) =
      past.countP (Label.pushesDisconnect session) := by
    simp [List.countP_append, noPush]
  have processes : (past ++ [label]).countP (Label.processesDisconnect session) =
      past.countP (Label.processesDisconnect session) := by
    simp [List.countP_append, noProcess]
  refine ⟨fun unseen => ?_, ?_, ?_, sameBuilt⟩
  · have none := ledger.unused (next.trans unseen)
    omega
  · have one := ledger.once
    omega
  · rw [pushes, processes, sameQueue]
    exact ledger.queued

theorem accept (ledger : Ledger session past before) (enabled : before.Enabled .accept) :
    Ledger session (past ++ [.accept]) (before.effect .accept) := by
  have idle : before.accepting = .idle := enabled.1
  by_cases same : session = before.nextSessionId
  · have empty := ledger.unused same.ge
    have becomes : (before.effect .accept).registrations session =
        before.registrations session + 1 := by
      simp only [registrations, effect, idle, Accepting.isStarted, same, decide_true,
        Bool.toNat_true, Bool.toNat_false]
      omega
    refine ⟨fun unseen => ?_, ?_, ?_, ledger.notBuilt⟩
    · exact absurd (same ▸ unseen) (Nat.not_succ_le_self _)
    · rw [becomes, List.countP_append]
      simp only [List.countP_singleton, Label.pushesDisconnect, Bool.false_eq_true, ↓reduceIte]
      omega
    · simpa [effect, List.countP_append, Label.pushesDisconnect, Label.processesDisconnect]
        using ledger.queued
  · refine ledger.frame rfl rfl (Nat.le_succ _) (Nat.le_of_eq ?_) rfl ledger.notBuilt
    simp [registrations, effect, idle, Accepting.isStarted, Ne.symm same]

theorem addSession (ledger : Ledger session past before) {added : SessionId}
    (enabled : before.Enabled (.addSession added)) :
    Ledger session (past ++ [.addSession added]) (before.effect (.addSession added)) := by
  have started : before.accepting = .started added := enabled
  have bound := ledger.once
  refine ledger.frame rfl rfl (Nat.le_refl _) ?_ rfl ledger.notBuilt
  refine Nat.le_of_eq ?_
  simp only [registrations, started, effect, List.contains_eq_mem] at bound ⊢
  by_cases same : session = added
  · subst same
    by_cases active : session ∈ before.activeSessions
    · simp only [Accepting.isStarted, active, decide_true, Bool.toNat_true] at bound
      omega
    · simp [Accepting.isStarted, active]
  · simp [Accepting.isStarted, same, Ne.symm same]

theorem removeSession (ledger : Ledger session past before) {removed : SessionId} :
    Ledger session (past ++ [.removeSession removed]) (before.effect (.removeSession removed)) := by
  have closed : removingOf session (removed, .closed) = false := by
    simp [removingOf, Disconnecting.isRemoving]
  have erased := countP_erase_of_neg closed before.disconnects
  simp only [effect]
  split
  · next active =>
      refine ledger.frame rfl rfl (Nat.le_refl _) (Nat.le_of_eq ?_) rfl ledger.notBuilt
      simp only [registrations, List.countP_cons, erased, List.contains_eq_mem, List.mem_filter]
      by_cases same : session = removed
      · subst same
        have member : session ∈ before.activeSessions := by simpa using active
        simp [member, removingOf, Disconnecting.isRemoving]
        omega
      · simp [same, Ne.symm same, removingOf]
  · refine ledger.frame rfl rfl (Nat.le_refl _) ?_ rfl ledger.notBuilt
    simp [registrations, erased, removingOf, Disconnecting.isRemoving]

theorem getPlayerId (ledger : Ledger session past before) {removed : SessionId}
    (enabled : before.Enabled (.getPlayerId removed)) :
    Ledger session (past ++ [.getPlayerId removed]) (before.effect (.getPlayerId removed)) := by
  have notMore : ∀ phase, ((removed, phase) :: before.disconnects.erase (removed, .erased)).countP
      (removingOf session) ≤ before.disconnects.countP (removingOf session) := by
    refine fun phase => countP_replace_le enabled fun counts => ?_
    simp only [removingOf, Bool.and_eq_true] at counts
    simp [removingOf, counts.1, Disconnecting.isRemoving]
  simp only [effect]
  split
  all_goals
    refine ledger.frame rfl rfl (Nat.le_refl _) ?_ rfl ledger.notBuilt
    exact Nat.add_le_add_left (notMore _) _

theorem pushDisconnect (ledger : Ledger session past before) {removed : SessionId}
    {playerId : PlayerId} (enabled : before.Enabled (.pushDisconnect removed playerId)) :
    Ledger session (past ++ [.pushDisconnect removed playerId])
      (before.effect (.pushDisconnect removed playerId)) := by
  have done : removingOf session (removed, .removed) = false := by
    simp [removingOf, Disconnecting.isRemoving]
  by_cases same : removed = session
  · -- The registration becomes the pushed command.
    have passes : removingOf session (removed, .queueing playerId) = true := by
      simp [removingOf, same, Disconnecting.isRemoving]
    have erased := countP_erase_add_one passes enabled
    have fewer : (before.effect (.pushDisconnect removed playerId)).registrations session + 1 =
        before.registrations session := by
      simp only [registrations, effect, List.countP_cons, done, Bool.false_eq_true, ↓reduceIte]
      omega
    have pushes : (past ++ [Label.pushDisconnect removed playerId]).countP
        (Label.pushesDisconnect session) =
          past.countP (Label.pushesDisconnect session) + 1 := by
      simp [List.countP_append, Label.pushesDisconnect, same]
    have bound := ledger.once
    have kept := ledger.queued
    refine ⟨fun unseen => ?_, ?_, ?_, ledger.notBuilt⟩
    · have none := ledger.unused unseen
      omega
    · omega
    · rw [pushes, ← kept]
      simp [effect, List.countP_append, Label.processesDisconnect, GameCommand.isDisconnectOf,
        GameCommandPayload.isDisconnect, same]
      omega
  · refine ledger.frame (by simp [Label.pushesDisconnect, same]) rfl (Nat.le_refl _) ?_ ?_
      ledger.notBuilt
    · refine Nat.add_le_add_left (countP_replace_le enabled fun counts => ?_) _
      simp [done] at counts
    · simp [effect, List.countP_append, GameCommand.isDisconnectOf, same]

theorem processGameCommand (ledger : Ledger session past before) {command : GameCommand}
    {sessionFound : Bool} {spawnPosition : Vec3} {now later : TimePoint}
    (enabled : before.Enabled (.processGameCommand command sessionFound spawnPosition now later)) :
    Ledger session (past ++ [.processGameCommand command sessionFound spawnPosition now later])
      (before.effect (.processGameCommand command sessionFound spawnPosition now later)) := by
  have member : command ∈ before.gameLogicQueue := enabled.2.2.1
  cases disconnects : command.isDisconnectOf session with
  | false =>
      exact ledger.frame rfl disconnects (Nat.le_refl _) (Nat.le_refl _)
        (countP_erase_of_neg disconnects _) ledger.notBuilt
  | true =>
      have erased := countP_erase_add_one disconnects member
      have kept := ledger.queued
      have pushes : (past ++ [Label.processGameCommand command sessionFound spawnPosition now
          later]).countP (Label.pushesDisconnect session) =
            past.countP (Label.pushesDisconnect session) := by
        simp [List.countP_append, Label.pushesDisconnect]
      have processes : (past ++ [Label.processGameCommand command sessionFound spawnPosition now
          later]).countP (Label.processesDisconnect session) =
            past.countP (Label.processesDisconnect session) + 1 := by
        simp [List.countP_append, Label.processesDisconnect, disconnects]
      refine ⟨fun unseen => ?_, ?_, ?_, ledger.notBuilt⟩
      · rw [pushes]
        exact ledger.unused unseen
      · rw [pushes]
        exact ledger.once
      · rw [pushes, processes, ← kept, ← erased]
        simp only [effect]
        omega

theorem pushGameCommand (ledger : Ledger session past before) {command : GameCommand}
    (enabled : before.Enabled (.pushGameCommand command)) :
    Ledger session (past ++ [.pushGameCommand command])
      (before.effect (.pushGameCommand command)) := by
  have notDisconnect : command.payload.isDisconnect = false := ledger.notBuilt command enabled
  refine ledger.frame rfl rfl (Nat.le_refl _) (Nat.le_refl _) ?_ ?_
  · simp [effect, List.countP_append, GameCommand.isDisconnectOf, notDisconnect]
  · exact fun other member => ledger.notBuilt other (List.mem_of_mem_erase member)

theorem processJob (ledger : Ledger session past before) {job : Job} {endpointKnown : Bool} :
    Ledger session (past ++ [.processJob job endpointKnown])
      (before.effect (.processJob job endpointKnown)) := by
  simp only [effect]
  split
  · exact ledger.frame rfl rfl (Nat.le_refl _) (Nat.le_refl _) rfl ledger.notBuilt
  · next handling handled =>
      have erased : ∀ command,
          .pushGameCommand command ∈ before.working.erase (.job job) →
          command.payload.isDisconnect = false :=
        fun other member => ledger.notBuilt other (List.mem_of_mem_erase member)
      have comesFrom := handleJob_comesFrom handled
      cases handling with
      | ignore | sendLoginFailure | publish | verifySessionTicket =>
          refine ledger.frame rfl rfl (Nat.le_refl _) (Nat.le_refl _) rfl fun other member => ?_
          exact erased other (by simpa [takeUp] using member)
      | pushGameCommand command =>
          refine ledger.frame rfl rfl (Nat.le_refl _) (Nat.le_refl _) rfl fun other member => ?_
          rcases List.mem_cons.mp member with same | earlier
          · cases same
            obtain ⟨-, ⟨data, payload, -⟩ | ⟨-, data, payload, -⟩⟩ := comesFrom
            · rw [payload]; rfl
            · rw [payload]; rfl
          · exact erased other earlier

theorem step (ledger : Ledger session past before) (enabled : before.Enabled label) :
    Ledger session (past ++ [label]) (before.effect label) := by
  cases label with
  | accept => exact ledger.accept enabled
  | addSession added => exact ledger.addSession enabled
  | acceptFails =>
      have idle : before.accepting = .idle := enabled
      refine ledger.frame rfl rfl (Nat.le_refl _) (Nat.le_of_eq ?_) rfl ledger.notBuilt
      simp [registrations, effect, idle, Accepting.isStarted]
  | rejectConnection endpointKnown =>
      have idle : before.accepting = .idle := enabled.1
      refine ledger.frame rfl rfl (Nat.le_refl _) (Nat.le_of_eq ?_) rfl ledger.notBuilt
      cases endpointKnown <;> simp [registrations, effect, idle, Accepting.isStarted]
  | setUpThrows constructed =>
      have idle : before.accepting = .idle := enabled.1
      refine ledger.frame rfl rfl ?_ (Nat.le_of_eq ?_) rfl ledger.notBuilt
      · cases constructed
        · exact Nat.le_refl _
        · exact Nat.le_succ _
      · simp [registrations, effect, idle, Accepting.isStarted]
  | onSessionConnectedThrows added =>
      have connected : before.accepting = .added added := enabled
      refine ledger.frame rfl rfl (Nat.le_refl _) (Nat.le_of_eq ?_) rfl ledger.notBuilt
      simp [registrations, effect, connected, Accepting.isStarted]
  | onSessionConnected added =>
      have connected : before.accepting = .added added := enabled.1
      refine ledger.frame rfl rfl (Nat.le_refl _) (Nat.le_of_eq ?_) rfl ledger.notBuilt
      simp [registrations, effect, connected, Accepting.isStarted]
  | popJob job =>
      exact ledger.frame rfl rfl (Nat.le_refl _) (Nat.le_refl _) rfl fun command member =>
        ledger.notBuilt command (by simpa [effect] using member)
  | processJob job endpointKnown => exact ledger.processJob
  | pushGameCommand command => exact ledger.pushGameCommand enabled
  | publish | sendLoginFailure =>
      exact ledger.frame rfl rfl (Nat.le_refl _) (Nat.le_refl _) rfl fun command member =>
        ledger.notBuilt command (List.mem_of_mem_erase member)
  | disconnect closing =>
      refine ledger.frame rfl rfl (Nat.le_refl _) (Nat.le_of_eq ?_) rfl ledger.notBuilt
      simp [registrations, effect, modifySession, removingOf, Disconnecting.isRemoving]
  | removeSession removed => exact ledger.removeSession
  | getPlayerId removed => exact ledger.getPlayerId enabled
  | pushDisconnect removed playerId => exact ledger.pushDisconnect enabled
  | onSessionDisconnected removed =>
      refine ledger.frame rfl rfl (Nat.le_refl _) (Nat.le_of_eq ?_) rfl ledger.notBuilt
      have done : removingOf session (removed, .removed) = false := by
        simp [removingOf, Disconnecting.isRemoving]
      simp [registrations, effect, countP_erase_of_neg done]
  | processGameCommand => exact ledger.processGameCommand enabled
  | checkConnected | setPlayerId | isConnected | send =>
      simp only [effect]
      split <;> exact ledger.frame rfl rfl (Nat.le_refl _) (Nat.le_refl _) rfl ledger.notBuilt
  | _ => exact ledger.frame rfl rfl (Nat.le_refl _) (Nat.le_refl _) rfl ledger.notBuilt

theorem of_run {config : GameConfig} {start finish : Server} {labels : List Label}
    (created : create? config = some start) (run : Runs start labels finish)
    (session : SessionId) : Ledger session labels finish := by
  have initially : Ledger session [] start := by
    obtain ⟨manager, -, rfl⟩ := Option.map_eq_some_iff.mp created
    exact ⟨fun _ => rfl, Nat.zero_le _, rfl, by simp⟩
  refine run.preserves_history (Ledger session) ?_ initially
  intro past before label after ledger taken
  obtain ⟨enabled, rfl⟩ := step_eq_some_iff.mp taken
  exact ledger.step enabled

theorem gone (ledger : Ledger session past before)
    (processed : ∃ label ∈ past, label.processesDisconnect session = true) :
    before.activeSessions.contains session = false ∧
      before.gameLogicQueue.countP (GameCommand.isDisconnectOf session) = 0 := by
  obtain ⟨label, isLabel, processes⟩ := processed
  have counted : 0 < past.countP (Label.processesDisconnect session) :=
    List.countP_pos_iff.mpr ⟨label, isLabel, processes⟩
  have pushedOnce := ledger.once
  have balance := ledger.queued
  have none : before.registrations session = 0 := by omega
  simp only [registrations] at none
  exact ⟨Bool.toNat_eq_zero.mp (by omega), by omega⟩

end Ledger

/-- Once the disconnect of the session is processed, its session is not found any more. -/
def Unfound (session : SessionId) (past : List Label) (server : Server) : Prop :=
  (∃ label ∈ past, label.processesDisconnect session = true) →
    ∀ command, server.found = some (command, true) → command.senderSessionId ≠ session

theorem Unfound.step {session : SessionId} {past : List Label} {before : Server} {label : Label}
    (unfound : Unfound session past before) (ledger : Ledger session past before)
    (enabled : before.Enabled label) : Unfound session (past ++ [label]) (before.effect label) := by
  rintro ⟨other, member, processes⟩ command found own
  have earlier : label.processesDisconnect session = false → other ∈ past := by
    intro noProcess
    rcases List.mem_append.mp member with earlier | last
    · exact earlier
    · rw [List.mem_singleton.mp last, noProcess] at processes
      cases processes
  rcases found_effect enabled found with ⟨foundBefore, quiet⟩ | ⟨rfl, registered⟩
  · have noProcess : label.processesDisconnect session = false := by
      cases label <;> first | rfl | cases quiet
    exact unfound ⟨other, earlier noProcess, processes⟩ command foundBefore own
  · rw [own, (ledger.gone ⟨other, earlier rfl, processes⟩).1] at registered
    cases registered

theorem Unfound.of_run {config : GameConfig} {start finish : Server} {labels : List Label}
    (created : create? config = some start) (run : Runs start labels finish)
    (session : SessionId) : Unfound session labels finish := by
  have initially : Ledger session [] start ∧ Unfound session [] start :=
    ⟨Ledger.of_run created .nil session, fun ⟨_, member, _⟩ => nomatch member⟩
  have both := run.preserves_history
    (fun past server => Ledger session past server ∧ Unfound session past server) ?_ initially
  · exact both.2
  · rintro past before label after ⟨ledger, unfound⟩ taken
    obtain ⟨enabled, rfl⟩ := step_eq_some_iff.mp taken
    exact ⟨ledger.step enabled, unfound.step ledger enabled⟩

/-- A session pushes at most one disconnect, and once it is processed, processing any
further command of the session only takes that command out of the queue. -/
theorem no_resurrection {config : GameConfig} {start finish : Server} {labels : List Label}
    (created : create? config = some start) (run : Runs start labels finish)
    (session : SessionId) :
    labels.countP (Label.pushesDisconnect session) ≤ 1 ∧
      ((∃ label ∈ labels, label.processesDisconnect session = true) →
        ∀ command sessionFound spawnPosition now later after, command.senderSessionId = session →
          finish.step (.processGameCommand command sessionFound spawnPosition now later) =
            some after →
          after = { finish with
            gameLogicQueue := finish.gameLogicQueue.erase command, found := none }) := by
  have ledger := Ledger.of_run created run session
  have unfound := Unfound.of_run created run session
  have pushedOnce := ledger.once
  refine ⟨by omega, ?_⟩
  intro processed command sessionFound spawnPosition now later after sender taken
  obtain ⟨⟨idle, found, queued, -⟩, rfl⟩ := step_eq_some_iff.mp taken
  have unregistered : sessionFound = false := by
    cases sessionFound with
    | false => rfl
    | true => exact absurd sender (unfound processed command found)
  have notDisconnect : command.payload.isDisconnect = false := by
    cases disconnects : command.payload.isDisconnect with
    | false => rfl
    | true =>
        have another : 0 < finish.gameLogicQueue.countP (GameCommand.isDisconnectOf session) :=
          List.countP_pos_iff.mpr
            ⟨command, queued, by simp [GameCommand.isDisconnectOf, sender, disconnects]⟩
        have none := (ledger.gone processed).2
        omega
  subst unregistered
  simp only [effect, GameManager.processGameCommand_of_unregistered notDisconnect, ← idle.1]

/-- A worker is slow with an input while the session disconnects: the input reaches the
queue after the disconnect was processed. -/
theorem no_resurrection_of_late_input :
    ∃ labels finish after,
      labels.countP (Label.pushesDisconnect 0) = 1 ∧ run? {} labels = some finish ∧
      finish.gameLogicQueue = [⟨.playerInput ⟨7, 1, 1⟩, 0⟩] ∧
      finish.step (.processGameCommand ⟨.playerInput ⟨7, 1, 1⟩, 0⟩ false ⟨20, 20, 0⟩ 50000000
        50000000) = some after ∧
      after = { finish with gameLogicQueue := [], found := none } := by
  let input : GameCommand := ⟨.playerInput ⟨7, 1, 1⟩, 0⟩
  let labels : List Label := connects 0 ++ logsIn 0 7 ++ enters 0 7 1 ++
    hands 0 { id := .cPlayerInput, data := some { castPlayerInput := ⟨1, 1⟩ } } ++ leaves 0 7 ++
    processes (disconnectCommand 0 7) false 40000000 ++
    [.pushGameCommand input, .getSession input]
  have executed : (run? {} labels).map (fun finish =>
      decide (finish.gameLogicQueue = [input] ∧
        (finish.step (.processGameCommand input false ⟨20, 20, 0⟩ 50000000 50000000)).isSome)) =
        some true := by decide +kernel
  obtain ⟨finish, reached, checked⟩ := Option.map_eq_some_iff.mp executed
  obtain ⟨queue, isSome⟩ := of_decide_eq_true checked
  obtain ⟨after, taken⟩ := Option.isSome_iff_exists.mp isSome
  obtain ⟨start, created, run⟩ := runs_of_run? reached
  have same := (no_resurrection created run 0).2
    ⟨.processGameCommand (disconnectCommand 0 7) false ⟨20, 20, 0⟩ 40000000 40000000,
      by simp [labels, processes], rfl⟩ input _ _ _ _ after rfl taken
  refine ⟨labels, finish, after, by decide +kernel, reached, queue, taken, ?_⟩
  rw [same, queue, List.erase_cons_head]

end Server

end CppMMO
