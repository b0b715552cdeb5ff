import CppMMO.Game.Managers.GameManager
import CppMMO.Lib.Transition
import CppMMO.Utils.JobProcessor

/-! The whole server: accept loop, sessions, job workers, login replies, the game
thread and chat, as one system whose steps interleave freely.

A step is what one thread does between two points where another thread could
notice. Queues are taken from at any place, since only the order of each producer is
kept; a read loop may still hand over a packet while another thread closes the
socket; `Disconnect` may run any number of times for a session. -/

set_option autoImplicit false

namespace CppMMO

open CppMMO.Lib CppMMO.Protocol CppMMO.Game CppMMO.Game.Models CppMMO.Game.Managers CppMMO.Utils

/-- A session carries player id 0 until a login succeeds. -/
structure SessionState where
  connected : Bool := true
  playerId : PlayerId := 0

/-- How far `AcceptLoop` is with a connection: the session runs before it is added to
the session manager and to the chat manager. Its one `try` block encloses the whole loop,
so the first exception ends it. -/
inductive Accepting where
  | idle
  | started (session : SessionId)
  | added (session : SessionId)
  | ended
deriving DecidableEq

/-- How far a call of `Disconnect` is, from the closed socket on. -/
inductive Disconnecting where
  | closed
  | erased
  | queueing (playerId : PlayerId)
  | removed
deriving DecidableEq

inductive Work where
  | job (job : Job)
  | pushGameCommand (command : GameCommand)
  | publish (session : SessionId) (playerId : PlayerId) (message : Bytes)
  | sendLoginFailure (session : SessionId)
deriving DecidableEq

structure VerifyTicketResponse where
  success : Bool
  playerId : PlayerId := 0
  username : String := ""
  errorCode : Int := 0
  errorMessage : String := ""
deriving DecidableEq

/-- A login after its packet was handled: with the auth server, answered, found still
connected, and the reply about to be sent. -/
inductive Login where
  | verifying (session : SessionId) (playerId : PlayerId) (commandId : Int)
  | replied (session : SessionId) (commandId : Int) (response : VerifyTicketResponse)
  | checked (session : SessionId) (commandId : Int) (response : VerifyTicketResponse)
  | answered (session : SessionId) (packet : ServerPacket)
deriving DecidableEq

/-- A published chat message. The publishing session is kept for reference only. -/
structure ChatMessage where
  session : SessionId
  playerId : PlayerId
  message : Bytes
deriving DecidableEq

/-- `sent` lists everything that was put on a write queue. A command stays in
`gameLogicQueue` until the game thread has handled it, `found` is the one it looked up the
session of, `outbox` are the requests it still has to make and `granted` one that found its
session connected. -/
structure Server where
  nextSessionId : SessionId := 0
  sessions : SessionId → SessionState := fun _ => {}
  accepting : Accepting := .idle
  activeSessions : List SessionId := []
  connectedSessions : List SessionId := []
  disconnects : List (SessionId × Disconnecting) := []
  jobQueue : List Job := []
  working : List Work := []
  logins : List Login := []
  gameLogicQueue : List GameCommand := []
  found : Option (GameCommand × Bool) := none
  manager : GameManager
  outbox : List Outgoing := []
  granted : Option Outgoing := none
  chatChannel : List ChatMessage := []
  published : List ChatMessage := []
  sent : List (SessionId × ServerPacket) := []

namespace Server

def maxConcurrentConnections : Nat := 600

/-- The peer of an accepted socket may be gone at any time: a rejection reads its endpoint
for the log (`endpointKnown`), the set-up throws before or after the `Session` constructor
has drawn the next id (`constructed`), and `OnSessionConnected` throws once the session is
in its map. -/
inductive Label where
  | accept
  | acceptFails
  | rejectConnection (endpointKnown : Bool)
  | setUpThrows (constructed : Bool)
  | addSession (session : SessionId)
  | onSessionConnected (session : SessionId)
  | onSessionConnectedThrows (session : SessionId)
  | receive (session : SessionId) (packet : Option UnifiedPacket)
  | popJob (job : Job)
  | processJob (job : Job) (endpointKnown : Bool)
  | pushGameCommand (command : GameCommand)
  | publish (session : SessionId) (playerId : PlayerId) (message : Bytes)
  | sendLoginFailure (session : SessionId)
  | verifySessionTicket (session : SessionId) (playerId : PlayerId) (commandId : Int)
      (response : VerifyTicketResponse)
  | checkConnected (session : SessionId) (commandId : Int) (response : VerifyTicketResponse)
  | setPlayerId (session : SessionId) (commandId : Int) (response : VerifyTicketResponse)
  | sendLoginAnswer (session : SessionId) (packet : ServerPacket)
  | disconnect (session : SessionId)
  | removeSession (session : SessionId)
  | getPlayerId (session : SessionId)
  | pushDisconnect (session : SessionId) (playerId : PlayerId)
  | onSessionDisconnected (session : SessionId)
  | getSession (command : GameCommand)
  | processGameCommand (command : GameCommand) (sessionFound : Bool) (spawnPosition : Vec3)
      (now later : TimePoint)
  | updateWorld (deltaTime : ℚ)
  | sendWorldSnapshots (serverTime : Nat)
  | flushAllBatches
  | rehash (players : UnorderedMap PlayerId Player)
      (playerBatches : UnorderedMap PlayerId (List ServerPacket))
  | isConnected
  | send
  | handleRedisChatMessage (chat : ChatMessage)

def modifySession (server : Server) (session : SessionId)
    (update : SessionState → SessionState) : Server :=
  { server with sessions := Function.update server.sessions session (update (server.sessions session)) }

/-- The game thread has no request left to make. -/
def Idle (server : Server) : Prop := server.outbox = [] ∧ server.granted = none

instance (server : Server) : Decidable server.Idle := inferInstanceAs (Decidable (_ ∧ _))

/-- Whether `GetSession` or the handler's own pointer gives a connected session. -/
def reaches (server : Server) (request : Outgoing) : Bool :=
  (!request.lookup || server.activeSessions.contains request.session) &&
    (server.sessions request.session).connected

def loginFailure (errorCode : Int) (errorMessage : String) (commandId : Int) : ServerPacket :=
  .loginFailure errorCode errorMessage commandId

def loginSuccess (response : VerifyTicketResponse) (commandId : Int) : ServerPacket :=
  .loginSuccess { playerId := response.playerId, name := response.username, hp := 100, maxHp := 100 }
    commandId

def takeUp (server : Server) (session : SessionId) : Handling → Server
  | .ignore => server
  | .pushGameCommand command =>
      { server with working := .pushGameCommand command :: server.working }
  | .publish playerId message =>
      { server with working := .publish session playerId message :: server.working }
  | .sendLoginFailure => { server with working := .sendLoginFailure session :: server.working }
  | .verifySessionTicket _ playerId commandId =>
      { server with logins := .verifying session playerId commandId :: server.logins }

def Enabled (server : Server) : Label → Prop
  | .accept =>
      server.accepting = .idle ∧ server.activeSessions.length < maxConcurrentConnections
  | .acceptFails => server.accepting = .idle
  | .rejectConnection _ =>
      server.accepting = .idle ∧ maxConcurrentConnections ≤ server.activeSessions.length
  | .setUpThrows _ =>
      server.accepting = .idle ∧ server.activeSessions.length < maxConcurrentConnections
  | .addSession session => server.accepting = .started session
  | .onSessionConnected session =>
      server.accepting = .added session ∧ (server.sessions session).connected = true
  | .onSessionConnectedThrows session => server.accepting = .added session
  | .receive session _ => session < server.nextSessionId
  | .popJob job => job ∈ server.jobQueue
  | .processJob job endpointKnown =>
      .job job ∈ server.working ∧
        (endpointKnown = true → (server.sessions job.session).connected = true) ∧
        (handleJob job (server.sessions job.session).playerId endpointKnown).isSome = true
  | .pushGameCommand command => .pushGameCommand command ∈ server.working
  | .publish session playerId message => .publish session playerId message ∈ server.working
  | .sendLoginFailure session => .sendLoginFailure session ∈ server.working
  | .verifySessionTicket session playerId commandId _ =>
      .verifying session playerId commandId ∈ server.logins
  | .checkConnected session commandId response =>
      .replied session commandId response ∈ server.logins
  | .setPlayerId session commandId response => .checked session commandId response ∈ server.logins
  | .sendLoginAnswer session packet => .answered session packet ∈ server.logins
  | .disconnect session => session < server.nextSessionId
  | .removeSession session => (session, .closed) ∈ server.disconnects
  | .getPlayerId session => (session, .erased) ∈ server.disconnects
  | .pushDisconnect session playerId => (session, .queueing playerId) ∈ server.disconnects
  | .onSessionDisconnected session => (session, .removed) ∈ server.disconnects
  | .getSession command =>
      server.Idle ∧ server.found = none ∧ command ∈ server.gameLogicQueue
  | .processGameCommand command sessionFound spawnPosition _ _ =>
      server.Idle ∧ server.found = some (command, sessionFound) ∧
        command ∈ server.gameLogicQueue ∧ server.manager.config.Spawns spawnPosition
  | .updateWorld deltaTime => server.Idle ∧ server.found = none ∧ 0 ≤ deltaTime
  | .sendWorldSnapshots _ => server.Idle ∧ server.found = none
  | .flushAllBatches => server.Idle ∧ server.found = none
  | .rehash players playerBatches =>
      server.Idle ∧ server.found = none ∧ server.manager.world.players.Reorders players ∧
        server.manager.playerBatches.Reorders playerBatches
  | .isConnected => server.granted = none ∧ server.outbox ≠ []
  | .send => server.granted.isSome = true
  | .handleRedisChatMessage chat => chat ∈ server.chatChannel

def effect (server : Server) : Label → Server
  | .accept =>
      { server with
        nextSessionId := server.nextSessionId + 1
        accepting := .started server.nextSessionId }
  | .acceptFails => { server with accepting := .ended }
  | .rejectConnection endpointKnown =>
      { server with accepting := if endpointKnown then .idle else .ended }
  | .setUpThrows constructed =>
      { server with
        nextSessionId := if constructed then server.nextSessionId + 1 else server.nextSessionId
        accepting := .ended }
  | .addSession session =>
      { server with
        activeSessions := server.activeSessions.insert session
        accepting := .added session }
  | .onSessionConnected session =>
      { server with
        connectedSessions := server.connectedSessions.insert session
        accepting := .idle }
  | .onSessionConnectedThrows session =>
      { server with
        connectedSessions := server.connectedSessions.insert session
        accepting := .ended }
  | .receive session packet => { server with jobQueue := server.jobQueue ++ [{ session, packet }] }
  | .popJob job =>
      { server with jobQueue := server.jobQueue.erase job, working := .job job :: server.working }
  | .processJob job endpointKnown =>
      match handleJob job (server.sessions job.session).playerId endpointKnown with
      | none => server
      | some handling =>
          takeUp { server with working := server.working.erase (.job job) } job.session handling
  | .pushGameCommand command =>
      { server with
        working := server.working.erase (.pushGameCommand command)
        gameLogicQueue := server.gameLogicQueue ++ [command] }
  | .publish session playerId message =>
      { server with
        working := server.working.erase (.publish session playerId message)
        chatChannel := server.chatChannel ++ [{ session, playerId, message }]
        published := server.published ++ [{ session, playerId, message }] }
  | .sendLoginFailure session =>
      { server with
        working := server.working.erase (.sendLoginFailure session)
        sent := server.sent ++ [(session, loginFailure (-1) "Invalid C_Login packet data." 0)] }
  | .verifySessionTicket session playerId commandId response =>
      { server with
        logins := .replied session commandId response ::
          server.logins.erase (.verifying session playerId commandId) }
  | .checkConnected session commandId response =>
      let logins := server.logins.erase (.replied session commandId response)
      if (server.sessions session).connected then
        { server with logins := .checked session commandId response :: logins }
      else { server with logins }
  | .setPlayerId session commandId response =>
      let logins := server.logins.erase (.checked session commandId response)
      if response.success then
        modifySession { server with
          logins := .answered session (loginSuccess response commandId) :: logins }
          session ({ · with playerId := response.playerId })
      else
        { server with
          logins := .answered session
            (loginFailure response.errorCode response.errorMessage commandId) :: logins }
  | .sendLoginAnswer session packet =>
      { server with
        logins := server.logins.erase (.answered session packet)
        sent := server.sent ++ [(session, packet)] }
  | .disconnect session =>
      modifySession { server with disconnects := (session, .closed) :: server.disconnects }
        session ({ · with connected := false })
  | .removeSession session =>
      let disconnects := server.disconnects.erase (session, .closed)
      if server.activeSessions.contains session then
        { server with
          activeSessions := server.activeSessions.filter (· ≠ session)
          disconnects := (session, .erased) :: disconnects }
      else { server with disconnects := (session, .removed) :: disconnects }
  | .getPlayerId session =>
      let disconnects := server.disconnects.erase (session, .erased)
      let playerId := (server.sessions session).playerId
      if playerId ≠ 0 then
        { server with disconnects := (session, .queueing playerId) :: disconnects }
      else { server with disconnects := (session, .removed) :: disconnects }
  | .pushDisconnect session playerId =>
      { server with
        disconnects := (session, .removed) ::
          server.disconnects.erase (session, .queueing playerId)
        gameLogicQueue := server.gameLogicQueue ++
          [{ payload := .playerDisconnect { playerId }, senderSessionId := session }] }
  | .onSessionDisconnected session =>
      { server with
        disconnects := server.disconnects.erase (session, .removed)
        connectedSessions := server.connectedSessions.filter (· ≠ session) }
  -- The lock of the session manager is released before the handler runs. A disconnect is
  -- handled whatever is found.
  | .getSession command =>
      { server with
        found := some (command, server.activeSessions.contains command.senderSessionId) }
  | .processGameCommand command sessionFound spawnPosition now later =>
      let (manager, outbox) :=
        server.manager.processGameCommand command sessionFound spawnPosition now later
      { server with
        gameLogicQueue := server.gameLogicQueue.erase command, found := none, manager, outbox }
  | .updateWorld deltaTime => { server with manager := server.manager.updateWorld deltaTime }
  | .sendWorldSnapshots serverTime =>
      { server with manager := (server.manager.sendWorldSnapshots serverTime).1 }
  | .flushAllBatches =>
      let (manager, outbox) := server.manager.flushAllBatches
      { server with manager, outbox }
  | .rehash players playerBatches =>
      { server with manager := { server.manager with world := ⟨players⟩, playerBatches } }
  | .isConnected =>
      match server.outbox with
      | [] => server
      | request :: outbox =>
          { server with outbox, granted := if server.reaches request then some request else none }
  | .send =>
      match server.granted with
      | none => server
      | some request =>
          { server with
            granted := none
            sent := server.sent ++ request.packets.map (request.session, ·) }
  | .handleRedisChatMessage chat =>
      { server with
        chatChannel := server.chatChannel.erase chat
        sent := server.sent ++ server.connectedSessions.map
          (·, .chat chat.playerId.toBitVec.toInt chat.message) }

instance (server : Server) : ∀ label, Decidable (server.Enabled label)
  | .accept => inferInstanceAs (Decidable (_ ∧ _))
  | .acceptFails => inferInstanceAs (Decidable (_ = _))
  | .rejectConnection _ => inferInstanceAs (Decidable (_ ∧ _))
  | .setUpThrows _ => inferInstanceAs (Decidable (_ ∧ _))
  | .addSession _ => inferInstanceAs (Decidable (_ = _))
  | .onSessionConnected _ => inferInstanceAs (Decidable (_ ∧ _))
  | .onSessionConnectedThrows _ => inferInstanceAs (Decidable (_ = _))
  | .receive _ _ => inferInstanceAs (Decidable (_ < _))
  | .popJob _ => inferInstanceAs (Decidable (_ ∈ _))
  | .processJob _ _ => inferInstanceAs (Decidable (_ ∧ _ ∧ _))
  | .pushGameCommand _ => inferInstanceAs (Decidable (_ ∈ _))
  | .publish _ _ _ => inferInstanceAs (Decidable (_ ∈ _))
  | .sendLoginFailure _ => inferInstanceAs (Decidable (_ ∈ _))
  | .verifySessionTicket _ _ _ _ => inferInstanceAs (Decidable (_ ∈ _))
  | .checkConnected _ _ _ => inferInstanceAs (Decidable (_ ∈ _))
  | .setPlayerId _ _ _ => inferInstanceAs (Decidable (_ ∈ _))
  | .sendLoginAnswer _ _ => inferInstanceAs (Decidable (_ ∈ _))
  | .disconnect _ => inferInstanceAs (Decidable (_ < _))
  | .removeSession _ => inferInstanceAs (Decidable (_ ∈ _))
  | .getPlayerId _ => inferInstanceAs (Decidable (_ ∈ _))
  | .pushDisconnect _ _ => inferInstanceAs (Decidable (_ ∈ _))
  | .onSessionDisconnected _ => inferInstanceAs (Decidable (_ ∈ _))
  | .getSession _ => inferInstanceAs (Decidable (_ ∧ _ ∧ _))
  | .processGameCommand _ _ _ _ _ => inferInstanceAs (Decidable (_ ∧ _ ∧ _ ∧ _))
  | .updateWorld _ => inferInstanceAs (Decidable (_ ∧ _ ∧ _))
  | .sendWorldSnapshots _ => inferInstanceAs (Decidable (_ ∧ _))
  | .flushAllBatches => inferInstanceAs (Decidable (_ ∧ _))
  | .rehash _ _ => inferInstanceAs (Decidable (_ ∧ _ ∧ _ ∧ _))
  | .isConnected => inferInstanceAs (Decidable (_ ∧ _))
  | .send => inferInstanceAs (Decidable (_ = true))
  | .handleRedisChatMessage _ => inferInstanceAs (Decidable (_ ∈ _))

def step (server : Server) (label : Label) : Option Server :=
  if server.Enabled label then some (server.effect label) else none

def create? (config : GameConfig) : Option Server :=
  (GameManager.create? config).map fun manager => { manager }

theorem step_eq_some_iff {server after : Server} {label : Label} :
    server.step label = some after ↔ server.Enabled label ∧ server.effect label = after := by
  unfold step
  split <;> simp [*]

/-- A step of `AcceptLoop`. -/
def Label.accepts : Label → Bool
  | .accept | .acceptFails | .rejectConnection _ | .setUpThrows _ | .addSession _
  | .onSessionConnected _ | .onSessionConnectedThrows _ => true
  | _ => false

theorem accepting_effect_of_other (server : Server) {label : Label} (other : label.accepts = false) :
    (server.effect label).accepting = server.accepting ∧
      (server.effect label).nextSessionId = server.nextSessionId := by
  cases label with
  | accept | acceptFails | rejectConnection | setUpThrows | addSession | onSessionConnected
  | onSessionConnectedThrows => cases other
  | processJob job endpointKnown =>
      simp only [effect]
      split
      · exact ⟨rfl, rfl⟩
      · next handling _ => cases handling <;> exact ⟨rfl, rfl⟩
  | checkConnected | setPlayerId | removeSession | getPlayerId | isConnected | send =>
      simp only [effect]
      split <;> exact ⟨rfl, rfl⟩
  | _ => exact ⟨rfl, rfl⟩

abbrev Runs (start : Server) (labels : List Label) (finish : Server) : Prop :=
  Run (Taken step) start labels finish

/-! ## Exchanges

The steps of common exchanges when nothing comes between them. -/

def connects (session : SessionId) : List Label :=
  [.accept, .addSession session, .onSessionConnected session]

/-- A packet is read, taken by a worker and handled. -/
def hands (session : SessionId) (packet : UnifiedPacket) : List Label :=
  [.receive session (some packet), .popJob { session, packet := some packet },
    .processJob { session, packet := some packet } true]

def loginPacket (playerId : PlayerId) : UnifiedPacket :=
  { id := .cLogin, data := some { asLogin := some { sessionTicket := some [], playerId } } }

def logsIn (session : SessionId) (playerId : PlayerId) : List Label :=
  let response : VerifyTicketResponse := { success := true, playerId }
  hands session (loginPacket playerId) ++
    [.verifySessionTicket session playerId 0 response, .checkConnected session 0 response,
      .setPlayerId session 0 response, .sendLoginAnswer session (loginSuccess response 0)]

def enterCommand (session : SessionId) (playerId : PlayerId) : GameCommand :=
  { payload := .enterZone { playerId, zoneId := 0, sessionId := session }, senderSessionId := session }

/-- The game thread processes a command at the clock reading `now`. -/
def processes (command : GameCommand) (sessionFound : Bool) (now : TimePoint := 0) : List Label :=
  [.getSession command, .processGameCommand command sessionFound ⟨20, 20, 0⟩ now now]

/-- A worker handles `C_EnterZone` and the game thread processes the command; `requests`
packets follow from it. -/
def enters (session : SessionId) (playerId : PlayerId) (requests : Nat) : List Label :=
  hands session { id := .cEnterZone, data := some {} } ++
    .pushGameCommand (enterCommand session playerId) ::
      processes (enterCommand session playerId) true ++
    (List.replicate requests [.isConnected, .send]).flatten

def disconnectCommand (session : SessionId) (playerId : PlayerId) : GameCommand :=
  { payload := .playerDisconnect { playerId }, senderSessionId := session }

def leaves (session : SessionId) (playerId : PlayerId) : List Label :=
  [.disconnect session, .removeSession session, .getPlayerId session,
    .pushDisconnect session playerId, .onSessionDisconnected session]

def run? (config : GameConfig) (labels : List Label) : Option Server :=
  (create? config).bind (execute step · labels)

theorem runs_of_run? {config : GameConfig} {labels : List Label} {finish : Server}
    (reached : run? config labels = some finish) :
    ∃ start, create? config = some start ∧ Runs start labels finish := by
  obtain ⟨start, created, executed⟩ := Option.bind_eq_some_iff.mp reached
  exact ⟨start, created, run_of_execute executed⟩

end Server

end CppMMO
