import CppMMO.Auth.ProvenanceProperties
import CppMMO.LoginProperties
import CppMMO.NoninterferenceProperties
import CppMMO.WorkerPoolProperties

/-! Under which player ids the game server acts for a session: only under those of characters that
their owner's ticket was shown for. -/

set_option autoImplicit false

namespace CppMMO

open CppMMO.Lib CppMMO.Auth CppMMO.Protocol CppMMO.Game CppMMO.Game.Services CppMMO.Utils

/-! ## Acting for a session -/

def Game.GameCommandPayload.playerId : GameCommandPayload → PlayerId
  | playerInput data => data.playerId
  | enterZone data => data.playerId
  | playerSpawn data => data.playerId
  | playerDisconnect data => data.playerId

def Login.grant? : Login → Option VerifyTicketResponse
  | replied _ _ response | checked _ _ response => if response.success then some response else none
  | _ => none

namespace Server

/-- The id is the session's own, is about to become so, or is in whatever was done in the session's
name: what the workers hold, a command, a disconnection under way, a chat message, an active player. -/
inductive Acts (server : Server) : SessionId → PlayerId → Prop where
  | session (session : SessionId) : server.Acts session (server.sessions session).playerId
  | login {login : Login} {response : VerifyTicketResponse} (pending : login ∈ server.logins)
      (granted : login.grant? = some response) : server.Acts login.session response.playerId
  | holds {command : GameCommand} (held : .pushGameCommand command ∈ server.working) :
      server.Acts command.senderSessionId command.payload.playerId
  | speaks {session : SessionId} {playerId : PlayerId} {message : Bytes}
      (held : .publish session playerId message ∈ server.working) : server.Acts session playerId
  | leaves {session : SessionId} {playerId : PlayerId}
      (leaving : (session, .queueing playerId) ∈ server.disconnects) : server.Acts session playerId
  | commands {command : GameCommand} (queued : command ∈ server.gameLogicQueue) :
      server.Acts command.senderSessionId command.payload.playerId
  | chats {chat : ChatMessage} (published : chat ∈ server.published) :
      server.Acts chat.session chat.playerId
  | plays {session : SessionId} {playerId : PlayerId}
      (owned : server.manager.Owns session playerId) : server.Acts session playerId

/-- The auth server's answer lets the session have the player. -/
def Label.Grants (session : SessionId) (playerId : PlayerId) : Label → Prop
  | .verifySessionTicket sender _ _ response =>
      sender = session ∧ response.success = true ∧ response.playerId = playerId
  | _ => False

section Effect

variable {before : Server} {label : Label} {session : SessionId} {playerId : PlayerId}

theorem acts_of_session (enabled : before.Enabled label) (session : SessionId) :
    before.Acts session ((before.effect label).sessions session).playerId := by
  cases label with
  | processJob job endpointKnown =>
      simp only [effect]
      split
      · exact .session session
      · next handling _ => cases handling <;> exact .session session
  | setPlayerId sender commandId response =>
      simp only [effect]
      split
      · next success =>
          by_cases same : session = sender
          · subst same
            have granted : (Login.checked session commandId response).grant? = some response := by
              simp [Login.grant?, success]
            simpa [modifySession] using Acts.login enabled granted
          · simpa [modifySession, same] using Acts.session session
      · exact .session session
  | disconnect closing =>
      by_cases same : session = closing
      · subst same
        simpa [effect, modifySession] using Acts.session session
      · simpa [effect, modifySession, same] using Acts.session session
  | checkConnected | removeSession | getPlayerId | isConnected | send =>
      simp only [effect]
      split <;> exact .session session
  | _ => exact .session session

theorem acts_of_login (enabled : before.Enabled label) {login : Login} {response : VerifyTicketResponse}
    (pending : login ∈ (before.effect label).logins) (granted : login.grant? = some response) :
    before.Acts login.session response.playerId ∨ label.Grants login.session response.playerId := by
  cases label with
  | processJob job endpointKnown =>
      simp only [effect] at pending
      split at pending
      · exact .inl (.login pending granted)
      · next handling _ =>
          cases handling with
          | verifySessionTicket =>
              rcases List.mem_cons.mp pending with rfl | earlier
              · cases granted
              · exact .inl (.login earlier granted)
          | _ => exact .inl (.login pending granted)
  | verifySessionTicket sender playerId commandId answer =>
      rcases List.mem_cons.mp pending with rfl | earlier
      · obtain ⟨success, same⟩ := Option.ite_none_right_eq_some.mp granted
        cases same
        exact .inr ⟨rfl, success, rfl⟩
      · exact .inl (.login (List.mem_of_mem_erase earlier) granted)
  | checkConnected sender commandId answer =>
      simp only [effect] at pending
      split at pending
      · rcases List.mem_cons.mp pending with rfl | earlier
        · have due : .replied sender commandId answer ∈ before.logins := enabled
          have acts := Acts.login due granted
          exact .inl acts
        · exact .inl (.login (List.mem_of_mem_erase earlier) granted)
      · exact .inl (.login (List.mem_of_mem_erase pending) granted)
  | setPlayerId sender commandId answer =>
      simp only [effect] at pending
      split at pending
      all_goals
        rcases List.mem_cons.mp pending with rfl | earlier
        · cases granted
        · exact .inl (.login (List.mem_of_mem_erase earlier) granted)
  | sendLoginAnswer => exact .inl (.login (List.mem_of_mem_erase pending) granted)
  | removeSession | getPlayerId | isConnected | send =>
      simp only [effect] at pending
      split at pending <;> exact .inl (.login pending granted)
  | _ => exact .inl (.login pending granted)

/-- What the workers hold after a step: what they held before, a job just taken, or what one of
them makes of its job. -/
theorem working_cases {work : Work} (held : work ∈ (before.effect label).working) :
    work ∈ before.working ∨ (∃ job, label = .popJob job ∧ work = .job job) ∨
      ∃ job endpointKnown handling, label = .processJob job endpointKnown ∧
        handleJob job (before.sessions job.session).playerId endpointKnown = some handling ∧
        handling.work? job.session = some work := by
  cases label with
  | popJob job =>
      rcases List.mem_cons.mp held with same | earlier
      · exact .inr (.inl ⟨job, rfl, same⟩)
      · exact .inl earlier
  | processJob job endpointKnown =>
      simp only [effect] at held
      split at held
      · exact .inl held
      · next handling handled =>
          rw [WorkerPool.takeUp_working] at held
          rcases List.mem_append.mp held with made | earlier
          · exact .inr (.inr ⟨job, endpointKnown, handling, rfl, handled, by simpa using made⟩)
          · exact .inl (List.mem_of_mem_erase earlier)
  | pushGameCommand | publish | sendLoginFailure => exact .inl (List.mem_of_mem_erase held)
  | checkConnected | setPlayerId | removeSession | getPlayerId | isConnected | send =>
      simp only [effect] at held
      split at held <;> exact .inl held
  | _ => exact .inl held

/-- A worker builds commands for the id that the session carries. -/
theorem acts_of_held {command : GameCommand}
    (held : .pushGameCommand command ∈ (before.effect label).working) :
    before.Acts command.senderSessionId command.payload.playerId := by
  rcases working_cases held with earlier | ⟨job, -, other⟩ |
    ⟨job, endpointKnown, handling, -, handled, made⟩
  · exact .holds earlier
  · cases other
  · cases handling with
    | pushGameCommand built =>
        cases made
        obtain ⟨sender, ⟨data, payload, own⟩ | ⟨-, data, payload, own, -⟩⟩ := handleJob_comesFrom handled
        all_goals
          rw [sender, payload, GameCommandPayload.playerId, own]
          exact .session job.session
    | _ => cases made

/-- Chat is published for the id that the session carries. -/
theorem acts_of_spoken {session : SessionId} {playerId : PlayerId} {message : Bytes}
    (held : .publish session playerId message ∈ (before.effect label).working) :
    before.Acts session playerId := by
  rcases working_cases held with earlier | ⟨job, -, other⟩ |
    ⟨job, endpointKnown, handling, -, handled, made⟩
  · exact .speaks earlier
  · cases other
  · cases handling with
    | publish sender text =>
        cases made
        obtain ⟨-, rfl, -⟩ := handleJob_comesFrom handled
        exact .session job.session
    | _ => cases made

theorem acts_of_leaving {session : SessionId} {playerId : PlayerId}
    (leaving : (session, .queueing playerId) ∈ (before.effect label).disconnects) :
    before.Acts session playerId := by
  cases label with
  | processJob job endpointKnown =>
      simp only [effect] at leaving
      split at leaving
      · exact .leaves leaving
      · next handling _ => cases handling <;> exact .leaves leaving
  | disconnect closing => exact .leaves (by simpa [effect, modifySession] using leaving)
  | removeSession removed =>
      simp only [effect] at leaving
      split at leaving <;> exact .leaves (by simpa using leaving)
  | getPlayerId removed =>
      simp only [effect] at leaving
      split at leaving
      · rcases List.mem_cons.mp leaving with same | earlier
        · cases same
          exact .session session
        · exact .leaves (List.mem_of_mem_erase earlier)
      · exact .leaves (by simpa using leaving)
  | pushDisconnect removed id =>
      exact .leaves (List.mem_of_mem_erase (by simpa [effect] using leaving))
  | onSessionDisconnected removed => exact .leaves (List.mem_of_mem_erase leaving)
  | checkConnected | setPlayerId | isConnected | send =>
      simp only [effect] at leaving
      split at leaving <;> exact .leaves leaving
  | _ => exact .leaves leaving

theorem acts_of_queued (enabled : before.Enabled label) {command : GameCommand}
    (queued : command ∈ (before.effect label).gameLogicQueue) :
    before.Acts command.senderSessionId command.payload.playerId := by
  cases label with
  | processJob job endpointKnown =>
      simp only [effect] at queued
      split at queued
      · exact .commands queued
      · next handling _ => cases handling <;> exact .commands queued
  | pushGameCommand pushed =>
      rcases List.mem_append.mp queued with earlier | new
      · exact .commands earlier
      · cases List.mem_singleton.mp new
        exact .holds enabled
  | pushDisconnect removed playerId =>
      rcases List.mem_append.mp queued with earlier | new
      · exact .commands earlier
      · cases List.mem_singleton.mp new
        exact .leaves enabled
  | processGameCommand => exact .commands (List.mem_of_mem_erase queued)
  | checkConnected | setPlayerId | removeSession | getPlayerId | isConnected | send =>
      simp only [effect] at queued
      split at queued <;> exact .commands queued
  | _ => exact .commands queued

theorem acts_of_published (enabled : before.Enabled label) {chat : ChatMessage}
    (published : chat ∈ (before.effect label).published) :
    before.Acts chat.session chat.playerId := by
  cases label with
  | processJob job endpointKnown =>
      simp only [effect] at published
      split at published
      · exact .chats published
      · next handling _ => cases handling <;> exact .chats published
  | publish session playerId message =>
      rcases List.mem_append.mp published with earlier | new
      · exact .chats earlier
      · cases List.mem_singleton.mp new
        exact .speaks enabled
  | checkConnected | setPlayerId | removeSession | getPlayerId | isConnected | send =>
      simp only [effect] at published
      split at published <;> exact .chats published
  | _ => exact .chats published

/-- A player is let in for the session that asked, under the id of the command. -/
theorem acts_of_owned (built : before.CommandsBuilt) (enabled : before.Enabled label)
    {session : SessionId} {playerId : PlayerId}
    (owned : (before.effect label).manager.Owns session playerId) : before.Acts session playerId := by
  obtain ⟨player, found, active, rfl⟩ := owned
  cases label with
  | processGameCommand command sessionFound spawnPosition now later =>
      obtain ⟨-, -, queued, -⟩ := enabled
      obtain kept | ⟨data, entered⟩ := Managers.GameManager.kept_or_entered found active
      · exact .plays kept
      · have sender := built.queued command queued data (by rw [entered.payload]; rfl)
        have acts : before.Acts command.senderSessionId command.payload.playerId :=
          .commands queued
        rw [entered.payload, GameCommandPayload.playerId, entered.id_eq] at acts
        rwa [entered.session_eq, sender]
  | updateWorld deltaTime => exact .plays (Managers.GameManager.kept_updateWorld found active)
  | sendWorldSnapshots serverTime =>
      have scene := before.manager.sendWorldSnapshots_sameScene serverTime
      exact .plays ⟨player, scene.world_eq ▸ found, active, rfl⟩
  | rehash players playerBatches =>
      exact .plays ⟨player, (enabled.2.2.1.find?_eq playerId).symm.trans found, active, rfl⟩
  | flushAllBatches => exact .plays ⟨player, found, active, rfl⟩
  | _ =>
      have managed := manager_effect enabled
      exact .plays ⟨player, managed ▸ found, active, rfl⟩

/-- The server begins to act for a session under an id only with the auth server's answer. -/
theorem acts_effect (built : before.CommandsBuilt) (enabled : before.Enabled label)
    (acts : (before.effect label).Acts session playerId) :
    before.Acts session playerId ∨ label.Grants session playerId := by
  cases acts with
  | session => exact .inl (acts_of_session enabled session)
  | login pending granted => exact acts_of_login enabled pending granted
  | holds held => exact .inl (acts_of_held held)
  | speaks held => exact .inl (acts_of_spoken held)
  | leaves leaving => exact .inl (acts_of_leaving leaving)
  | commands queued => exact .inl (acts_of_queued enabled queued)
  | chats published => exact .inl (acts_of_published enabled published)
  | plays owned => exact .inl (acts_of_owned built enabled owned)

theorem not_acts_of_create? {config : Managers.GameConfig} {server : Server}
    (created : create? config = some server) (named : playerId ≠ 0) :
    ¬ server.Acts session playerId := by
  obtain ⟨manager, createdManager, rfl⟩ := Option.map_eq_some_iff.mp created
  obtain ⟨quadTree, -, rfl⟩ := Option.map_eq_some_iff.mp createdManager
  intro acts
  cases acts with
  | session => exact named rfl
  | plays owned =>
      obtain ⟨player, found, -⟩ := owned
      simp at found
  | login member | holds member | speaks member | leaves member | commands member
  | chats member => cases member

/-- A job that waits or that a worker holds. -/
def HasJob (server : Server) (job : Job) : Prop :=
  job ∈ server.jobQueue ∨ .job job ∈ server.working

theorem hasJob_of_held {job : Job} (enabled : before.Enabled label)
    (held : .job job ∈ (before.effect label).working) : before.HasJob job := by
  rcases working_cases held with earlier | ⟨taken, rfl, same⟩ |
    ⟨handled, endpointKnown, handling, -, -, made⟩
  · exact .inr earlier
  · cases same
    exact .inl enabled
  · cases handling <;> cases made

theorem hasJob_of_queued {job : Job} (queued : job ∈ (before.effect label).jobQueue) :
    job ∈ before.jobQueue ∨ label = .receive job.session job.packet := by
  cases label with
  | receive sender packet =>
      rcases List.mem_append.mp queued with earlier | new
      · exact .inl earlier
      · rw [List.mem_singleton.mp new]
        exact .inr rfl
  | popJob => exact .inl (List.mem_of_mem_erase queued)
  | processJob handled endpointKnown =>
      simp only [effect] at queued
      split at queued
      · exact .inl queued
      · rw [WorkerPool.takeUp_jobQueue] at queued
        exact .inl queued
  | checkConnected | setPlayerId | removeSession | getPlayerId | isConnected | send =>
      simp only [effect] at queued
      split at queued <;> exact .inl queued
  | _ => exact .inl queued

/-- Jobs come in with the packets that are received. -/
theorem hasJob_effect (enabled : before.Enabled label) {job : Job}
    (has : (before.effect label).HasJob job) :
    before.HasJob job ∨ label = .receive job.session job.packet := by
  rcases has with queued | held
  · exact (hasJob_of_queued queued).imp .inl id
  · exact .inl (hasJob_of_held enabled held)

end Effect

end Server

namespace Deployment

open HttpRequestSession

/-! ## From a login packet to the stores and back -/

section Exchanges

variable {platform : Platform} {codec : Codec} {start before after : Deployment} {labels : List Label}
  {label : Label}

/-- The session has sent a `C_Login` for the player with this ticket. -/
def Presented (labels : List Label) (session : SessionId) (sessionTicket : Bytes)
    (playerId : PlayerId) : Prop :=
  ∃ packet commandId, .game (.receive session (some packet)) ∈ labels ∧ packet.id = .cLogin ∧
    packet.data.bind (·.asLogin) = some { sessionTicket := some sessionTicket, playerId, commandId }

/-- The login of the exchange was received, and its request has found the stores as they were at
moments after that. -/
def Posted (platform : Platform) (codec : Codec) (start : Deployment) (labels : List Label)
    (deployment : Deployment) (exchange : Exchange) : Prop :=
  ∃ asked request thread, Presented asked exchange.session exchange.sessionTicket exchange.playerId ∧
    run codec exchange.sessionTicket exchange.playerId = some request ∧
    deployment.auth.threads[exchange.request]? = some thread ∧
    thread.request = receive codec request ∧
    Observed (Taken (step platform codec)) (·.auth.state) start asked labels
      (thread.past.map (·.before))

/-- Jobs come from packets, exchanges from jobs, and commands are as the workers build them. -/
structure Tracked (platform : Platform) (codec : Codec) (start : Deployment) (labels : List Label)
    (deployment : Deployment) : Prop where
  built : deployment.server.CommandsBuilt
  received : ∀ job, deployment.server.HasJob job → .game (.receive job.session job.packet) ∈ labels
  posted : ∀ exchange ∈ deployment.exchanges, Posted platform codec start labels deployment exchange

theorem login_of_handled {job : Job} {current playerId : PlayerId} {endpointKnown : Bool}
    {sessionTicket : Bytes} {commandId : Int}
    (handled : handleJob job current endpointKnown =
      some (.verifySessionTicket sessionTicket playerId commandId)) :
    ∃ packet, job.packet = some packet ∧ packet.id = .cLogin ∧
      packet.data.bind (·.asLogin) =
        some { sessionTicket := some sessionTicket, playerId, commandId } := by
  unfold handleJob at handled
  split at handled
  · cases handled
  · next packet held =>
      refine ⟨packet, held, ?_⟩
      unfold processJobPacket at handled
      split at handled
      · next kind =>
          refine ⟨kind, ?_⟩
          unfold loginPacketHandler at handled
          split at handled
          · split at handled <;> cases handled
          · next login carried =>
              obtain ⟨ticket, isTicket, same⟩ := Option.map_eq_some_iff.mp handled
              split at same
              · cases same
                rw [carried, ← isTicket]
              · cases same
      · simp only [chatPacketHandler, Option.some.injEq] at handled
        split at handled
        · cases handled
        · split at handled <;> cases handled
      · cases handled
      · cases handled
      · cases handled
      · split at handled <;> cases handled
      · split at handled <;> cases handled
      · cases handled

theorem post_server {deployment : Deployment} {login : Option (SessionId × Bytes × PlayerId × Int)} :
    (post platform codec deployment login).server = deployment.server := by
  unfold post
  split
  · rfl
  · split <;> rfl

/-- The step of the game server, if it is one, and where an answer to a login comes from. -/
theorem server_cases (taken : step platform codec before label = some after) :
    after.server = before.server ∨
    (∃ gameLabel, label = .game gameLabel ∧ before.server.step gameLabel = some after.server ∧
      ∀ session playerId, ¬ gameLabel.Grants session playerId) ∨
    ∃ exchange reply, exchange ∈ before.exchanges ∧
      before.server.step (.verifySessionTicket exchange.session exchange.playerId exchange.commandId
        reply) = some after.server ∧
      (reply = onRead codec {} ∨ (∃ failure message, reply = Failure.response failure message) ∨
        label = .respond exchange ∧ ∃ response, before.response? exchange = some response ∧
          reply = onRead codec (send codec response)) := by
  cases label with
  | game gameLabel =>
      obtain ⟨server, serverTaken, rfl⟩ := game_cases taken
      refine .inr (.inl ⟨gameLabel, rfl, by rw [post_server]; exact serverTaken, ?_⟩)
      cases gameLabel with
      | verifySessionTicket => cases taken
      | _ => exact fun _ _ => id
  | auth label =>
      obtain ⟨auth, -, rfl⟩ := Option.map_eq_some_iff.mp taken
      exact .inl rfl
  | respond exchange =>
      obtain ⟨response, responded, answered⟩ := Option.bind_eq_some_iff.mp taken
      obtain ⟨pending, server, serverTaken, rfl⟩ := answer_cases answered
      exact .inr (.inr ⟨exchange, _, pending, serverTaken, .inr (.inr ⟨rfl, response, responded, rfl⟩)⟩)
  | endOfStream exchange =>
      obtain ⟨pending, server, serverTaken, rfl⟩ := answer_cases taken
      exact .inr (.inr ⟨exchange, _, pending, serverTaken, .inl rfl⟩)
  | fail exchange failure message =>
      obtain ⟨pending, server, serverTaken, rfl⟩ := answer_cases taken
      exact .inr (.inr ⟨exchange, _, pending, serverTaken, .inr (.inl ⟨failure, message, rfl⟩)⟩)

theorem login?_eq_some {server : Server} {gameLabel : Server.Label} {session : SessionId}
    {sessionTicket : Bytes} {playerId : PlayerId} {commandId : Int}
    (asked : login? server gameLabel = some (session, sessionTicket, playerId, commandId)) :
    ∃ job endpointKnown, gameLabel = .processJob job endpointKnown ∧ job.session = session ∧
      handleJob job (server.sessions job.session).playerId endpointKnown =
        some (.verifySessionTicket sessionTicket playerId commandId) := by
  unfold login? at asked
  split at asked
  · next job endpointKnown =>
      split at asked
      · next handled =>
          cases asked
          exact ⟨job, endpointKnown, rfl, rfl, handled⟩
      · cases asked
  · cases asked

/-- An exchange was there before, or its login has just been posted. -/
theorem exchange_cases {exchange : Exchange} (taken : step platform codec before label = some after)
    (member : exchange ∈ after.exchanges) :
    exchange ∈ before.exchanges ∨
    ∃ job packet endpointKnown request, label = .game (.processJob job endpointKnown) ∧
      job.session = exchange.session ∧ job.packet = some packet ∧ packet.id = .cLogin ∧
      packet.data.bind (·.asLogin) = some
        { sessionTicket := some exchange.sessionTicket, playerId := exchange.playerId
          commandId := exchange.commandId } ∧
      run codec exchange.sessionTicket exchange.playerId = some request ∧
      exchange.request = before.auth.threads.length ∧
      after.auth = (service platform).start before.auth (receive codec request) := by
  cases label with
  | game gameLabel =>
      obtain ⟨server, serverTaken, rfl⟩ := game_cases taken
      cases asked : login? before.server gameLabel with
      | none =>
          rw [asked] at member
          exact .inl member
      | some login =>
          obtain ⟨session, sessionTicket, playerId, commandId⟩ := login
          obtain ⟨job, endpointKnown, rfl, sender, handled⟩ := login?_eq_some asked
          obtain ⟨packet, carries, kind, carried⟩ := login_of_handled handled
          simp only [asked, post] at member ⊢
          cases isPosted : run codec sessionTicket playerId with
          | none =>
              rw [isPosted] at member
              exact .inl member
          | some request =>
              rw [isPosted] at member
              rcases List.mem_cons.mp member with rfl | earlier
              · exact .inr ⟨job, packet, endpointKnown, request, rfl, sender, carries, kind, carried,
                  isPosted, rfl, rfl⟩
              · exact .inl earlier
  | auth label =>
      obtain ⟨auth, -, rfl⟩ := Option.map_eq_some_iff.mp taken
      exact .inl member
  | respond exchange =>
      obtain ⟨response, -, answered⟩ := Option.bind_eq_some_iff.mp taken
      obtain ⟨-, server, -, rfl⟩ := answer_cases answered
      exact .inl (List.mem_of_mem_erase member)
  | endOfStream exchange | fail exchange =>
      obtain ⟨-, server, -, rfl⟩ := answer_cases taken
      exact .inl (List.mem_of_mem_erase member)

theorem Posted.step {exchange : Exchange} (posted : Posted platform codec start labels before exchange)
    (ran : Runs platform codec start labels before)
    (taken : step platform codec before label = some after) :
    Posted platform codec start (labels ++ [label]) after exchange := by
  obtain ⟨asked, request, thread, presented, isPosted, there, asks, observed⟩ := posted
  rcases auth_cases taken with same | ⟨authLabel, authTaken⟩
  · exact ⟨asked, request, thread, presented, isPosted, by rw [same]; exact there, asks,
      observed.append [label]⟩
  · obtain ⟨later, isThere, asksLater, rfl | ⟨made, next, occurrence, -, atCall, past_eq⟩⟩ :=
      Service.later_of_step authTaken there
    · exact ⟨asked, request, later, presented, isPosted, isThere, asks, observed.append [label]⟩
    · refine ⟨asked, request, later, presented, isPosted, isThere, asksLater.trans asks, ?_⟩
      rw [past_eq, List.map_append, List.map_singleton, atCall]
      exact .snoc [label] observed ran

theorem Tracked.step (tracked : Tracked platform codec start labels before)
    (ran : Runs platform codec start labels before)
    (taken : step platform codec before label = some after) :
    Tracked platform codec start (labels ++ [label]) after where
  built := by
    rcases server_cases taken with same | ⟨gameLabel, -, serverTaken, -⟩ | ⟨exchange, reply, -, serverTaken, -⟩
    · rw [same]
      exact tracked.built
    · obtain ⟨enabled, after_eq⟩ := Server.step_eq_some_iff.mp serverTaken
      exact after_eq ▸ tracked.built.step enabled
    · obtain ⟨enabled, after_eq⟩ := Server.step_eq_some_iff.mp serverTaken
      exact after_eq ▸ tracked.built.step enabled
  received job has := by
    rcases server_cases taken with same | ⟨gameLabel, rfl, serverTaken, -⟩ | ⟨exchange, reply, -, serverTaken, -⟩
    · rw [same] at has
      exact List.mem_append_left _ (tracked.received job has)
    · obtain ⟨enabled, after_eq⟩ := Server.step_eq_some_iff.mp serverTaken
      rw [← after_eq] at has
      rcases Server.hasJob_effect enabled has with earlier | rfl
      · exact List.mem_append_left _ (tracked.received job earlier)
      · exact List.mem_append_right _ List.mem_cons_self
    · obtain ⟨enabled, after_eq⟩ := Server.step_eq_some_iff.mp serverTaken
      rw [← after_eq] at has
      exact List.mem_append_left _ (tracked.received job has)
  posted exchange member := by
    rcases exchange_cases taken member with earlier |
      ⟨job, packet, endpointKnown, request, rfl, sender, carries, kind, carried, isPosted, place, started⟩
    · exact (tracked.posted exchange earlier).step ran taken
    · obtain ⟨server, serverTaken, -⟩ := game_cases taken
      have isWorking := (Server.step_eq_some_iff.mp serverTaken).1.1
      have received := tracked.received job (.inr isWorking)
      rw [sender, carries] at received
      refine ⟨labels, request, { request := receive codec request, rest := serve platform (receive codec request) },
        ⟨packet, exchange.commandId, received, kind, carried⟩, isPosted, ?_, rfl, .nil _⟩
      rw [started, place]
      simp [Service.start, service]

end Exchanges

/-! ## Owners -/

section Owners

variable {platform : Platform} {codec : Codec} {start before after finish : Deployment}
  {labels : List Label} {config : Managers.GameConfig} {session : SessionId} {playerId : PlayerId}

theorem tracked_of_run (created : create? config = some start)
    (ran : Runs platform codec start labels finish) : Tracked platform codec start labels finish := by
  have initially : Tracked platform codec start [] start := by
    obtain ⟨server, createdServer, rfl⟩ := Option.map_eq_some_iff.mp created
    obtain ⟨manager, -, rfl⟩ := Option.map_eq_some_iff.mp createdServer
    refine ⟨⟨by simp, by simp⟩, ?_, by simp⟩
    rintro job (queued | held)
    · cases queued
    · cases held
  have reached := ran.preserves_history
    (fun past deployment => Runs platform codec start past deployment ∧
      Tracked platform codec start past deployment) ?_ ⟨.nil, initially⟩
  · exact reached.2
  · intro past earlier label later ⟨run, tracked⟩ taken
    exact ⟨run.snoc taken, tracked.step run taken⟩

theorem provenance_of_run (created : create? config = some start)
    (ran : Runs platform codec start labels finish) : Provenance platform finish.auth := by
  have reached : Registered platform finish.auth ∧ Provenance platform finish.auth := by
    obtain ⟨server, -, rfl⟩ := Option.map_eq_some_iff.mp created
    refine ran.preserves (fun deployment => Registered platform deployment.auth ∧
      Provenance platform deployment.auth) ?_ ⟨registered_initially, provenance_initially⟩
    intro earlier label later ⟨registered, provenance⟩ taken
    rcases auth_cases taken with same | ⟨authLabel, authTaken⟩
    · rw [same]
      exact ⟨registered, provenance⟩
    · exact ⟨registered.step authTaken, provenance.step registered authTaken⟩
  exact reached.2

/-- A response stays until it is read. -/
theorem response?_of_run {exchange : Exchange} {response : Response}
    (ran : Runs platform codec before labels finish)
    (responded : before.response? exchange = some response) :
    finish.response? exchange = some response := by
  refine ran.preserves (fun deployment => deployment.response? exchange = some response) ?_ responded
  intro earlier label later respondedEarlier taken
  obtain ⟨thread, there, isDone⟩ := response?_eq_some_iff.mp respondedEarlier
  rcases auth_cases taken with same | ⟨authLabel, authTaken⟩
  · exact response?_eq_some_iff.mpr ⟨thread, by rw [same]; exact there, isDone⟩
  · obtain ⟨next, isThere, -, rfl | ⟨made, andThen, occurrence, waits, -⟩⟩ :=
      Service.later_of_step authTaken there
    · exact response?_eq_some_iff.mpr ⟨next, isThere, isDone⟩
    · rw [isDone] at waits
      cases waits

/-- The session has asked for the player with a ticket that was given to somebody who knew the
password of its user. At one moment after that Redis held the ticket for the user, and at a later
one the player was the user's. -/
inductive Confirmed (platform : Platform) (codec : Codec) (start : Deployment) (session : SessionId)
    (playerId : PlayerId) : List Label → Prop where
  | intro {asked between later : List Label} (more : List Label) {sessionTicket : Bytes} {text : String}
      {userId : Int32} {atRedis atMySql : Deployment}
      (presented : Presented asked session sessionTicket playerId)
      (decoded : decodeUtf8 sessionTicket = some text)
      (ranToRedis : Runs platform codec start (asked ++ between) atRedis)
      (held : atRedis.auth.state.redis (sessionKey text) = some (toString userId.toInt))
      (shown : ∃ issuer ∈ atRedis.auth.threads, Adds Database.issued issuer (text, userId) ∧
        ShowsPassword platform issuer userId)
      (ranToMySql : Runs platform codec start (asked ++ between ++ later) atMySql)
      (owned : atMySql.auth.state.Owns playerId userId) :
      Confirmed platform codec start session playerId (asked ++ between ++ later ++ more)

theorem Confirmed.append (confirmed : Confirmed platform codec start session playerId labels)
    (more : List Label) : Confirmed platform codec start session playerId (labels ++ more) := by
  cases confirmed with
  | intro last presented decoded ranToRedis held shown ranToMySql owned =>
      rw [List.append_assoc _ last]
      exact .intro (last ++ more) presented decoded ranToRedis held shown ranToMySql owned

theorem confirmed_of_agreed {asked : List Label} {sessionTicket : Bytes} {found : List Database}
    (created : create? config = some start) (presented : Presented asked session sessionTicket playerId)
    (observed : Observed (Taken (step platform codec)) (·.auth.state) start asked labels found)
    (agreed : Agreed sessionTicket playerId found) :
    Confirmed platform codec start session playerId labels := by
  obtain ⟨redis, mySql, rfl⟩ := agreed.read
  obtain ⟨userId, ⟨text, decoded, held⟩, owned⟩ := agreed
  rw [show [redis, mySql] = ([] ++ [redis]) ++ [mySql] from rfl] at observed
  obtain ⟨toMySql, more, atMySql, rfl, earlier, ranToMySql, rfl⟩ := observed.exists_moment
  obtain ⟨toRedis, later, atRedis, rfl, first, ranToRedis, rfl⟩ := earlier.exists_moment
  obtain ⟨between, rfl⟩ := first.exists_later
  have sound := sound_of_run created ranToRedis
  have issued := sound.wellFormed.issued_of_held held
  exact .intro more presented decoded ranToRedis held
    ((provenance_of_run created ranToRedis).tickets _ issued) ranToMySql owned

/-- An answer that lets a session have a player comes from the auth server. -/
theorem confirmed_of_success {exchange : Exchange} {reply : VerifyTicketResponse} {label : Label}
    (created : create? config = some start) (ran : Runs platform codec start labels before)
    (rejects : ∀ json, codec.parse [] ≠ .ok json)
    (carries : ∀ response, label = .respond exchange → before.response? exchange = some response →
      Carries codec exchange.sessionTicket exchange.playerId response)
    (pending : exchange ∈ before.exchanges) (success : reply.success = true)
    (origin : reply = onRead codec {} ∨ (∃ failure message, reply = Failure.response failure message) ∨
      label = .respond exchange ∧ ∃ response, before.response? exchange = some response ∧
        reply = onRead codec (send codec response)) :
    Confirmed platform codec start exchange.session reply.playerId labels := by
  rcases origin with rfl | ⟨failure, message, rfl⟩ | ⟨isRespond, response, responded, rfl⟩
  · obtain ⟨-, fields, parsed, -⟩ := success_onRead_iff.mp success
    exact absurd parsed (rejects _)
  · cases success
  · obtain ⟨asked, request, thread, presented, isPosted, there, asks, observed⟩ :=
      (tracked_of_run created ran).posted exchange pending
    obtain ⟨again, isThere, isDone⟩ := response?_eq_some_iff.mp responded
    cases there.symm.trans isThere
    have isAnswer : response ≠ .problem 500 := by
      rintro rfl
      rw [onRead_of_statusCode_ne (by simp [send])] at success
      cases success
    have sound := sound_of_run created ran
    have follows := sound.followed _ thread there
    rw [isDone] at follows
    have verdict := verdict_of_follows isPosted (asks ▸ follows) (sound.found _ (Nat.zero_le _) thread there)
      isAnswer (carries response isRespond responded)
    have agreed : Agreed exchange.sessionTicket exchange.playerId (thread.past.map (·.before)) := by
      by_contra disagreed
      rw [verdict.rejects disagreed] at success
      cases success
    rw [(verdict.accepts agreed).2]
    exact confirmed_of_agreed created presented observed agreed

/-- Whatever the two servers do at the same time, the game server acts under a player's id only for
sessions that the player was confirmed to. -/
theorem acts_as_owner (created : create? config = some start)
    (ran : Runs platform codec start labels finish) (rejects : ∀ json, codec.parse [] ≠ .ok json)
    (carries : ∀ exchange response, .respond exchange ∈ labels →
      finish.response? exchange = some response →
      Carries codec exchange.sessionTicket exchange.playerId response)
    (acts : finish.server.Acts session playerId) (named : playerId ≠ 0) :
    Confirmed platform codec start session playerId labels := by
  have absent : ¬ start.server.Acts session playerId := by
    obtain ⟨server, createdServer, rfl⟩ := Option.map_eq_some_iff.mp created
    exact Server.not_acts_of_create? createdServer named
  obtain ⟨front, label, back, before, after, rfl, first, taken, rest, wasNot, becomes⟩ :=
    ran.exists_change (fun deployment => deployment.server.Acts session playerId) absent acts
  have tracked := tracked_of_run created first
  rcases server_cases taken with same | ⟨gameLabel, -, serverTaken, noGrant⟩ |
    ⟨exchange, reply, pending, serverTaken, origin⟩
  · rw [same] at becomes
    exact absurd becomes wasNot
  · obtain ⟨enabled, after_eq⟩ := Server.step_eq_some_iff.mp serverTaken
    rw [← after_eq] at becomes
    rcases Server.acts_effect tracked.built enabled becomes with already | grants
    · exact absurd already wasNot
    · exact absurd grants (noGrant session playerId)
  · obtain ⟨enabled, after_eq⟩ := Server.step_eq_some_iff.mp serverTaken
    rw [← after_eq] at becomes
    rcases Server.acts_effect tracked.built enabled becomes with already | ⟨rfl, success, rfl⟩
    · exact absurd already wasNot
    · refine (confirmed_of_success created first rejects ?_ pending success origin).append _
      intro response isRespond responded
      refine carries exchange response ?_ (response?_of_run (.cons taken rest) responded)
      rw [isRespond]
      exact List.mem_append_right _ List.mem_cons_self

end Owners

/-- A user registers, creates the character `alice`, logs in with it and enters the zone. -/
def samplePlay : List Label :=
  let reply : VerifyTicketResponse := { success := true, playerId := 1, username := "alice" }
  sampleSetUp ++ .game (.processJob { session := 0, packet := samplePacket } true) :: sampleVerify ++
    [.respond sampleExchange, .game (.checkConnected 0 3 reply), .game (.setPlayerId 0 3 reply)] ++
    (Server.enters 0 1 1).map .game

theorem acts_as_owner_alice :
    ∃ start finish, create? {} = some start ∧
      Runs samplePlatform sampleCodec start samplePlay finish ∧ finish.server.manager.Owns 0 1 ∧
      Confirmed samplePlatform sampleCodec start 0 1 samplePlay := by
  obtain ⟨start, finish, created, ran, owned, responded⟩ :=
    exists_run_of_execute (step samplePlatform sampleCodec) (create? {}) samplePlay
      (fun deployment => deployment.server.manager.Owns 0 1 ∧
        deployment.response? sampleExchange = some (.result sampleResult)) (by decide +kernel)
  have rejects : ∀ json, sampleCodec.parse [] ≠ .ok json := by
    have other : ([] : Bytes) ≠ sampleResponseText := by decide +kernel
    intro json
    simp [sampleCodec, other]
  have carries : ∀ exchange response, .respond exchange ∈ samplePlay →
      finish.response? exchange = some response →
      Carries sampleCodec exchange.sessionTicket exchange.playerId response := by
    intro exchange response member isResponse
    have same : exchange = sampleExchange := by
      simpa [samplePlay, sampleSetUp, sampleVerify] using member
    subst same
    cases responded.symm.trans isResponse
    exact carries_sample
  exact ⟨start, finish, created, ran, owned,
    acts_as_owner created ran rejects carries (.plays owned) (by decide)⟩

end Deployment

end CppMMO
