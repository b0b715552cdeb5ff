import CppMMO.OwnershipProperties

/-! What a session that never authenticated can do to the others. -/

set_option autoImplicit false

namespace CppMMO

open CppMMO.Lib CppMMO.Protocol CppMMO.Game CppMMO.Game.Models CppMMO.Game.Managers CppMMO.Utils

/-! ## The traffic of one session -/

def Work.session : Work → SessionId
  | job held => held.session
  | pushGameCommand command => command.senderSessionId
  | publish session _ _ => session
  | sendLoginFailure session => session

def Login.session : Login → SessionId
  | verifying session _ _ => session
  | replied session _ _ => session
  | checked session _ _ => session
  | answered session _ => session

def Login.accepted : Login → Bool
  | replied _ _ response => response.success
  | checked _ _ response => response.success
  | _ => false

/-- What a worker holds goes to the others without the game thread looking the sender up. -/
def Work.speaks : Work → Bool
  | publish _ _ _ => true
  | pushGameCommand command => command.payload.isDisconnect
  | _ => false

def Disconnecting.playerId? : Disconnecting → Option PlayerId
  | queueing playerId => some playerId
  | _ => none

section

variable (session : SessionId) (playerId : PlayerId) (commandId : Int) (response : VerifyTicketResponse)

@[simp] theorem Work.session_job (job : Job) : (Work.job job).session = job.session := rfl

@[simp] theorem Work.session_pushGameCommand (command : GameCommand) :
    (Work.pushGameCommand command).session = command.senderSessionId := rfl

@[simp] theorem Work.session_publish (message : Bytes) :
    (Work.publish session playerId message).session = session := rfl

@[simp] theorem Work.session_sendLoginFailure :
    (Work.sendLoginFailure session).session = session := rfl

@[simp] theorem Login.session_verifying :
    (Login.verifying session playerId commandId).session = session := rfl

@[simp] theorem Login.session_replied :
    (Login.replied session commandId response).session = session := rfl

@[simp] theorem Login.session_checked :
    (Login.checked session commandId response).session = session := rfl

@[simp] theorem Login.session_answered (packet : ServerPacket) :
    (Login.answered session packet).session = session := rfl

end

namespace Server

def Label.carries (session : SessionId) : Label → Bool
  | .receive sender _ => sender = session
  | .popJob job => job.session = session
  | .processJob job _ => job.session = session
  | .pushGameCommand command => command.senderSessionId = session
  | .publish sender _ _ => sender = session
  | .sendLoginFailure sender => sender = session
  | .verifySessionTicket sender _ _ _ => sender = session
  | .checkConnected sender _ _ => sender = session
  | .setPlayerId sender _ _ => sender = session
  | .sendLoginAnswer sender _ => sender = session
  | .getSession command => command.senderSessionId = session
  | .processGameCommand command _ _ _ _ => command.senderSessionId = session
  | .handleRedisChatMessage chat => chat.session = session
  | _ => false

def Label.authenticates (session : SessionId) : Label → Bool
  | .verifySessionTicket sender _ _ response => sender = session && response.success
  | _ => false

/-- The server without what one session has under way, and without what was sent to it. -/
def without (server : Server) (session : SessionId) : Server :=
  { server with
    jobQueue := server.jobQueue.filter (·.session ≠ session)
    working := server.working.filter (·.session ≠ session)
    logins := server.logins.filter (·.session ≠ session)
    gameLogicQueue := server.gameLogicQueue.filter (·.senderSessionId ≠ session)
    found := server.found.filter (·.1.senderSessionId ≠ session)
    sent := server.sent.filter (·.1 ≠ session) }

/-- The game thread has no command of the session in hand. -/
def FoundOthers (session : SessionId) (server : Server) : Prop :=
  ∀ entry ∈ server.found, entry.1.senderSessionId ≠ session

theorem FoundOthers.filter_eq {session : SessionId} {server : Server}
    (others : FoundOthers session server) :
    server.found.filter (·.1.senderSessionId ≠ session) = server.found := by
  cases found : server.found with
  | none => rfl
  | some entry => simp [others entry found]

theorem enabled_without {server : Server} {session : SessionId} {label : Label}
    (other : label.carries session = false) (enabled : server.Enabled label) :
    (server.without session).Enabled label := by
  cases label <;> simp_all [Enabled, without, Label.carries, Idle, List.mem_filter]

theorem enabled_of_without {server : Server} {session : SessionId} {label : Label}
    (others : FoundOthers session server) (enabled : (server.without session).Enabled label) :
    server.Enabled label := by
  have found := others.filter_eq
  cases label <;> simp_all [Enabled, without, Idle, List.mem_filter]

theorem FoundOthers.effect {session : SessionId} {server : Server} {label : Label}
    (others : FoundOthers session server) (enabled : server.Enabled label)
    (foreign : label.carries session = false) : FoundOthers session (server.effect label) := by
  rintro ⟨command, sessionFound⟩ found
  rcases found_effect enabled found with ⟨foundBefore, -⟩ | ⟨rfl, -⟩
  · exact others _ foundBefore
  · simpa [Label.carries] using foreign

/-- What a step does to the others does not depend on what the session has under way. -/
theorem effect_without (server : Server) (session : SessionId) (label : Label) :
    (server.effect label).without session =
      ((server.without session).effect label).without session := by
  cases label with
  | processJob job endpointKnown =>
      simp only [effect]
      rw [show (server.without session).sessions = server.sessions from rfl]
      cases handleJob job (server.sessions job.session).playerId endpointKnown with
      | none => simp [without]
      | some handling =>
          cases handling <;> simp [takeUp, without, List.filter_cons, List.erase_filter]
  | checkConnected sender commandId response =>
      cases connected : (server.sessions sender).connected <;>
        simp [effect, without, connected, List.filter_cons, List.erase_filter]
  | setPlayerId sender commandId response =>
      cases accepted : response.success <;>
        simp [effect, without, accepted, modifySession, List.filter_cons, List.erase_filter]
  | removeSession removed =>
      by_cases registered : removed ∈ server.activeSessions <;> simp [effect, without, registered]
  | getPlayerId removed =>
      by_cases unnamed : (server.sessions removed).playerId = 0 <;> simp [effect, without, unnamed]
  | isConnected =>
      cases requests : server.outbox <;> simp [effect, without, requests, reaches]
  | send =>
      cases request : server.granted <;> simp [effect, without, request]
  | _ =>
      simp [effect, without, modifySession, List.filter_cons, List.erase_filter]

/-! ## Harmless steps -/

def Label.handles? : Label → Option Job
  | .processJob job true => some job
  | _ => none

def Label.processes? : Label → Option (GameCommand × TimePoint)
  | .processGameCommand command true _ now _ => some (command, now)
  | _ => none

/-- No chat of the session is handled, and when its session was found the game thread drops
its commands. -/
def Harmless (session : SessionId) (server : Server) (label : Label) : Prop :=
  (∀ job ∈ label.handles?, job.session = session → ¬ job.Chats) ∧
    ∀ processed ∈ label.processes?, processed.1.senderSessionId = session →
      server.manager.Drops processed.2 processed.1.payload

instance (session : SessionId) (server : Server) (label : Label) :
    Decidable (Harmless session server label) :=
  inferInstanceAs (Decidable ((∀ job ∈ label.handles?, _) ∧ ∀ processed ∈ label.processes?, _))

def harmlessStep (session : SessionId) (server : Server) (label : Label) : Option Server :=
  if Harmless session server label then server.step label else none

/-! ## A session without a player -/

private theorem forall_mem_erase {α : Type} [BEq α] {property : α → Prop} {items : List α}
    (holds : ∀ item ∈ items, property item) (gone : α) : ∀ item ∈ items.erase gone, property item :=
  fun item member => holds item (List.mem_of_mem_erase member)

private theorem filter_erase_of_neg {α : Type} [BEq α] [LawfulBEq α] {keep : α → Bool}
    {items : List α} {gone : α} (dropped : keep gone = false) :
    (items.erase gone).filter keep = items.filter keep := by
  rw [← List.erase_filter]
  exact List.erase_of_not_mem (by simp [List.mem_filter, dropped])

private theorem forall_mem_snoc {α : Type} {property : α → Prop} {items : List α} {new : α}
    (holds : ∀ item ∈ items, property item) (newHolds : property new) :
    ∀ item ∈ items ++ [new], property item :=
  List.forall_mem_append.mpr ⟨holds, List.forall_mem_singleton.mpr newHolds⟩

/-- What holds of a session that never authenticated. -/
structure Unprivileged (session : SessionId) (server : Server) : Prop where
  playerId : (server.sessions session).playerId = 0
  logins : ∀ login ∈ server.logins, login.session = session → login.accepted = false
  working : ∀ work ∈ server.working, work.session = session → work.speaks = false
  queued : ∀ command ∈ server.gameLogicQueue, command.senderSessionId = session →
    command.payload.isDisconnect = false
  disconnects : ∀ entry ∈ server.disconnects, entry.1 = session → entry.2.playerId? = none
  channel : ∀ chat ∈ server.chatChannel, chat.session ≠ session
  published : ∀ chat ∈ server.published, chat.session ≠ session

namespace Unprivileged

variable {session : SessionId} {before : Server} {label : Label}

theorem processJob (unprivileged : Unprivileged session before) {job : Job} {endpointKnown : Bool}
    (harmless : Harmless session before (.processJob job endpointKnown)) :
    Unprivileged session (before.effect (.processJob job endpointKnown)) := by
  simp only [effect]
  split
  · exact unprivileged
  · next handling handled =>
      have comesFrom := handleJob_comesFrom handled
      have kept := forall_mem_erase unprivileged.working (.job job)
      cases handling with
      | ignore => exact { unprivileged with working := kept }
      | verifySessionTicket ticket playerId commandId =>
          exact { unprivileged with
            working := kept
            logins := List.forall_mem_cons.mpr ⟨fun _ => rfl, unprivileged.logins⟩ }
      | sendLoginFailure =>
          exact { unprivileged with working := List.forall_mem_cons.mpr ⟨fun _ => rfl, kept⟩ }
      | pushGameCommand command =>
          refine { unprivileged with working := List.forall_mem_cons.mpr ⟨fun _ => ?_, kept⟩ }
          obtain ⟨-, ⟨data, payload, -⟩ | ⟨-, data, payload, -⟩⟩ := comesFrom <;>
            simp [Work.speaks, payload, GameCommandPayload.isDisconnect]
      | publish sender message =>
          refine { unprivileged with working := List.forall_mem_cons.mpr ⟨fun own => ?_, kept⟩ }
          obtain ⟨chats, -, rfl⟩ := comesFrom
          exact absurd chats (harmless.1 job rfl own)

theorem setPlayerId (unprivileged : Unprivileged session before) {sender : SessionId}
    {commandId : Int} {response : VerifyTicketResponse}
    (enabled : before.Enabled (.setPlayerId sender commandId response)) :
    Unprivileged session (before.effect (.setPlayerId sender commandId response)) := by
  have kept := forall_mem_erase unprivileged.logins (.checked sender commandId response)
  simp only [effect]
  split
  · next accepted =>
      have foreign : session ≠ sender := fun own => by
        have refused := unprivileged.logins _ enabled own.symm
        simp [Login.accepted, accepted] at refused
      refine { unprivileged with
        logins := List.forall_mem_cons.mpr ⟨fun _ => rfl, kept⟩
        playerId := ?_ }
      simpa [modifySession, Function.update_of_ne foreign] using unprivileged.playerId
  · exact { unprivileged with logins := List.forall_mem_cons.mpr ⟨fun _ => rfl, kept⟩ }

theorem step (unprivileged : Unprivileged session before) (enabled : before.Enabled label)
    (harmless : Harmless session before label)
    (unauthenticated : label.authenticates session = false) :
    Unprivileged session (before.effect label) := by
  cases label with
  | popJob job =>
      exact { unprivileged with
        working := List.forall_mem_cons.mpr ⟨fun _ => rfl, unprivileged.working⟩ }
  | processJob job endpointKnown => exact unprivileged.processJob harmless
  | pushGameCommand command =>
      exact { unprivileged with
        working := forall_mem_erase unprivileged.working _
        queued := forall_mem_snoc unprivileged.queued (unprivileged.working _ enabled) }
  | publish sender playerId message =>
      have foreign : sender ≠ session := fun own => by
        cases unprivileged.working _ enabled own
      exact { unprivileged with
        working := forall_mem_erase unprivileged.working _
        channel := forall_mem_snoc unprivileged.channel foreign
        published := forall_mem_snoc unprivileged.published foreign }
  | sendLoginFailure sender =>
      exact { unprivileged with working := forall_mem_erase unprivileged.working _ }
  | verifySessionTicket sender playerId commandId response =>
      refine { unprivileged with
        logins := List.forall_mem_cons.mpr ⟨fun own => ?_, forall_mem_erase unprivileged.logins _⟩ }
      simpa [Label.authenticates, Login.accepted, show sender = session from own]
        using unauthenticated
  | checkConnected sender commandId response =>
      have kept := forall_mem_erase unprivileged.logins (.replied sender commandId response)
      have refused := unprivileged.logins _ enabled
      simp only [effect]
      split
      · exact { unprivileged with logins := List.forall_mem_cons.mpr ⟨refused, kept⟩ }
      · exact { unprivileged with logins := kept }
  | setPlayerId sender commandId response => exact unprivileged.setPlayerId enabled
  | sendLoginAnswer sender packet =>
      exact { unprivileged with logins := forall_mem_erase unprivileged.logins _ }
  | disconnect closing =>
      refine { unprivileged with
        playerId := ?_
        disconnects := List.forall_mem_cons.mpr ⟨fun _ => rfl, unprivileged.disconnects⟩ }
      have same : ∀ other, ((before.effect (.disconnect closing)).sessions other).playerId =
          (before.sessions other).playerId := by
        intro other
        by_cases own : other = closing <;> simp [effect, modifySession, own]
      exact (same session).trans unprivileged.playerId
  | removeSession removed =>
      have kept := forall_mem_erase unprivileged.disconnects (removed, .closed)
      simp only [effect]
      split <;> exact { unprivileged with
        disconnects := List.forall_mem_cons.mpr ⟨fun _ => rfl, kept⟩ }
  | getPlayerId removed =>
      have kept := forall_mem_erase unprivileged.disconnects (removed, .erased)
      simp only [effect]
      split
      · next named =>
          refine { unprivileged with
            disconnects := List.forall_mem_cons.mpr ⟨fun own => ?_, kept⟩ }
          cases own
          exact absurd unprivileged.playerId named
      · exact { unprivileged with disconnects := List.forall_mem_cons.mpr ⟨fun _ => rfl, kept⟩ }
  | pushDisconnect removed playerId =>
      refine { unprivileged with
        queued := forall_mem_snoc unprivileged.queued fun own => ?_
        disconnects := List.forall_mem_cons.mpr
          ⟨fun _ => rfl, forall_mem_erase unprivileged.disconnects _⟩ }
      cases unprivileged.disconnects _ enabled own
  | onSessionDisconnected removed =>
      exact { unprivileged with disconnects := forall_mem_erase unprivileged.disconnects _ }
  | processGameCommand =>
      exact { unprivileged with queued := forall_mem_erase unprivileged.queued _ }
  | handleRedisChatMessage chat =>
      exact { unprivileged with channel := forall_mem_erase unprivileged.channel _ }
  | isConnected | send =>
      simp only [effect]
      split <;> exact { unprivileged with }
  | _ => exact { unprivileged with }

/-- What the session's own packets set off is for nobody else to see. -/
theorem respects (unprivileged : Unprivileged session before) (enabled : before.Enabled label)
    (harmless : Harmless session before label) (carries : label.carries session = true) :
    (before.effect label).without session = before.without session := by
  cases label with
  | receive | popJob | pushGameCommand | sendLoginFailure | verifySessionTicket | sendLoginAnswer =>
      cases of_decide_eq_true carries
      simp [effect, without, filter_erase_of_neg]
  | processJob job endpointKnown =>
      cases of_decide_eq_true carries
      simp only [effect]
      split
      · rfl
      · next handling handled =>
          have comesFrom := handleJob_comesFrom handled
          cases handling with
          | pushGameCommand command =>
              simp [takeUp, without, comesFrom.1, filter_erase_of_neg]
          | ignore | sendLoginFailure | verifySessionTicket | publish =>
              simp [takeUp, without, filter_erase_of_neg]
  | publish sender playerId message =>
      cases unprivileged.working _ enabled (of_decide_eq_true carries)
  | checkConnected sender commandId response =>
      cases of_decide_eq_true carries
      simp only [effect]
      split <;> simp [without, filter_erase_of_neg]
  | setPlayerId sender commandId response =>
      cases of_decide_eq_true carries
      have refused : response.success = false := unprivileged.logins _ enabled rfl
      simp [effect, refused, without, filter_erase_of_neg]
  | getSession command =>
      have own : command.senderSessionId = session := of_decide_eq_true carries
      simp [effect, without, own, enabled.2.1]
  | processGameCommand command sessionFound spawnPosition now later =>
      cases of_decide_eq_true carries
      obtain ⟨idle, found, queued, -⟩ := enabled
      have dropped : before.manager.processGameCommand command sessionFound spawnPosition now
          later = (before.manager, []) := by
        cases sessionFound with
        | true =>
            exact GameManager.processGameCommand_of_drops (harmless.2 (command, now) rfl rfl) _ _ _
        | false =>
            exact GameManager.processGameCommand_of_unregistered
              (unprivileged.queued command queued rfl)
      simp only [effect, dropped]
      simp [without, filter_erase_of_neg, idle.1, found, Option.filter]
  | handleRedisChatMessage chat =>
      exact absurd (of_decide_eq_true carries) (unprivileged.channel chat enabled)
  | _ => cases carries

end Unprivileged

/-- The session had no effect on the others: without its packets there would have been
the same players at the same places, the same chat, and the same messages to everybody
else. -/
def NoEffect (session : SessionId) (start : Server) (labels : List Label) (finish : Server) :
    Prop :=
  (∃ other, Runs start (labels.filter (!Label.carries session ·)) other ∧
      other.manager.world = finish.manager.world ∧
      other.manager.quadTree = finish.manager.quadTree ∧
      other.published = finish.published ∧
      other.sent.filter (·.1 ≠ session) = finish.sent.filter (·.1 ≠ session)) ∧
    ∀ chat ∈ finish.published, chat.session ≠ session

theorem consistent {session : SessionId} {before after other : Server} {label : Label}
    (foreign : label.carries session = false) (others : FoundOthers session other)
    (same : before.without session = other.without session)
    (stepped : before.step label = some after) :
    ∃ next, Taken step other label next ∧ FoundOthers session next ∧
      after.without session = next.without session := by
  obtain ⟨enabled, rfl⟩ := step_eq_some_iff.mp stepped
  have enabledOther : other.Enabled label :=
    enabled_of_without others (same ▸ enabled_without foreign enabled)
  refine ⟨other.effect label, step_eq_some_iff.mpr ⟨enabledOther, rfl⟩,
    others.effect enabledOther foreign, ?_⟩
  rw [effect_without before, effect_without other, same]

/-- In every run whose steps are harmless, a session that never authenticated has no
effect on the others. -/
theorem unauthenticated_noEffect {config : GameConfig} {start finish : Server}
    {labels : List Label} {session : SessionId} (created : create? config = some start)
    (run : Run (Taken (harmlessStep session)) start labels finish)
    (unauthenticated : ∀ label ∈ labels, label.authenticates session = false) :
    NoEffect session start labels finish := by
  have initially : Unprivileged session start := by
    obtain ⟨manager, -, rfl⟩ := Option.map_eq_some_iff.mp created
    constructor <;> simp
  have nobodyFound : FoundOthers session start := by
    obtain ⟨manager, -, rfl⟩ := Option.map_eq_some_iff.mp created
    rintro entry ⟨⟩
  have quiet := run.with_labels (fun label => label.authenticates session = false) unauthenticated
  have preserved : ∀ {before label after}, Unprivileged session before →
      Taken (harmlessStep session) before label after ∧ label.authenticates session = false →
      Unprivileged session after := by
    rintro before label after unprivileged ⟨taken, refused⟩
    obtain ⟨harmless, stepped⟩ := Option.ite_none_right_eq_some.mp taken
    obtain ⟨enabled, rfl⟩ := step_eq_some_iff.mp stepped
    exact unprivileged.step enabled harmless refused
  obtain ⟨other, reduced, same⟩ := quiet.purge (·.without session) (Label.carries session)
    (Unprivileged session) (FoundOthers session) preserved
    (fun unprivileged carries taken => by
      obtain ⟨harmless, stepped⟩ := Option.ite_none_right_eq_some.mp taken.1
      obtain ⟨enabled, rfl⟩ := step_eq_some_iff.mp stepped
      exact unprivileged.respects enabled harmless carries)
    (fun foreign others same taken =>
      consistent foreign others same (Option.ite_none_right_eq_some.mp taken.1).2)
    initially nobodyFound rfl
  have managers : other.manager = finish.manager := (congrArg Server.manager same).symm
  exact ⟨⟨other, reduced, congrArg GameManager.world managers,
    congrArg GameManager.quadTree managers, (congrArg Server.published same).symm,
    (congrArg Server.sent same).symm⟩, (quiet.preserves (Unprivileged session) preserved initially).published⟩

def refusedTraffic : List Label :=
  hands 0 (loginPacket 7) ++
    [.verifySessionTicket 0 7 0 { success := false }, .checkConnected 0 0 { success := false },
      .setPlayerId 0 0 { success := false }, .sendLoginAnswer 0 (loginFailure 0 "" 0)] ++
    hands 0 { id := .cPlayerInput, data := some { castPlayerInput := ⟨1, 1⟩ } } ++
    .pushGameCommand ⟨.playerInput ⟨0, 1, 1⟩, 0⟩ ::
      processes ⟨.playerInput ⟨0, 1, 1⟩, 0⟩ true 50000000

theorem unauthenticated_noEffect_of_refused :
    ∃ start finish, create? {} = some start ∧ finish.manager.Owns 1 8 ∧
      NoEffect 0 start (connects 0 ++ connects 1 ++ logsIn 1 8 ++ refusedTraffic ++ enters 1 8 1)
        finish := by
  obtain ⟨start, finish, created, run, owned⟩ :=
    exists_run_of_execute (harmlessStep 0) (create? {})
      (connects 0 ++ connects 1 ++ logsIn 1 8 ++ refusedTraffic ++ enters 1 8 1)
      (fun finish => finish.manager.Owns 1 8) (by decide +kernel)
  exact ⟨start, finish, created, owned, unauthenticated_noEffect created run (by decide +kernel)⟩

/-- A session enters the zone without ever logging in. -/
theorem player_of_unauthenticated_session :
    ∃ start labels finish, create? {} = some start ∧ Runs start labels finish ∧
      (∀ label ∈ labels, label.authenticates 0 = false) ∧ ¬ NoEffect 0 start labels finish := by
  let labels : List Label := connects 0 ++ hands 0 { id := .cEnterZone, data := some {} } ++
    .pushGameCommand (enterCommand 0 0) :: processes (enterCommand 0 0) true
  have silent : ((create? {}).bind (execute step ·
      (labels.filter (!Label.carries 0 ·)))).any (¬ ·.manager.world.Active 0) = true := by
    decide +kernel
  obtain ⟨start, finish, created, run, active⟩ := exists_run_of_execute step (create? {}) labels
    (·.manager.world.Active 0) (by decide +kernel)
  refine ⟨start, labels, finish, created, run, by decide +kernel, ?_⟩
  rintro ⟨⟨other, reduced, world, -⟩, -⟩
  rw [created, Option.bind_some, execute_of_run reduced] at silent
  exact of_decide_eq_true silent (world ▸ active)

end Server

end CppMMO
