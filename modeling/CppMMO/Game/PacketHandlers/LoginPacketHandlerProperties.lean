import CppMMO.Game.PacketHandlers.LoginPacketHandler
import CppMMO.Game.Services.AuthServiceProperties

/-! Each login is answered once, unless its ticket cannot be put into a request or a handler
finds the socket without a remote endpoint. -/

set_option autoImplicit false

namespace CppMMO.Game.PacketHandlers.LoginPacketHandler

open CppMMO.Lib CppMMO.Auth CppMMO.Protocol CppMMO.Game.Services CppMMO.Utils

/-- A call and how it was answered. -/
abbrev Event := Sigma Call.Answer

namespace Event

def isCallback : Event → Bool
  | ⟨.callback _, _⟩ => true
  | _ => false

def foundConnected : Event → Bool
  | ⟨.isConnected, connected⟩ => connected
  | _ => false

def endpointMissing : Event → Bool
  | ⟨.getRemoteEndpoint, known⟩ => !known
  | _ => false

def sent? : Event → Option ServerPacket
  | ⟨.send packet, _⟩ => some packet
  | _ => none

/-- Neither the callback nor anything it posts. -/
def Silent (event : Event) : Prop :=
  event.isCallback = false ∧ event.foundConnected = false ∧ event.endpointMissing = false ∧
    event.sent? = none

end Event

/-- `S_LoginSuccess` or `S_LoginFailure` with the command id of the request. -/
def Replies (commandId : Int) : ServerPacket → Prop
  | .loginSuccess _ id | .loginFailure _ _ id => id = commandId
  | _ => False

structure AnsweredOnce (commandId : Int) (events : List Event) : Prop where
  callback : events.countP Event.isCallback = 1
  reply : events.any Event.foundConnected = true →
    ∃ packet, events.filterMap Event.sent? = [packet] ∧ Replies commandId packet

def EndpointsKnown (events : List Event) : Prop := ∀ event ∈ events, event.endpointMissing = false

section Silent

variable {commandId : Int} {event : Event} {events : List Event}

theorem answeredOnce_cons_iff (silent : event.Silent) :
    AnsweredOnce commandId (event :: events) ↔ AnsweredOnce commandId events := by
  obtain ⟨noCallback, notConnected, -, nothingSent⟩ := silent
  constructor
  · rintro ⟨callback, reply⟩
    constructor
    · simpa [noCallback] using callback
    · simpa [notConnected, nothingSent] using reply
  · rintro ⟨callback, reply⟩
    constructor
    · simpa [noCallback] using callback
    · simpa [notConnected, nothingSent] using reply

theorem endpointsKnown_cons_iff (silent : event.Silent) :
    EndpointsKnown (event :: events) ↔ EndpointsKnown events := by
  simp [EndpointsKnown, silent.2.2.1]

end Silent

variable {codec : Codec} {outcomes : Nat → (made : Call) → made.Answer}

/-- The process answers the login once exactly when it finds every endpoint it asks for. -/
def Answers (outcomes : Nat → (made : Call) → made.Answer) (commandId : Int) (process : Process) : Prop :=
  ∀ place, AnsweredOnce commandId (process.trace outcomes place) ↔
    EndpointsKnown (process.trace outcomes place)

theorem answers_perform_bind {commandId : Int} {made : Call} {andThen : made.Answer → Process}
    (silent : ∀ answer : made.Answer, Event.Silent ⟨made, answer⟩)
    (answers : ∀ answer, Answers outcomes commandId (andThen answer)) :
    Answers outcomes commandId (perform made >>= andThen) := by
  intro place
  rw [perform, Program.trace_perform_bind, answeredOnce_cons_iff (silent _),
    endpointsKnown_cons_iff (silent _)]
  exact answers _ _

/-- What the posted function does, by what it finds. -/
theorem trace_authenticated (commandId : Int) (response : VerifyTicketResponse) (place : Nat) :
    (authenticated commandId response).trace outcomes place = ⟨.isConnected, outcomes place .isConnected⟩ ::
      if outcomes place .isConnected = true then
        if response.success then
          [⟨.setPlayerId response.playerId, ()⟩, ⟨.send (Server.loginSuccess response commandId), ()⟩]
        else if outcomes (place + 1) .getRemoteEndpoint = true then
          [⟨.getRemoteEndpoint, true⟩,
            ⟨.send (Server.loginFailure response.errorCode response.errorMessage commandId), ()⟩]
        else [⟨.getRemoteEndpoint, false⟩]
      else [] := by
  simp only [authenticated, perform, Program.trace_perform_bind]
  congr 1
  by_cases connected : outcomes place .isConnected = true
  · simp only [connected, if_true]
    by_cases success : response.success = true
    · simp [success]
    · by_cases known : outcomes (place + 1) .getRemoteEndpoint = true
      · simp [success, known]
      · simp [success, known]
  · simp [connected]

theorem answers_callback (commandId : Int) (response : VerifyTicketResponse) :
    Answers outcomes commandId (callback commandId response) := by
  intro place
  simp only [callback, perform, Program.trace_perform_bind, trace_authenticated]
  cases outcomes (place + 1) .isConnected with
  | false => exact iff_of_true ⟨rfl, nofun⟩ (by simp [EndpointsKnown, Event.endpointMissing])
  | true =>
      simp only [if_true]
      split
      · exact iff_of_true ⟨rfl, fun _ => ⟨_, rfl, rfl⟩⟩ (by simp [EndpointsKnown, Event.endpointMissing])
      · split
        · exact iff_of_true ⟨rfl, fun _ => ⟨_, rfl, rfl⟩⟩ (by simp [EndpointsKnown, Event.endpointMissing])
        · apply iff_of_false
          · rintro ⟨-, reply⟩
            obtain ⟨packet, sent, -⟩ := reply rfl
            cases sent
          · simp [EndpointsKnown, Event.endpointMissing]

/-! Every stage of the exchange comes to the callback. -/

theorem answers_onRead (commandId : Int) (result : ReadResult) :
    Answers outcomes commandId (onRead codec commandId result) := by
  cases result <;> exact answers_callback _ _

theorem answers_onWrite (commandId : Int) (result : Except String Unit) :
    Answers outcomes commandId (onWrite codec commandId result) := by
  cases result with
  | error message => exact answers_callback _ _
  | ok _ => exact answers_perform_bind (fun _ => ⟨rfl, rfl, rfl, rfl⟩) (answers_onRead commandId)

theorem answers_onConnect (request : HttpRequest) (commandId : Int) (result : Except String Unit) :
    Answers outcomes commandId (onConnect codec request commandId result) := by
  cases result with
  | error message => exact answers_callback _ _
  | ok _ => exact answers_perform_bind (fun _ => ⟨rfl, rfl, rfl, rfl⟩) (answers_onWrite commandId)

theorem answers_onResolve (request : HttpRequest) (commandId : Int) (result : Except String Unit) :
    Answers outcomes commandId (onResolve codec request commandId result) := by
  cases result with
  | error message => exact answers_callback _ _
  | ok _ => exact answers_perform_bind (fun _ => ⟨rfl, rfl, rfl, rfl⟩) (answers_onConnect request commandId)

theorem answeredOnce_verifySessionTicketAsync_iff (sessionTicket : Bytes) (playerId : PlayerId)
    (commandId : Int) (place : Nat) :
    AnsweredOnce commandId
        ((verifySessionTicketAsync codec sessionTicket playerId commandId).trace outcomes place) ↔
      (decodeUtf8 sessionTicket).isSome = true ∧ EndpointsKnown
        ((verifySessionTicketAsync codec sessionTicket playerId commandId).trace outcomes place) := by
  unfold verifySessionTicketAsync HttpRequestSession.run
  cases decodeUtf8 sessionTicket with
  | none =>
      apply iff_of_false
      · rintro ⟨callback, -⟩
        cases callback
      · rintro ⟨decoded, -⟩
        cases decoded
  | some text =>
      simp only [Option.map_some, Option.isSome_some, true_and]
      exact answers_perform_bind (fun _ => ⟨rfl, rfl, rfl, rfl⟩) (answers_onResolve _ commandId) place

theorem login_answered_once_iff (codec : Codec) {packet : UnifiedPacket} {sessionTicket : Bytes}
    {playerId : PlayerId} {commandId : Int} (kind : packet.id = .cLogin)
    (carried : packet.data.bind (·.asLogin) = some { sessionTicket, playerId, commandId }) :
    ∃ process, handle codec packet = some process ∧ ∀ outcomes,
      AnsweredOnce commandId (process.trace outcomes 0) ↔
        (decodeUtf8 sessionTicket).isSome = true ∧ EndpointsKnown (process.trace outcomes 0) := by
  refine ⟨_, by rw [handle, if_neg (not_not.mpr kind), carried]; rfl, ?_⟩
  intro outcomes
  simp only [perform, Program.trace_perform_bind]
  cases outcomes 0 .getRemoteEndpoint with
  | true =>
      have silent : Event.Silent ⟨.getRemoteEndpoint, true⟩ := ⟨rfl, rfl, rfl, rfl⟩
      rw [answeredOnce_cons_iff silent, endpointsKnown_cons_iff silent]
      exact answeredOnce_verifySessionTicketAsync_iff sessionTicket playerId commandId 1
  | false =>
      apply iff_of_false
      · rintro ⟨callback, -⟩
        cases callback
      · simp [EndpointsKnown, Event.endpointMissing]

/-- Everything goes well: the sockets are connected, and `{"success":true}` is read. -/
def goesWell : (made : Call) → made.Answer
  | .getRemoteEndpoint | .isConnected => true
  | .asyncResolve | .asyncConnect | .asyncWrite _ => .ok ()
  | .asyncRead => .response { body := "\x7b\"success\":true\x7d".toUTF8.toList }
  | .callback _ | .setPlayerId _ | .send _ => ()

theorem endpointsKnown_of_goesWell (process : Process) (place : Nat) :
    EndpointsKnown (process.trace (fun _ => goesWell) place) := by
  induction process generalizing place with
  | done value => simp [Program.trace, EndpointsKnown]
  | call made next ih =>
      have known : Event.endpointMissing ⟨made, goesWell made⟩ = false := by cases made <;> rfl
      intro event member
      rcases List.mem_cons.mp member with rfl | later
      · exact known
      · exact ih _ _ event later

def loginPacket (sessionTicket : Bytes) : UnifiedPacket :=
  { id := .cLogin, data := some { asLogin := some { sessionTicket, playerId := 1, commandId := 3 } } }

theorem login_answered_once_iff_ascii :
    ∃ process, handle HttpRequestSession.bareCodec (loginPacket [0x61]) = some process ∧
      AnsweredOnce 3 (process.trace (fun _ => goesWell) 0) := by
  obtain ⟨process, handled, once⟩ :=
    @login_answered_once_iff HttpRequestSession.bareCodec (loginPacket [0x61]) [0x61] 1 3 rfl rfl
  exact ⟨process, handled, (once _).mpr ⟨by decide +kernel, endpointsKnown_of_goesWell process 0⟩⟩

/-- A ticket of one byte that is not UTF-8: `dump` throws, and the login is never answered. -/
theorem login_not_answered_once :
    ∃ process, handle HttpRequestSession.bareCodec (loginPacket [0xff]) = some process ∧
      process.trace (fun _ => goesWell) 0 = [⟨.getRemoteEndpoint, true⟩] ∧
      ¬ AnsweredOnce 3 (process.trace (fun _ => goesWell) 0) := by
  have undecodable : HttpRequestSession.run HttpRequestSession.bareCodec [0xff] 1 = none := by
    have none : decodeUtf8 [0xff] = none := by decide +kernel
    rw [HttpRequestSession.run, none, Option.map_none]
  refine ⟨_, rfl, ?_⟩
  have events : Program.trace (fun _ => goesWell) 0 (do
      if ← perform .getRemoteEndpoint then
        verifySessionTicketAsync HttpRequestSession.bareCodec [0xff] 1 3) =
      [⟨.getRemoteEndpoint, true⟩] := by
    simp only [perform, Program.trace_perform_bind, goesWell, if_true, verifySessionTicketAsync, undecodable,
      Program.trace_pure]
  rw [events]
  refine ⟨rfl, ?_⟩
  rintro ⟨callback, -⟩
  cases callback

end CppMMO.Game.PacketHandlers.LoginPacketHandler
