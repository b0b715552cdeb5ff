import CppMMO.Common.Protocol

/-! Client packets, and what a job worker makes of one.

`endpointKnown` says whether the socket still has a remote endpoint when a handler
logs it: if not, the call throws and the worker drops the job. -/

set_option autoImplicit false

namespace CppMMO.Utils

open CppMMO.Protocol CppMMO.Game

structure CLogin where
  sessionTicket : Option Bytes := none
  playerId : PlayerId := 0
  commandId : Int := 0
deriving DecidableEq

structure CChat where
  message : Option Bytes := none
deriving DecidableEq

structure CPlayerInput where
  inputFlags : UInt8 := 0
  sequenceNumber : UInt32 := 0
deriving DecidableEq

structure CEnterZone where
  zoneId : Int := 0
deriving DecidableEq

/-- The packet ids that are dispatched on; the id field is not checked by the verifier. -/
inductive PacketId where
  | cLogin | sLoginSuccess | sLoginFailure | cChat | sChat | cPlayerInput | cEnterZone | other
deriving DecidableEq

/-- A union payload as its readers see it. Login and chat are read only under their own
tag; the game packets are read through an unchecked cast, whatever the tag is. -/
structure Payload where
  asLogin : Option CLogin := none
  asChat : Option CChat := none
  castPlayerInput : CPlayerInput := {}
  castEnterZone : CEnterZone := {}
deriving DecidableEq

structure UnifiedPacket where
  id : PacketId
  data : Option Payload := none
deriving DecidableEq

/-- A job holds no packet when its buffer is empty or fails verification. -/
structure Job where
  session : SessionId
  packet : Option UnifiedPacket
deriving DecidableEq

inductive Handling where
  | ignore
  | pushGameCommand (command : GameCommand)
  | publish (playerId : PlayerId) (message : Bytes)
  | sendLoginFailure
  | verifySessionTicket (sessionTicket : Bytes) (playerId : PlayerId) (commandId : Int)
deriving DecidableEq

/-- A login without a ticket reads through a null pointer: no behaviour. -/
def loginPacketHandler (endpointKnown : Bool) (packet : UnifiedPacket) : Option Handling :=
  match packet.data.bind (·.asLogin) with
  | none => some (if endpointKnown then .sendLoginFailure else .ignore)
  | some login =>
      login.sessionTicket.map fun sessionTicket =>
        if endpointKnown then .verifySessionTicket sessionTicket login.playerId login.commandId
        else .ignore

def chatPacketHandler (playerId : PlayerId) (endpointKnown : Bool) (packet : UnifiedPacket) :
    Handling :=
  match (packet.data.bind (·.asChat)).bind (·.message) with
  | none => .ignore
  | some message => if endpointKnown then .publish playerId message else .ignore

/-- No handler is registered for the server's own login and chat packets. -/
def processJobPacket (session : SessionId) (playerId : PlayerId) (endpointKnown : Bool)
    (packet : UnifiedPacket) : Option Handling :=
  match packet.id with
  | .cLogin => loginPacketHandler endpointKnown packet
  | .cChat => some (chatPacketHandler playerId endpointKnown packet)
  | .sLoginSuccess | .sLoginFailure | .sChat => some .ignore
  | .cPlayerInput =>
      match packet.data with
      | none => some .ignore
      | some payload => some (.pushGameCommand
          { payload := .playerInput
              { playerId, inputFlags := payload.castPlayerInput.inputFlags
                sequenceNumber := payload.castPlayerInput.sequenceNumber }
            senderSessionId := session })
  | .cEnterZone =>
      match packet.data with
      | none => some .ignore
      | some payload => some (.pushGameCommand
          { payload := .enterZone
              { playerId, zoneId := payload.castEnterZone.zoneId, sessionId := session }
            senderSessionId := session })
  | .other => some .ignore

/-- The body of `WorkerLoop` for one job, given the player id its session carries. -/
def handleJob (job : Job) (playerId : PlayerId) (endpointKnown : Bool) : Option Handling :=
  match job.packet with
  | none => some .ignore
  | some packet => processJobPacket job.session playerId endpointKnown packet

def Job.EntersZone (job : Job) : Prop :=
  ∃ packet ∈ job.packet, packet.id = .cEnterZone ∧ packet.data.isSome = true

instance (job : Job) : Decidable job.EntersZone :=
  inferInstanceAs (Decidable (∃ packet ∈ job.packet, _))

def Job.Chats (job : Job) : Prop :=
  ∃ packet ∈ job.packet, packet.id = .cChat ∧
    ((packet.data.bind (·.asChat)).bind (·.message)).isSome = true

instance (job : Job) : Decidable job.Chats :=
  inferInstanceAs (Decidable (∃ packet ∈ job.packet, _))

/-- What may come of a job: inputs, entries for the asking session and chat, each from
its own kind of packet. -/
def Handling.ComesFrom (job : Job) (playerId : PlayerId) (endpointKnown : Bool) :
    Handling → Prop
  | pushGameCommand command => command.senderSessionId = job.session ∧
      ((∃ data, command.payload = .playerInput data ∧ data.playerId = playerId) ∨
        job.EntersZone ∧ ∃ data, command.payload = .enterZone data ∧ data.playerId = playerId ∧
          data.sessionId = job.session)
  | publish sender _ => job.Chats ∧ sender = playerId ∧ endpointKnown = true
  | ignore | sendLoginFailure | verifySessionTicket _ _ _ => True

theorem handleJob_comesFrom {job : Job} {playerId : PlayerId} {endpointKnown : Bool}
    {handling : Handling} (handled : handleJob job playerId endpointKnown = some handling) :
    handling.ComesFrom job playerId endpointKnown := by
  unfold handleJob at handled
  cases held : job.packet with
  | none =>
      simp only [held, Option.some.injEq] at handled
      exact handled ▸ trivial
  | some packet =>
      simp only [held, processJobPacket] at handled
      cases kind : packet.id with
      | cLogin =>
          simp only [kind, loginPacketHandler] at handled
          split at handled
          · split at handled <;> exact Option.some.inj handled ▸ trivial
          · obtain ⟨ticket, -, rfl⟩ := Option.map_eq_some_iff.mp handled
            split <;> trivial
      | cChat =>
          simp only [kind, chatPacketHandler, Option.some.injEq] at handled
          split at handled
          · exact handled ▸ trivial
          · next text carried =>
              split at handled
              · next known =>
                  exact handled ▸ ⟨⟨packet, held, kind, by rw [carried]; rfl⟩, rfl, known⟩
              · exact handled ▸ trivial
      | sLoginSuccess | sLoginFailure | sChat | other =>
          simp only [kind, Option.some.injEq] at handled
          exact handled ▸ trivial
      | cPlayerInput =>
          simp only [kind] at handled
          split at handled
          · exact Option.some.inj handled ▸ trivial
          · exact Option.some.inj handled ▸ ⟨rfl, .inl ⟨_, rfl, rfl⟩⟩
      | cEnterZone =>
          simp only [kind] at handled
          split at handled
          · exact Option.some.inj handled ▸ trivial
          · next payload carried =>
              exact Option.some.inj handled ▸
                ⟨rfl, .inr ⟨⟨packet, held, kind, by simp [carried]⟩, _, rfl, rfl, rfl⟩⟩

end CppMMO.Utils
