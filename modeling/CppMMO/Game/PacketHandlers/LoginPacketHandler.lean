import CppMMO.Game.Services.AuthService

/-! One login from its packet to the reply, as the chain of callbacks that carries it: the
handler, the stages of the HTTP exchange, and what the callback posts.

An exception ends the login. A worker catches one and drops the job; on an I/O thread nothing
does, and the process ends with it. `AuthService` is always given. -/

set_option autoImplicit false

namespace CppMMO.Game.PacketHandlers.LoginPacketHandler

open CppMMO.Lib CppMMO.Auth CppMMO.Protocol CppMMO.Game.Services CppMMO.Utils

/-- How `async_read` ends: with a response, with the connection closed before one, or with an
error. -/
inductive ReadResult where
  | response (response : HttpResponse)
  | endOfStream
  | error (message : String)

/-- What is asked of the session, the network and the verify callback. -/
inductive Call where
  | getRemoteEndpoint
  | asyncResolve
  | asyncConnect
  | asyncWrite (request : HttpRequest)
  | asyncRead
  | callback (response : VerifyTicketResponse)
  | isConnected
  | setPlayerId (playerId : PlayerId)
  | send (packet : ServerPacket)

/-- A socket may have no remote endpoint, with its connection reset but not closed yet. -/
abbrev Call.Answer : Call → Type
  | getRemoteEndpoint | isConnected => Bool
  | asyncResolve | asyncConnect | asyncWrite _ => Except String Unit
  | asyncRead => ReadResult
  | callback _ | setPlayerId _ | send _ => Unit

abbrev Process := Program Call Call.Answer Unit

def perform (made : Call) : Program Call Call.Answer made.Answer := Program.perform made

/-! ## The callback -/

/-- The posted function. A failure is logged with the session's endpoint first. -/
def authenticated (commandId : Int) (response : VerifyTicketResponse) : Process := do
  if ← perform .isConnected then
    if response.success then
      perform (.setPlayerId response.playerId)
      perform (.send (Server.loginSuccess response commandId))
    else if ← perform .getRemoteEndpoint then
      perform (.send (Server.loginFailure response.errorCode response.errorMessage commandId))

def callback (commandId : Int) (response : VerifyTicketResponse) : Process := do
  perform (.callback response)
  authenticated commandId response

/-! ## The HTTP exchange -/

variable (codec : Codec)

def onRead (commandId : Int) : ReadResult → Process
  | .error message => callback commandId (HttpRequestSession.Failure.read.response message)
  | .endOfStream => callback commandId (HttpRequestSession.onRead codec {})
  | .response response => callback commandId (HttpRequestSession.onRead codec response)

def onWrite (commandId : Int) : Except String Unit → Process
  | .error message => callback commandId (HttpRequestSession.Failure.write.response message)
  | .ok _ => perform .asyncRead >>= onRead codec commandId

def onConnect (request : HttpRequest) (commandId : Int) : Except String Unit → Process
  | .error message => callback commandId (HttpRequestSession.Failure.connect.response message)
  | .ok _ => perform (.asyncWrite request) >>= onWrite codec commandId

def onResolve (request : HttpRequest) (commandId : Int) : Except String Unit → Process
  | .error message => callback commandId (HttpRequestSession.Failure.resolve.response message)
  | .ok _ => perform .asyncConnect >>= onConnect codec request commandId

def verifySessionTicketAsync (sessionTicket : Bytes) (playerId : PlayerId) (commandId : Int) : Process :=
  match HttpRequestSession.run codec sessionTicket playerId with
  | none => pure ()
  | some request => perform .asyncResolve >>= onResolve codec request commandId

/-! ## The handler -/

/-- A login without a ticket reads through a null pointer: no behaviour. -/
def handle (packet : UnifiedPacket) : Option Process :=
  if packet.id ≠ .cLogin then
    some do
      let _ ← perform .getRemoteEndpoint
  else
    match packet.data.bind (·.asLogin) with
    | none => some do
        if ← perform .getRemoteEndpoint then
          perform (.send (Server.loginFailure (-1) "Invalid C_Login packet data." 0))
    | some login =>
        login.sessionTicket.map fun sessionTicket => do
          if ← perform .getRemoteEndpoint then
            verifySessionTicketAsync codec sessionTicket login.playerId login.commandId

/-- What a worker goes on with, once the handler has found the session's endpoint. -/
def carryOut : Handling → Process
  | .sendLoginFailure =>
      perform (.send (Server.loginFailure (-1) "Invalid C_Login packet data." 0))
  | .verifySessionTicket sessionTicket playerId commandId =>
      verifySessionTicketAsync codec sessionTicket playerId commandId
  | .ignore | .pushGameCommand _ | .publish _ _ => pure ()

/-- The handler takes up what the server's job worker takes up for the packet. -/
theorem handle_eq {packet : UnifiedPacket} (kind : packet.id = .cLogin) :
    handle codec packet = (loginPacketHandler true packet).map fun handling => (do
      if ← perform .getRemoteEndpoint then carryOut codec handling) := by
  unfold handle loginPacketHandler
  rw [if_neg (not_not.mpr kind)]
  cases packet.data.bind (·.asLogin) with
  | none => rfl
  | some login =>
      simp only [Option.map_map, if_true]
      rfl

end CppMMO.Game.PacketHandlers.LoginPacketHandler
