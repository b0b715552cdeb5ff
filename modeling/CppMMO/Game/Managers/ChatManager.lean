import CppMMO.Lib.Decimal
import CppMMO.Server

/-! The chat envelope on the Redis channel: `ChatPacketHandler` writes it, `ChatManager` reads
it. -/

set_option autoImplicit false

namespace CppMMO.Game.Managers

open CppMMO.Lib CppMMO.Protocol

/-- The byte of `|`. -/
def chatDelimiter : UInt8 := 124

/-- What `ChatPacketHandler` publishes. The player id of the session is converted to `int64_t`. -/
def messageWithPlayer (playerId : PlayerId) (chatMessage : Bytes) : Bytes :=
  toDecimal playerId.toInt64.toInt ++ chatDelimiter :: chatMessage

/-- The packet that is made of a message, unless it has no delimiter or `stoll` throws. -/
def chatPacket? (message : Bytes) : Option ServerPacket :=
  match message.idxOf? chatDelimiter with
  | none => none
  | some delimiterPos =>
      match stoll (message.take delimiterPos) with
      | .error _ => none
      | .ok playerId => some (.chat playerId.toInt (message.drop (delimiterPos + 1)))

/-- Everything that is sent for one message from the channel. -/
def handleRedisChatMessage (connectedSessions : List SessionId) (message : Bytes) :
    List (SessionId × ServerPacket) :=
  match chatPacket? message with
  | none => []
  | some packet => connectedSessions.map (·, packet)

end CppMMO.Game.Managers
