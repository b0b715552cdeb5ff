import CppMMO.Game.GameCommand

/-! The server's packets as records of their schema fields. A table field that a
generated constructor is not given has its schema default. -/

set_option autoImplicit false

namespace CppMMO.Protocol

open CppMMO.Game

abbrev Bytes := List UInt8

structure PlayerInfo where
  playerId : PlayerId
  name : String
  position : Option Vec3 := none
  hp : Int := 0
  maxHp : Int := 0
  mp : Int := 0
  maxMp : Int := 0
deriving DecidableEq

structure PlayerState where
  playerId : PlayerId
  position : Option Vec3 := none
  velocity : Option Vec3 := none
  rotation : ℚ := 0
  hp : Int := 0
  mp : Int := 0
  lastInputSequence : UInt32 := 0
deriving DecidableEq

/-- `S_WorldSnapshot`; its event vector is always empty. -/
structure WorldSnapshot where
  tickNumber : Nat
  serverTime : Nat
  playerStates : List PlayerState
deriving DecidableEq

inductive ServerPacket where
  | loginSuccess (playerInfo : PlayerInfo) (commandId : Int)
  | loginFailure (errorCode : Int) (errorMessage : String) (commandId : Int)
  | chat (playerId : Int) (message : Bytes)
  | worldSnapshot (snapshot : WorldSnapshot)
  | zoneEntered (zoneId : Int) (myPlayer : PlayerInfo) (otherPlayers : List PlayerInfo)
  | playerJoined (playerInfo : PlayerInfo)
  | playerLeft (playerId : PlayerId)
deriving DecidableEq

def WorldSnapshot.Lists (snapshot : WorldSnapshot) (playerId : PlayerId) : Prop :=
  playerId ∈ snapshot.playerStates.map (·.playerId)

instance (snapshot : WorldSnapshot) (playerId : PlayerId) : Decidable (snapshot.Lists playerId) :=
  inferInstanceAs (Decidable (_ ∈ _))

/-- The packet carries the player's `PlayerInfo` to somebody else. -/
def ServerPacket.Introduces (playerId : PlayerId) : ServerPacket → Prop
  | zoneEntered _ _ otherPlayers => playerId ∈ otherPlayers.map (·.playerId)
  | playerJoined playerInfo => playerInfo.playerId = playerId
  | _ => False

instance (playerId : PlayerId) : ∀ packet : ServerPacket, Decidable (packet.Introduces playerId)
  | .zoneEntered _ _ _ => inferInstanceAs (Decidable (_ ∈ _))
  | .playerJoined _ => inferInstanceAs (Decidable (_ = _))
  | .loginSuccess _ _ | .loginFailure _ _ _ | .chat _ _ | .worldSnapshot _ | .playerLeft _ =>
      inferInstanceAs (Decidable False)

end CppMMO.Protocol
