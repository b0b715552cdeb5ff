import Mathlib.Algebra.Order.Field.Rat

/-! Identities, vectors and game commands. Coordinates are exact rationals, time
points are nanoseconds of the steady clock. -/

set_option autoImplicit false

namespace CppMMO.Game

abbrev PlayerId := UInt64

/-- Session ids are drawn from one counter that is only ever incremented. The
source's counter has 64 bits; a process does not live to accept 2^64 connections. -/
abbrev SessionId := Nat

abbrev TimePoint := Int

structure Vec3 where
  x : ℚ := 0
  y : ℚ := 0
  z : ℚ := 0
deriving DecidableEq

namespace Vec3

instance : Add Vec3 := ⟨fun a b => ⟨a.x + b.x, a.y + b.y, a.z + b.z⟩⟩
instance : Sub Vec3 := ⟨fun a b => ⟨a.x - b.x, a.y - b.y, a.z - b.z⟩⟩
instance : HMul Vec3 ℚ Vec3 := ⟨fun a scalar => ⟨a.x * scalar, a.y * scalar, a.z * scalar⟩⟩

/-- Squared distance in the plane; heights are ignored everywhere in the game. -/
def distSqXY (a b : Vec3) : ℚ := (a.x - b.x) ^ 2 + (a.y - b.y) ^ 2

end Vec3

structure PlayerInputCommandData where
  playerId : PlayerId := 0
  inputFlags : UInt8 := 0
  sequenceNumber : UInt32 := 0
deriving DecidableEq

structure EnterZoneCommandData where
  playerId : PlayerId := 0
  zoneId : Int := 0
  sessionId : SessionId := 0
deriving DecidableEq

structure PlayerSpawnCommandData where
  playerId : PlayerId := 0
deriving DecidableEq

structure PlayerDisconnectCommandData where
  playerId : PlayerId := 0
deriving DecidableEq

inductive GameCommandPayload where
  | playerInput (data : PlayerInputCommandData)
  | enterZone (data : EnterZoneCommandData)
  | playerSpawn (data : PlayerSpawnCommandData)
  | playerDisconnect (data : PlayerDisconnectCommandData)
deriving DecidableEq

def GameCommandPayload.enterZone? : GameCommandPayload → Option EnterZoneCommandData
  | enterZone data => some data
  | _ => none

def GameCommandPayload.isDisconnect : GameCommandPayload → Bool
  | playerDisconnect _ => true
  | _ => false

structure GameCommand where
  payload : GameCommandPayload
  senderSessionId : SessionId
deriving DecidableEq

def GameCommand.isDisconnectOf (session : SessionId) (command : GameCommand) : Bool :=
  command.senderSessionId = session && command.payload.isDisconnect

/-- A player is let in for the session that asked, as the job worker builds it. -/
def GameCommand.Built (command : GameCommand) : Prop :=
  ∀ data ∈ command.payload.enterZone?, data.sessionId = command.senderSessionId

instance (command : GameCommand) : Decidable command.Built :=
  inferInstanceAs (Decidable (∀ data ∈ command.payload.enterZone?, _))

end CppMMO.Game
