import CppMMO.Game.GameCommand
import CppMMO.Lib.UnorderedMap

/-! Players and the world. Fields of a player that no game path reads or writes are
left out. -/

set_option autoImplicit false

namespace CppMMO.Game.Models

open CppMMO.Lib

structure Player where
  playerId : PlayerId := 0
  name : String := ""
  position : Vec3 := {}
  velocity : Vec3 := {}
  rotation : ℚ := 0
  hp : Int := 100
  maxHp : Int := 100
  mp : Int := 50
  maxMp : Int := 50
  currentInputFlags : UInt8 := 0
  lastInputSequence : UInt32 := 0
  lastInputTime : TimePoint := 0
  isActive : Bool := true
  sessionId : SessionId := 0
  disconnectTime : TimePoint := 0
deriving DecidableEq

namespace Player

def create (playerId : PlayerId) (name : String) (spawnPosition : Vec3) : Player :=
  { playerId, name, position := spawnPosition }

/-- Deactivation stamps the disconnect time from the clock. -/
def setActive (player : Player) (active : Bool) (now : TimePoint) : Player :=
  if active then { player with isActive := true }
  else { player with isActive := false, disconnectTime := now }

def inputRateLimitMs : Int := 33

/-- Whole milliseconds between two clock readings, truncated towards zero. -/
def millisBetween (earlier later : TimePoint) : Int := (later - earlier).tdiv 1000000

def isInputAllowed (player : Player) (now : TimePoint) : Bool :=
  millisBetween player.lastInputTime now ≥ inputRateLimitMs

def updateLastInputTime (player : Player) (now : TimePoint) : Player :=
  { player with lastInputTime := now }

end Player

structure World where
  players : UnorderedMap PlayerId Player

namespace World

def empty : World := ⟨.empty⟩

def addPlayer (world : World) (player : Player) : World :=
  ⟨world.players.assign player.playerId player⟩

def getPlayer (world : World) (playerId : PlayerId) : Option Player :=
  world.players.find? playerId

/-- Writes through the reference that `getPlayer` hands out. -/
def modifyPlayer (world : World) (playerId : PlayerId) (update : Player → Player) : World :=
  ⟨world.players.modify playerId update⟩

def getAllPlayers (world : World) : List (PlayerId × Player) := world.players.toList

/-- `Player::Update` is still an empty stub, so the loop over the players changes
none of them. -/
def update (world : World) (_deltaTime : ℚ) : World := world

def Same (world other : World) : Prop := ∀ id, other.getPlayer id = world.getPlayer id

theorem getPlayer_addPlayer (world : World) (player : Player) (id : PlayerId) :
    (world.addPlayer player).getPlayer id =
      if id = player.playerId then some player else world.getPlayer id :=
  UnorderedMap.find?_assign _ _ _ _

theorem getPlayer_modifyPlayer (world : World) (playerId id : PlayerId)
    (update : Player → Player) :
    (world.modifyPlayer playerId update).getPlayer id =
      if id = playerId then (world.getPlayer playerId).map update else world.getPlayer id :=
  UnorderedMap.find?_modify _ _ _ _

theorem mem_getAllPlayers_iff (world : World) (id : PlayerId) (player : Player) :
    (id, player) ∈ world.getAllPlayers ↔ world.getPlayer id = some player :=
  UnorderedMap.mem_toList_iff _ _ _

@[simp] theorem getPlayer_empty (id : PlayerId) : empty.getPlayer id = none :=
  UnorderedMap.find?_empty id

def Active (world : World) (id : PlayerId) : Prop :=
  ∃ player, world.getPlayer id = some player ∧ player.isActive = true

instance (world : World) (id : PlayerId) : Decidable (world.Active id) :=
  match found : world.getPlayer id with
  | none => .isFalse fun active => by simp [Active, found] at active
  | some player =>
      decidable_of_iff (player.isActive = true) (by simp [Active, found])

end World

end CppMMO.Game.Models
