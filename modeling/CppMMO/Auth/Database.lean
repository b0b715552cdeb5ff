import Mathlib.Data.List.Perm.Basic
import Mathlib.Data.Rat.Defs
import Mathlib.Logic.Function.Basic
import CppMMO.Lib.Program
import CppMMO.Lib.Text

/-! The stores of the auth server, MySQL with the tables of `init.sql` and Redis, and the
calls the controller makes of them.

Each repository method and each Redis command is one atomic call. A call to a store may
throw, whether or not it was carried out. Auto-increment ids never come back, but may
leave gaps; a Redis key with a time to live may be gone at any time. -/

set_option autoImplicit false

namespace CppMMO.Auth

open CppMMO.Lib

/-- A row of `users`. -/
structure User where
  id : Int32
  username : String
  passwordHash : String
deriving DecidableEq

/-- A row of `players`, its creation time in seconds. -/
structure Player where
  playerId : Int64
  userId : Int32
  name : String
  posX : ℚ
  posY : ℚ
  hp : Int32
  maxHp : Int32
  createdAt : Nat
deriving DecidableEq

/-- The tickets ever issued are kept with their users, since no GUID is drawn twice. -/
structure Database where
  users : List User := []
  nextUserId : Int := 1
  players : List Player := []
  nextPlayerId : Int := 1
  redis : String → Option String := fun _ => none
  issued : List (String × Int32) := []

def sessionKey (sessionTicket : String) : String := "session:" ++ sessionTicket

theorem sessionKey_injective : Function.Injective sessionKey := by
  intro sessionTicket other same
  have lists := congrArg String.toList same
  simp only [sessionKey, String.toList_append] at lists
  exact String.toList_inj.mp (List.append_cancel_left lists)

/-- MySQL's collation, as the key by which it compares texts, and BCrypt's check of a
password against a hash. -/
structure Platform where
  collate : String → String
  verify : String → String → Bool

/-- `stringSet` is the store of a ticket under a GUID that is drawn just before it. -/
inductive Call where
  | getUserByUsername (username : String)
  | getUserById (userId : Int32)
  | createUser (username passwordHash : String)
  | deleteUser (userId : Int32)
  | getPlayersByUserId (userId : Int32)
  | getPlayerById (playerId : Int64)
  | isPlayerNameExists (playerName : String)
  | createPlayer (userId : Int32) (playerName : String)
  | deletePlayersByUserId (userId : Int32)
  | stringSet (userId : Int32)
  | stringGet (key : String)
  | keyDelete (key : String)
  | hashPassword (password : String)

namespace Call

abbrev Result : Call → Type
  | getUserByUsername _ | getUserById _ => Option User
  | createUser _ _ => User
  | deleteUser _ | isPlayerNameExists _ | keyDelete _ => Bool
  | getPlayersByUserId _ => List Player
  | getPlayerById _ => Option Player
  | createPlayer _ _ => Player
  | deletePlayersByUserId _ => Nat
  | stringGet _ => Option String
  | stringSet _ | hashPassword _ => String

/-- No answer stands for an exception. -/
abbrev Answer (made : Call) : Type := Option made.Result

/-- A call that leaves the process, so that it can fail. -/
def remote : Call → Bool
  | hashPassword _ => false
  | _ => true

end Call

/-- What is settled outside the program: the id and the time of a new row, the order of
rows created in one second, a GUID, a salted hash. -/
structure Draw where
  id : Int := 0
  now : Nat := 0
  rows : List Player := []
  guid : BitVec 128 := 0
  passwordHash : String := ""
deriving DecidableEq

/-- How a call goes: it is carried out and answered, carried out with its answer lost, or
not carried out. -/
inductive Outcome where
  | answers (draw : Draw)
  | answerLost (draw : Draw)
  | fails
deriving DecidableEq

inductive Event where
  | expire (key : String)

namespace Database

variable (platform : Platform)

def usernameTaken (database : Database) (username : String) : Bool :=
  database.users.any fun user => platform.collate user.username = platform.collate username

def nameTaken (database : Database) (name : String) : Bool :=
  database.players.any fun player => platform.collate player.name = platform.collate name

/-- The unique key on the username makes the statement throw. -/
def createUser (database : Database) (username passwordHash : String) (draw : Draw) :
    Option (Option User × Database) :=
  if database.usernameTaken platform username then some (none, database)
  else if database.nextUserId ≤ draw.id ∧ draw.id < 2 ^ 31 then
    let user : User := { id := Int32.ofInt draw.id, username, passwordHash }
    some (some user, { database with
      users := database.users ++ [user]
      nextUserId := draw.id + 1 })
  else none

/-- The foreign key and the unique key on the name make the statement throw. -/
def createPlayer (database : Database) (userId : Int32) (name : String) (draw : Draw) :
    Option (Option Player × Database) :=
  if ¬ (database.users.any (·.id = userId)) ∨ database.nameTaken platform name then
    some (none, database)
  else if database.nextPlayerId ≤ draw.id ∧ draw.id < 2 ^ 63 then
    let player : Player :=
      { playerId := Int64.ofInt draw.id, userId, name, posX := 0, posY := 0, hp := 100, maxHp := 100
        createdAt := draw.now }
    some (some player, { database with
      players := database.players ++ [player]
      nextPlayerId := draw.id + 1 })
  else none

def playersOf (database : Database) (userId : Int32) : List Player :=
  database.players.filter (·.userId = userId)

def withoutPlayersOf (database : Database) (userId : Int32) : Database :=
  { database with players := database.players.filter (·.userId ≠ userId) }

/-- Deleting a user deletes its players with it. -/
def deleteUser (database : Database) (userId : Int32) : Database :=
  { database.withoutPlayersOf userId with users := database.users.filter (·.id ≠ userId) }

def perform (database : Database) (draw : Draw) :
    (made : Call) → Option (Option made.Result × Database)
  | .getUserByUsername username =>
      some (some (database.users.find? fun user =>
        platform.collate user.username = platform.collate username), database)
  | .getUserById userId => some (some (database.users.find? (·.id = userId)), database)
  | .createUser username passwordHash => database.createUser platform username passwordHash draw
  | .deleteUser userId =>
      some (some (database.users.any (·.id = userId)), database.deleteUser userId)
  | .getPlayersByUserId userId =>
      if draw.rows.Perm (database.playersOf userId) ∧
          draw.rows.Pairwise (fun earlier later => earlier.createdAt ≤ later.createdAt) then
        some (some draw.rows, database)
      else none
  | .getPlayerById playerId => some (some (database.players.find? (·.playerId = playerId)), database)
  | .isPlayerNameExists playerName => some (some (database.nameTaken platform playerName), database)
  | .createPlayer userId playerName => database.createPlayer platform userId playerName draw
  | .deletePlayersByUserId userId =>
      some (some (database.playersOf userId).length, database.withoutPlayersOf userId)
  | .stringSet userId =>
      let sessionTicket := DotNet.guidText draw.guid
      if database.issued.any (·.1 = sessionTicket) then none
      else some (some sessionTicket, { database with
        redis := Function.update database.redis (sessionKey sessionTicket) (some (toString userId.toInt))
        issued := (sessionTicket, userId) :: database.issued })
  | .stringGet key => some (some (database.redis key), database)
  | .keyDelete key =>
      some (some (database.redis key).isSome,
        { database with redis := Function.update database.redis key none })
  | .hashPassword password =>
      if platform.verify password draw.passwordHash then some (some draw.passwordHash, database)
      else none

def answers (database : Database) (made : Call) : Outcome → Option (made.Answer × Database)
  | .answers draw => database.perform platform draw made
  | .answerLost draw =>
      if made.remote then (database.perform platform draw made).map fun performed => (none, performed.2)
      else none
  | .fails => if made.remote then some (none, database) else none

def changes (database : Database) : Event → Option Database
  | .expire key => some { database with redis := Function.update database.redis key none }

end Database

end CppMMO.Auth
