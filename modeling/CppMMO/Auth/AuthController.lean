import CppMMO.Auth.Database
import CppMMO.Lib.Json

/-! The endpoints of `AuthController`, each as the sequence of its store calls.

Model binding and validation come before an action: a request that fails them never reaches
it and is answered with problem details. So is an exception that an action does not catch. -/

set_option autoImplicit false

namespace CppMMO.Auth

open CppMMO.Lib

/-! ## Requests -/

structure LoginRequestDto where
  username : String
  password : String
deriving DecidableEq

structure VerifyRequestDto where
  sessionTicket : String := ""
  playerId : Int64 := 0
deriving DecidableEq

structure LogoutRequestDto where
  sessionTicket : Option String
deriving DecidableEq

structure CharacterRequestDto where
  characterName : String
deriving DecidableEq

structure DeleteUserRequestDto where
  sessionTicket : String
  password : String
deriving DecidableEq

/-- `[Required]` and `[StringLength]`. -/
def lengthValid (text : String) (minimum maximum : Nat) : Bool :=
  !DotNet.isNullOrWhiteSpace text && decide (minimum ≤ DotNet.length text) &&
    decide (DotNet.length text ≤ maximum)

def LoginRequestDto.valid (request : LoginRequestDto) : Bool :=
  lengthValid request.username 3 50 && lengthValid request.password 6 100

def VerifyRequestDto.valid (request : VerifyRequestDto) : Bool :=
  !DotNet.isNullOrWhiteSpace request.sessionTicket

def CharacterRequestDto.valid (request : CharacterRequestDto) : Bool :=
  lengthValid request.characterName 2 20

/-- Property names are matched without regard to case, and properties of other names are
skipped. A number may also come as a string. -/
def VerifyRequestDto.readProperty (request : VerifyRequestDto) :
    String × Json → Option VerifyRequestDto
  | (name, value) =>
      if DotNet.sameIgnoringCase name "SessionTicket" then
        value.asString?.map fun sessionTicket => { request with sessionTicket }
      else if DotNet.sameIgnoringCase name "PlayerId" then
        (value.asInt64? <|> (value.asString?.bind DotNet.quotedInteger?).bind fun number =>
          (Json.integer number).asInt64?).map fun playerId => { request with playerId }
      else some request

def VerifyRequestDto.ofJson : Json → Option VerifyRequestDto
  | .object fields => fields.foldlM readProperty {}
  | _ => none

/-- A request as it comes to its action, with the bound ticket header and body. -/
inductive Request where
  | register (request : LoginRequestDto)
  | login (request : LoginRequestDto)
  | verify (request : VerifyRequestDto)
  | logout (request : LogoutRequestDto)
  | getCharacters (sessionTicket : String)
  | createCharacter (sessionTicket : String) (request : CharacterRequestDto)
  | deleteUser (request : DeleteUserRequestDto)
  | rejected (statusCode : Nat)
deriving DecidableEq

/-! ## Responses -/

structure PlayerInfoDto where
  playerId : Int64
  name : String
  posX : ℚ
  posY : ℚ
  hp : Int32
  maxHp : Int32
deriving DecidableEq

def PlayerInfoDto.ofPlayer (player : Player) : PlayerInfoDto :=
  { playerId := player.playerId, name := player.name, posX := player.posX, posY := player.posY
    hp := player.hp, maxHp := player.maxHp }

structure LoginResponseDto where
  success : Bool
  sessionTicket : Option String := none
  playerInfo : Option PlayerInfoDto := none
  message : String
deriving DecidableEq

structure VerifyResponseDto where
  success : Bool
  playerInfo : Option PlayerInfoDto := none
  message : String
deriving DecidableEq

structure CharacterListResponseDto where
  success : Bool
  characters : List PlayerInfoDto := []
  message : String
deriving DecidableEq

structure CharacterCreateResponseDto where
  success : Bool
  character : Option PlayerInfoDto := none
  message : String
deriving DecidableEq

structure DeleteUserResponseDto where
  success : Bool
  message : String
  deletedCharactersCount : Nat := 0
deriving DecidableEq

inductive ResponseDto where
  | message (text : String)
  | login (response : LoginResponseDto)
  | verify (response : VerifyResponseDto)
  | characterList (response : CharacterListResponseDto)
  | characterCreate (response : CharacterCreateResponseDto)
  | deleteUser (response : DeleteUserResponseDto)
deriving DecidableEq

/-- An object under the naming policy that `Program` configures. -/
def named (properties : List (String × Json)) : Json :=
  .object (properties.map fun property => (DotNet.camelCase property.1, property.2))

def nullable {Value : Type} (toJson : Value → Json) (value : Option Value) : Json :=
  value.elim .null toJson

def PlayerInfoDto.toJson (player : PlayerInfoDto) : Json :=
  named [("PlayerId", .integer player.playerId.toInt), ("Name", .string player.name),
    ("PosX", .number player.posX), ("PosY", .number player.posY),
    ("Hp", .integer player.hp.toInt), ("MaxHp", .integer player.maxHp.toInt)]

def ResponseDto.toJson : ResponseDto → Json
  | message text => named [("message", .string text)]
  | login response =>
      named [("Success", .bool response.success),
        ("SessionTicket", nullable .string response.sessionTicket),
        ("PlayerInfo", nullable PlayerInfoDto.toJson response.playerInfo),
        ("Message", .string response.message)]
  | verify response =>
      named [("Success", .bool response.success),
        ("PlayerInfo", nullable PlayerInfoDto.toJson response.playerInfo),
        ("Message", .string response.message)]
  | characterList response =>
      named [("Success", .bool response.success),
        ("Characters", .array (response.characters.map PlayerInfoDto.toJson)),
        ("Message", .string response.message)]
  | characterCreate response =>
      named [("Success", .bool response.success),
        ("Character", nullable PlayerInfoDto.toJson response.character),
        ("Message", .string response.message)]
  | deleteUser response =>
      named [("Success", .bool response.success), ("Message", .string response.message),
        ("DeletedCharactersCount", .integer response.deletedCharactersCount)]

structure ActionResult where
  statusCode : Nat
  value : ResponseDto
deriving DecidableEq

/-- An action's result, or the problem details the framework answers with. -/
inductive Response where
  | result (result : ActionResult)
  | problem (statusCode : Nat)
deriving DecidableEq

def ok (value : ResponseDto) : ActionResult := { statusCode := 200, value }

def badRequest (value : ResponseDto) : ActionResult := { statusCode := 400, value }

def unauthorized (value : ResponseDto) : ActionResult := { statusCode := 401, value }

def notFound (value : ResponseDto) : ActionResult := { statusCode := 404, value }

def conflict (value : ResponseDto) : ActionResult := { statusCode := 409, value }

def internalServerError (value : ResponseDto) : ActionResult := { statusCode := 500, value }

/-! ## Actions -/

abbrev Action := OptionT (Program Call Call.Answer)

def perform (made : Call) : Action made.Result := OptionT.mk (Program.perform made)

def register (request : LoginRequestDto) : Action ActionResult := do
  let existingUser ← perform (.getUserByUsername request.username)
  if existingUser.isSome then
    return conflict (.message "Username already exists.")
  let passwordHash ← perform (.hashPassword request.password)
  let newUser ← perform (.createUser request.username passwordHash)
  let sessionTicket ← perform (.stringSet newUser.id)
  return ok (.login
    { success := true, sessionTicket := some sessionTicket, message := "Registration successful." })

variable (platform : Platform)

def login (request : LoginRequestDto) : Action ActionResult := do
  let user ← perform (.getUserByUsername request.username)
  let some user := user.filter fun user => platform.verify request.password user.passwordHash
    | return unauthorized (.login { success := false, message := "Invalid username or password." })
  let sessionTicket ← perform (.stringSet user.id)
  return ok (.login
    { success := true, sessionTicket := some sessionTicket, message := "Login successful." })

def verify (request : VerifyRequestDto) : Action ActionResult := do
  if request.sessionTicket = "" then
    return badRequest (.verify { success := false, message := "Session ticket is required." })
  if request.playerId ≤ 0 then
    return badRequest (.verify { success := false, message := "PlayerId is required." })
  let userIdString ← perform (.stringGet (sessionKey request.sessionTicket))
  let some userId := userIdString.bind DotNet.intTryParse
    | return unauthorized (.verify { success := false, message := "Invalid or expired session ticket." })
  let player ← perform (.getPlayerById request.playerId)
  let some player := player
    | return notFound (.verify { success := false, message := "Player not found." })
  if player.userId ≠ userId then
    return unauthorized (.verify
      { success := false, message := "Player does not belong to this user." })
  return ok (.verify
    { success := true, playerInfo := some (.ofPlayer player)
      message := "Session and player verification successful." })

def logout (request : LogoutRequestDto) : Action ActionResult := do
  let deleted ← perform (.keyDelete (sessionKey (request.sessionTicket.getD "")))
  if deleted then
    return ok (.message "Logged out successfully.")
  return badRequest (.message "Failed to logout or session not found.")

def getCharacters (sessionTicket : String) : Action ActionResult := do
  if sessionTicket = "" then
    return badRequest (.characterList { success := false, message := "Session ticket is required." })
  let userIdString ← perform (.stringGet (sessionKey sessionTicket))
  let some userId := userIdString.bind DotNet.intTryParse
    | return unauthorized (.characterList
        { success := false, message := "Invalid or expired session ticket." })
  let players ← perform (.getPlayersByUserId userId)
  return ok (.characterList
    { success := true, characters := players.map .ofPlayer
      message := "Characters retrieved successfully." })

def createCharacter (sessionTicket : String) (request : CharacterRequestDto) :
    Action ActionResult := do
  if sessionTicket = "" then
    return badRequest (.characterCreate { success := false, message := "Session ticket is required." })
  if DotNet.length request.characterName < 2 ∨ 16 < DotNet.length request.characterName then
    return badRequest (.characterCreate
      { success := false, message := "Character name must be between 2 and 16 characters." })
  let userIdString ← perform (.stringGet (sessionKey sessionTicket))
  let some userId := userIdString.bind DotNet.intTryParse
    | return unauthorized (.characterCreate
        { success := false, message := "Invalid or expired session ticket." })
  if ← perform (.isPlayerNameExists request.characterName) then
    return conflict (.characterCreate
      { success := false, message := "Character name already exists." })
  let existingPlayers ← perform (.getPlayersByUserId userId)
  if 3 ≤ existingPlayers.length then
    return badRequest (.characterCreate
      { success := false, message := "Maximum character limit reached (3 characters)." })
  let newPlayer ← perform (.createPlayer userId request.characterName)
  return ok (.characterCreate
    { success := true, character := some (.ofPlayer newPlayer)
      message := "Character created successfully." })

/-- The body of the `try` block. -/
def deleteAccount (sessionTicket : String) (userId : Int32) : Action ActionResult := do
  let deletedCharactersCount ← perform (.deletePlayersByUserId userId)
  let userDeleted ← perform (.deleteUser userId)
  if !userDeleted then
    return badRequest (.deleteUser { success := false, message := "Failed to delete user account." })
  let _ ← perform (.keyDelete (sessionKey sessionTicket))
  return ok (.deleteUser
    { success := true
      message := s!"Account deleted successfully. {deletedCharactersCount} characters were also removed."
      deletedCharactersCount })

def deleteUser (request : DeleteUserRequestDto) : Action ActionResult := do
  if request.sessionTicket = "" ∨ request.password = "" then
    return badRequest (.deleteUser
      { success := false, message := "Session ticket and password are required." })
  let userIdString ← perform (.stringGet (sessionKey request.sessionTicket))
  let some userId := userIdString.bind DotNet.intTryParse
    | return unauthorized (.deleteUser
        { success := false, message := "Invalid or expired session ticket." })
  let user ← perform (.getUserById userId)
  if (user.filter fun user => platform.verify request.password user.passwordHash).isNone then
    return unauthorized (.deleteUser { success := false, message := "Invalid password." })
  deleteAccount request.sessionTicket userId <|> pure (internalServerError (.deleteUser
    { success := false
      message := "An error occurred while deleting account. Please try again later." }))

/-! ## The service -/

/-- An exception that reaches the framework is answered with status 500. -/
def respond (action : Action ActionResult) : Program Call Call.Answer Response := do
  match ← action.run with
  | some result => return .result result
  | none => return .problem 500

/-- The filter of `[ApiController]` answers an invalid request before its action. -/
def validated (valid : Bool) (action : Action ActionResult) : Program Call Call.Answer Response :=
  if valid then respond action else return .problem 400

def serve : Request → Program Call Call.Answer Response
  | .register request => validated request.valid (register request)
  | .login request => validated request.valid (login platform request)
  | .verify request => validated request.valid (verify request)
  | .logout request => respond (logout request)
  | .getCharacters sessionTicket =>
      validated (!DotNet.isNullOrWhiteSpace sessionTicket) (getCharacters sessionTicket)
  | .createCharacter sessionTicket request =>
      validated (!DotNet.isNullOrWhiteSpace sessionTicket && request.valid)
        (createCharacter sessionTicket request)
  | .deleteUser request => respond (deleteUser platform request)
  | .rejected statusCode => return .problem statusCode

def service : Service Database Request Call Call.Answer Response Outcome Event where
  body := serve platform
  answers := Database.answers platform
  changes := Database.changes

abbrev Pool := Lib.Pool Database Request Call Call.Answer Response Outcome

abbrev Thread := Lib.Thread Database Request Call Call.Answer Response Outcome

abbrev Occurrence := Lib.Occurrence Database Call Call.Answer Outcome

abbrev Label := Pool.Label Request Outcome Event

end CppMMO.Auth
