import CppMMO.Common.Protocol
import CppMMO.Game.Managers.GameManager
import CppMMO.Lib.Json

/-! `LoadGameConfig`: the members are assigned one after the other, and an exception keeps those
that were. The JSON parser is a parameter, and so is `toFloat`: the `float` next to a number, unless
the number is out of range. -/

set_option autoImplicit false

namespace CppMMO.Game.Managers

open CppMMO.Lib CppMMO.Protocol

/-- The members that `LoadGameConfig` writes, with their initializers. The tick duration is in
milliseconds. -/
structure Parameters where
  aoiRange : ℚ := 100
  chatRange : ℚ := 50
  moveSpeed : ℚ := 5
  tickRate : Int := 30
  tickDuration : Int := Int.tdiv 1000 30
  mapWidth : ℚ := 200
  mapHeight : ℚ := 200
  commandBatchSize : Int := 500
deriving DecidableEq

/-- The part of the parameters that the game logic reads. -/
def Parameters.gameConfig (parameters : Parameters) : GameConfig :=
  { aoiRange := parameters.aoiRange, moveSpeed := parameters.moveSpeed
    mapWidth := parameters.mapWidth, mapHeight := parameters.mapHeight }

/-- Why the loading breaks off: a `std::exception`, or an operation without a defined result. -/
inductive Fault where
  | exception
  | undefined
deriving DecidableEq

/-! ## Access to a parsed document -/

/-- `operator[]` of a value that is not const: a key that is missing is added with the value null,
and null itself becomes an object first. -/
def subscript (key : String) : Json → Except Fault Json
  | .null => .ok .null
  | .object fields => .ok ((Json.field? key (.object fields)).getD .null)
  | .bool _ | .integer _ | .real _ | .string _ | .array _ => .error .exception

/-- `value(key, defaultValue)`, for objects only. -/
def valueOr (key : String) (defaultValue : Json) : Json → Except Fault Json
  | .object fields => .ok ((Json.field? key (.object fields)).getD defaultValue)
  | .null | .bool _ | .integer _ | .real _ | .string _ | .array _ => .error .exception

/-- `static_cast<int>` of a floating-point number drops the fraction. -/
def truncate (value : ℚ) : Int := value.num.tdiv value.den

/-- `get<int>`: numbers and truth values are converted. -/
def getInt : Json → Except Fault Int
  | .integer value => .ok (value.bmod (2 ^ 32))
  | .real value =>
      if -2 ^ 31 ≤ truncate value ∧ truncate value < 2 ^ 31 then .ok (truncate value)
      else .error .undefined
  | .bool value => .ok value.toInt
  | .null | .string _ | .array _ | .object _ => .error .exception

section

variable (toFloat : ℚ → Option ℚ)

def castFloat (value : ℚ) : Except Fault ℚ :=
  match toFloat value with
  | none => .error .undefined
  | some rounded => .ok rounded

def getFloat : Json → Except Fault ℚ
  | .integer value => castFloat toFloat value
  | .real value => castFloat toFloat value
  | .bool value => castFloat toFloat value.toInt
  | .null | .string _ | .array _ | .object _ => .error .exception

/-! ## The fields -/

variable (config : Json)

/-- `config[group][key].get<float>()`. -/
def floatField (group key : String) : Except Fault ℚ := do
  getFloat toFloat (← subscript key (← subscript group config))

def intField (group key : String) : Except Fault Int := do
  getInt (← subscript key (← subscript group config))

/-- `1000 / m_tickRate`. -/
def ticksToMillis (tickRate : Int) : Except Fault Int :=
  if tickRate = 0 then .error .undefined else .ok (Int.tdiv 1000 tickRate)

/-- Without a performance group the default is null, which has no `value`. -/
def batchSizeField : Except Fault Int := do
  getInt (← valueOr "command_batch_size" (.integer 100) (← valueOr "performance" .null config))

/-! ## Loading -/

/-- The members are kept when something is thrown. -/
abbrev Loading := ExceptT Fault (StateM Parameters)

def assign {Value : Type} (read : Except Fault Value) (write : Value → Parameters → Parameters) :
    Loading Unit := do
  let value ← (ExceptT.mk (pure read) : Loading Value)
  modify (write value)

def loadDocument : Loading Unit := do
  assign (floatField toFloat config "gameplay" "aoi_range")
    fun aoiRange members => { members with aoiRange }
  assign (floatField toFloat config "gameplay" "chat_range")
    fun chatRange members => { members with chatRange }
  assign (floatField toFloat config "gameplay" "move_speed")
    fun moveSpeed members => { members with moveSpeed }
  assign (intField config "gameplay" "tick_rate")
    fun tickRate members => { members with tickRate }
  assign (ticksToMillis (← get).tickRate)
    fun tickDuration members => { members with tickDuration }
  assign (floatField toFloat config "map" "width")
    fun mapWidth members => { members with mapWidth }
  assign (floatField toFloat config "map" "height")
    fun mapHeight members => { members with mapHeight }
  assign (batchSizeField config)
    fun commandBatchSize members => { members with commandBatchSize }

end

/-- How `LoadGameConfig` ends: by itself, in its exception handler, or not in a defined way. -/
inductive Ending where
  | returned
  | caught
  | undefined
deriving DecidableEq

def Ending.of : Except Fault Unit → Ending
  | .ok () => returned
  | .error .exception => caught
  | .error .undefined => undefined

/-- From a document that was parsed, and the initializers. -/
def loadParsed (toFloat : ℚ → Option ℚ) (config : Json) : Ending × Parameters :=
  let ended := (loadDocument toFloat config).run.run {}
  (.of ended.1, ended.2)

/-- `file` is the content of the file if it can be opened. -/
def loadGameConfig (toFloat : ℚ → Option ℚ) (parse : Bytes → Except String Json)
    (file : Option Bytes) : Ending × Parameters :=
  match file with
  | none => (.returned, {})
  | some text =>
      match parse text with
      | .error _ => (.caught, {})
      | .ok config => loadParsed toFloat config

end CppMMO.Game.Managers
