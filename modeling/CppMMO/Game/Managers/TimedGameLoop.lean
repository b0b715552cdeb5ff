import CppMMO.Game.Managers.GameLoop

/-! The body of `GameLoop`: it reads the clock, and when a tick is due it runs the stages in
order. The time of the last tick moves only after the last stage.

The length of a tick is a `float`: `toFloat` gives the one next to a number.

An exception that leaves `SendWorldSnapshots` or `FlushAllBatches` is caught around all of
the stages. What the stage had done by then is open, except that neither stage writes to
the world or to the spatial index. -/

set_option autoImplicit false

namespace CppMMO.Game.Managers

open CppMMO.Lib CppMMO.Protocol CppMMO.Game.Models

/-- The stage that a tick has come to, with the clock reading that it started from. -/
inductive Phase where
  | sleeping
  | processPendingCommands (currentTime : TimePoint)
  | sendWorldSnapshots (currentTime : TimePoint)
  | flushAllBatches (currentTime : TimePoint)
deriving DecidableEq

/-- `clock` is the latest reading of the clock, `tickDuration` is in milliseconds. -/
structure GameLoop where
  tickDuration : Int
  manager : GameManager
  clock : TimePoint
  lastTickTime : TimePoint
  phase : Phase := .sleeping

namespace GameLoop

def start (tickDuration : Int) (manager : GameManager) (now : TimePoint) : GameLoop :=
  { tickDuration, manager, clock := now, lastTickTime := now }

/-- `throws` leaves the manager with some tick number, batches and AOI cache. -/
inductive Label where
  | now (currentTime : TimePoint)
  | stage (event : Event)
  | throws (tickNumber : Nat) (playerBatches : UnorderedMap PlayerId (List ServerPacket))
      (aoiCache : UnorderedMap PlayerId AOICache)

section

variable (toFloat : ℚ → ℚ)

/-- Whole milliseconds since the last tick, in seconds: both operands are `float`. -/
def deltaSeconds (loop : GameLoop) (currentTime : TimePoint) : ℚ :=
  toFloat (toFloat (Player.millisBetween loop.lastTickTime currentTime) / 1000)

/-- Where the loop goes on after an event of the game thread, if the event comes next. -/
def advance? (loop : GameLoop) : Event → Option GameLoop
  | .processGameCommand _ _ _ _ _ _ =>
      match loop.phase with
      | .processPendingCommands _ => some loop
      | .sleeping | .sendWorldSnapshots _ | .flushAllBatches _ => none
  | .updateWorld deltaTime =>
      match loop.phase with
      | .processPendingCommands currentTime =>
          if deltaTime = loop.deltaSeconds toFloat currentTime then
            some { loop with phase := .sendWorldSnapshots currentTime }
          else none
      | .sleeping | .sendWorldSnapshots _ | .flushAllBatches _ => none
  | .sendWorldSnapshots _ =>
      match loop.phase with
      | .sendWorldSnapshots currentTime =>
          some { loop with phase := .flushAllBatches currentTime }
      | .sleeping | .processPendingCommands _ | .flushAllBatches _ => none
  | .flushAllBatches _ =>
      match loop.phase with
      | .flushAllBatches currentTime =>
          some { loop with phase := .sleeping, lastTickTime := currentTime }
      | .sleeping | .processPendingCommands _ | .sendWorldSnapshots _ => none
  | .rehash _ _ => some loop

def step (loop : GameLoop) : Label → Option GameLoop
  | .now currentTime =>
      match loop.phase with
      | .sleeping =>
          if loop.clock ≤ currentTime then
            some { loop with
              clock := currentTime
              phase := if Player.millisBetween loop.lastTickTime currentTime ≥ loop.tickDuration
                then .processPendingCommands currentTime else .sleeping }
          else none
      | .processPendingCommands _ | .sendWorldSnapshots _ | .flushAllBatches _ => none
  | .stage event =>
      if loop.manager.Valid event then
        (loop.advance? toFloat event).map ({ · with manager := (loop.manager.step event).1 })
      else none
  | .throws tickNumber playerBatches aoiCache =>
      match loop.phase with
      | .sendWorldSnapshots _ | .flushAllBatches _ =>
          some { loop with
            manager := { loop.manager with tickNumber, playerBatches, aoiCache }
            phase := .sleeping }
      | .sleeping | .processPendingCommands _ => none

abbrev Runs (first : GameLoop) (labels : List Label) (last : GameLoop) : Prop :=
  Run (Taken (step toFloat)) first labels last

end

namespace Label

def isThrow : Label → Bool
  | throws _ _ _ => true
  | now _ | stage _ => false

end Label

end GameLoop

end CppMMO.Game.Managers
