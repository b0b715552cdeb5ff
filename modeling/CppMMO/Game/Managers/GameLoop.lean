import CppMMO.Game.Managers.GameManager
import CppMMO.Lib.Transition

/-! Runs of the game thread. One event is one command, one of the three tick stages,
or a change of iteration order; everything the surrounding threads decide (registry
answers, sockets, clocks, the random spawn) is part of the event, so a run quantifies
over all of it. The order of the events is free, which covers every tick schedule. -/

set_option autoImplicit false

namespace CppMMO.Game.Managers

open CppMMO.Lib CppMMO.Protocol CppMMO.Game.Models

/-- `delivered` answers, request by request, whether the session was found and
connected when the game thread came to it. -/
inductive Event where
  | processGameCommand (command : GameCommand) (sessionFound : Bool) (spawnPosition : Vec3)
      (now later : TimePoint) (delivered : List Bool)
  | updateWorld (deltaTime : ℚ)
  | sendWorldSnapshots (serverTime : Nat)
  | flushAllBatches (delivered : List Bool)
  | rehash (players : UnorderedMap PlayerId Player)
      (playerBatches : UnorderedMap PlayerId (List ServerPacket))

namespace Event

def command? : Event → Option GameCommand
  | processGameCommand command _ _ _ _ _ => some command
  | _ => none

def enterZone (id : PlayerId) (session : SessionId) (spawnPosition : Vec3)
    (delivered : List Bool) : Event :=
  processGameCommand ⟨.enterZone { playerId := id, zoneId := 1, sessionId := session }, session⟩
    true spawnPosition 0 0 delivered

def isSendWorldSnapshots : Event → Bool
  | sendWorldSnapshots _ => true
  | _ => false

theorem exists_of_isSendWorldSnapshots {event : Event}
    (stage : event.isSendWorldSnapshots = true) :
    ∃ serverTime, event = .sendWorldSnapshots serverTime := by
  cases event with
  | sendWorldSnapshots serverTime => exact ⟨serverTime, rfl⟩
  | _ => cases stage

end Event

/-- What one event put into write queues and into player batches, and what it had for
sessions that were gone. -/
structure Outputs where
  sent : List (SessionId × ServerPacket) := []
  refused : List (SessionId × ServerPacket) := []
  batched : List (PlayerId × WorldSnapshot) := []

def answered (answer : Bool) : List Outgoing → List Bool → List (SessionId × ServerPacket)
  | [], _ => []
  | request :: rest, delivered =>
      (if delivered.headD false = answer then request.packets.map (request.session, ·) else []) ++
        answered answer rest delivered.tail

def Outputs.ofRequests (outgoing : List Outgoing) (delivered : List Bool) : Outputs :=
  { sent := answered true outgoing delivered, refused := answered false outgoing delivered }

namespace GameManager

def step (manager : GameManager) : Event → GameManager × Outputs
  | .processGameCommand command sessionFound spawnPosition now later delivered =>
      let (after, outgoing) :=
        manager.processGameCommand command sessionFound spawnPosition now later
      (after, .ofRequests outgoing delivered)
  | .updateWorld deltaTime => (manager.updateWorld deltaTime, {})
  | .sendWorldSnapshots serverTime =>
      let (after, batched) := manager.sendWorldSnapshots serverTime
      (after, { batched })
  | .flushAllBatches delivered =>
      let (after, outgoing) := manager.flushAllBatches
      (after, .ofRequests outgoing delivered)
  | .rehash players playerBatches =>
      ({ manager with world := ⟨players⟩, playerBatches }, {})

/-- Spawn positions come from the spawn rectangle, time does not run backwards, and a
rehash only reorders. -/
def Valid (manager : GameManager) : Event → Prop
  | .processGameCommand _ _ spawnPosition _ _ _ => manager.config.Spawns spawnPosition
  | .updateWorld deltaTime => 0 ≤ deltaTime
  | .sendWorldSnapshots _ => True
  | .flushAllBatches _ => True
  | .rehash players playerBatches =>
      manager.world.players.Reorders players ∧ manager.playerBatches.Reorders playerBatches

instance (manager : GameManager) (event : Event) : Decidable (manager.Valid event) :=
  match event with
  | .processGameCommand _ _ spawnPosition _ _ _ =>
      inferInstanceAs (Decidable (manager.config.Spawns spawnPosition))
  | .updateWorld deltaTime => inferInstanceAs (Decidable (0 ≤ deltaTime))
  | .sendWorldSnapshots _ => .isTrue trivial
  | .flushAllBatches _ => .isTrue trivial
  | .rehash _ _ => inferInstanceAs (Decidable (_ ∧ _))

end GameManager

structure Moment where
  before : GameManager
  event : Event
  outputs : Outputs
  after : GameManager

structure Moment.Happens (before : GameManager) (moment : Moment) (after : GameManager) :
    Prop where
  before_eq : moment.before = before
  after_eq : moment.after = after
  valid : before.Valid moment.event
  step_eq : before.step moment.event = (after, moment.outputs)

theorem Moment.Happens.after_eq_step {before after : GameManager} {moment : Moment}
    (happens : moment.Happens before after) : after = (before.step moment.event).1 := by
  rw [happens.step_eq]

theorem Moment.Happens.outputs_eq_step {before after : GameManager} {moment : Moment}
    (happens : moment.Happens before after) :
    moment.outputs = (before.step moment.event).2 := by
  rw [happens.step_eq]

def Moment.of (manager : GameManager) (event : Event) : Moment :=
  { before := manager, event, outputs := (manager.step event).2, after := (manager.step event).1 }

theorem Moment.of_happens (manager : GameManager) (event : Event) (valid : manager.Valid event) :
    (Moment.of manager event).Happens manager (manager.step event).1 :=
  ⟨rfl, rfl, valid, rfl⟩

/-- A trace of the game thread from its construction. -/
def Trace (config : GameConfig) (moments : List Moment) (finish : GameManager) : Prop :=
  ∃ start, GameManager.create? config = some start ∧ Run Moment.Happens start moments finish

theorem Trace.snoc {config : GameConfig} {moments : List Moment} {manager : GameManager}
    (trace : Trace config moments manager) (event : Event) (valid : manager.Valid event) :
    Trace config (moments ++ [Moment.of manager event]) (manager.step event).1 := by
  obtain ⟨start, created, run⟩ := trace
  exact ⟨start, created, run.snoc (Moment.of_happens manager event valid)⟩

/-- The invariant rule for traces: an empty world to begin with, and one event at a time. -/
theorem Trace.preserves {config : GameConfig} (invariant : GameManager → Prop)
    (initially : ∀ quadTree, invariant { config, world := .empty, quadTree })
    (preserved : ∀ {before moment after}, invariant before →
      Moment.Happens before moment after → invariant after)
    {moments : List Moment} {finish : GameManager} (trace : Trace config moments finish) :
    invariant finish := by
  obtain ⟨start, created, run⟩ := trace
  obtain ⟨quadTree, -, rfl⟩ := Option.map_eq_some_iff.mp created
  exact run.preserves invariant preserved (initially quadTree)

theorem Trace.of_mem {config : GameConfig} {moments : List Moment} {finish : GameManager}
    (trace : Trace config moments finish) {moment : Moment} (member : moment ∈ moments) :
    ∃ earlier, Trace config earlier moment.before ∧
      moment.Happens moment.before moment.after := by
  obtain ⟨start, created, run⟩ := trace
  obtain ⟨front, back, rfl⟩ := List.append_of_mem member
  obtain ⟨before, after, first, happens, -⟩ := run.split_at
  obtain rfl := happens.before_eq
  obtain rfl := happens.after_eq
  exact ⟨front, ⟨start, created, first⟩, happens⟩

/-- Carry out a list of events, stopping with `none` at one that is not valid. -/
def GameManager.follow? : GameManager → List Event → Option (List Moment × GameManager)
  | manager, [] => some ([], manager)
  | manager, event :: events =>
      if manager.Valid event then
        (follow? (manager.step event).1 events).map fun (moments, finish) =>
          (Moment.of manager event :: moments, finish)
      else none

def trace? (config : GameConfig) (events : List Event) : Option (List Moment × GameManager) :=
  (GameManager.create? config).bind (·.follow? events)

theorem GameManager.run_of_follow? {manager finish : GameManager} {events : List Event}
    {moments : List Moment} (followed : manager.follow? events = some (moments, finish)) :
    Run Moment.Happens manager moments finish := by
  induction events generalizing manager moments with
  | nil =>
      cases followed
      exact .nil
  | cons event events ih =>
      unfold follow? at followed
      split at followed
      · next valid =>
          obtain ⟨⟨rest, last⟩, followedRest, same⟩ := Option.map_eq_some_iff.mp followed
          cases same
          exact .cons (Moment.of_happens manager event valid) (ih followedRest)
      · cases followed

theorem trace_of_trace? {config : GameConfig} {events : List Event} {moments : List Moment}
    {finish : GameManager} (followed : trace? config events = some (moments, finish)) :
    Trace config moments finish := by
  obtain ⟨start, created, run⟩ := Option.bind_eq_some_iff.mp followed
  exact ⟨start, created, GameManager.run_of_follow? run⟩

end CppMMO.Game.Managers
