import CppMMO.Game.Managers.InputProperties
import CppMMO.Game.Managers.VisibilityProperties

/-! What a player that enters the zone starts with. A disconnect resets the sequence number only,
and inputs are accepted for inactive players too. -/

set_option autoImplicit false

namespace CppMMO.Game.Managers

open CppMMO.Lib CppMMO.Protocol CppMMO.Game.Models

namespace Moment

def acceptsInput (id : PlayerId) (moment : Moment) : Bool := (moment.acceptedInput? id).isSome

def acceptsMotion (id : PlayerId) (moment : Moment) : Bool :=
  (moment.acceptedInput? id).any (·.data.inputFlags ≠ 0)

def acceptsHalt (id : PlayerId) (moment : Moment) : Bool :=
  (moment.acceptedInput? id).any (·.data.inputFlags = 0)

end Moment

structure InputsClear (player : Player) : Prop where
  velocity_eq : player.velocity = {}
  flags_eq : player.currentInputFlags = 0
  sequence_eq : player.lastInputSequence = 0

/-- The player is there, active and without a trace of earlier inputs. Until an input for it is
accepted it stays where it is, and the first one needs a sequence number of 1 only. -/
def CleanSlate (manager : GameManager) (id : PlayerId) : Prop :=
  ∃ player, manager.world.getPlayer id = some player ∧ player.isActive = true ∧
    InputsClear player ∧
    ∀ moments finish, Run Moment.Happens manager moments finish →
      (∀ moment ∈ moments, moment.acceptsInput id = false) →
      ∃ later, finish.world.getPlayer id = some later ∧ later.position = player.position ∧
        ∀ sequenceNumber : UInt32, 1 ≤ sequenceNumber → later.lastInputSequence < sequenceNumber

/-! ## What inputs leave behind -/

namespace GameManager

def HasSequence (id : PlayerId) (manager : GameManager) : Prop :=
  ∃ player, manager.world.getPlayer id = some player ∧ player.lastInputSequence ≠ 0

def HasFlags (id : PlayerId) (manager : GameManager) : Prop :=
  ∃ player, manager.world.getPlayer id = some player ∧ player.currentInputFlags ≠ 0

end GameManager

/-- An accepted input leaves a sequence number, a disconnect takes it away. -/
theorem Moment.Happens.hasSequence_iff {before after : GameManager} {moment : Moment}
    (happens : moment.Happens before after) (id : PlayerId) :
    after.HasSequence id ↔
      moment.acceptsInput id = true ∨ before.HasSequence id ∧ moment.disconnects id = false := by
  have change := happens.inputChange id
  simp only [GameManager.HasSequence, acceptsInput]
  generalize before.world.getPlayer id = entry at change ⊢
  generalize after.world.getPlayer id = later at change ⊢
  cases change with
  | absent none => simp [none]
  | spawned none velocity_eq flags_eq sequence_eq => simp [none, sequence_eq]
  | kept none stays velocity_eq flags_eq sequence_eq => simp [none, stays, sequence_eq]
  | disconnected now none leaves => simp [none, leaves]
  | input accepted isAccepted stays allowed newer =>
      have nonzero : accepted.data.sequenceNumber ≠ 0 := by
        intro zero
        rw [zero] at newer
        exact UInt32.not_lt_zero newer
      simp [isAccepted, nonzero]

/-- The flags are those of the last accepted input, connected or not. -/
theorem Moment.Happens.hasFlags_iff {before after : GameManager} {moment : Moment}
    (happens : moment.Happens before after) (id : PlayerId) :
    after.HasFlags id ↔
      moment.acceptsMotion id = true ∨ before.HasFlags id ∧ moment.acceptsHalt id = false := by
  have change := happens.inputChange id
  simp only [GameManager.HasFlags, acceptsMotion, acceptsHalt]
  generalize before.world.getPlayer id = entry at change ⊢
  generalize after.world.getPlayer id = later at change ⊢
  cases change with
  | absent none => simp [none]
  | spawned none velocity_eq flags_eq => simp [none, flags_eq]
  | kept none stays velocity_eq flags_eq => simp [none, flags_eq]
  | disconnected now none leaves => simp [none, Player.setActive]
  | input accepted isAccepted =>
      by_cases halts : accepted.data.inputFlags = 0
      · simp [isAccepted, halts]
      · simp [isAccepted, halts]

/-- Without flags there is no velocity. -/
def Idle (manager : GameManager) : Prop :=
  ∀ id player, manager.world.getPlayer id = some player → player.currentInputFlags = 0 →
    player.velocity = {}

theorem Idle.step {before after : GameManager} {moment : Moment} (idle : Idle before)
    (happens : moment.Happens before after) : Idle after := by
  intro id player found
  have change := happens.inputChange id
  have idleBefore := idle id
  rw [found] at change
  generalize before.world.getPlayer id = entry at change idleBefore
  cases change with
  | spawned none velocity_eq => exact fun _ => velocity_eq
  | kept none stays velocity_eq flags_eq =>
      rw [velocity_eq, flags_eq]
      exact idleBefore _ rfl
  | @disconnected player now none leaves => exact idleBefore player rfl
  | input accepted isAccepted =>
      intro halts
      change accepted.data.inputFlags = 0 at halts
      change inputFlagsToDirection accepted.data.inputFlags * before.config.moveSpeed = {}
      rw [halts]
      change (⟨0 * before.config.moveSpeed, 0 * before.config.moveSpeed,
        0 * before.config.moveSpeed⟩ : Vec3) = {}
      simp only [zero_mul]

section

variable {config : GameConfig} {moments : List Moment} {manager : GameManager}

theorem Idle.of_trace (trace : Trace config moments manager) : Idle manager := by
  refine Trace.preserves Idle ?_ (fun idle happens => idle.step happens) trace
  exact fun quadTree id player found => by simp at found

theorem hasSequence_iff_of_trace (trace : Trace config moments manager) (id : PlayerId) :
    manager.HasSequence id ↔
      ¬ Followed (Moment.acceptsInput id) (Moment.disconnects id) moments := by
  obtain ⟨start, created, run⟩ := trace
  obtain ⟨quadTree, -, rfl⟩ := Option.map_eq_some_iff.mp created
  apply run.holds_iff_not_followed (GameManager.HasSequence id) _ _
    fun happens => happens.hasSequence_iff id
  simp [GameManager.HasSequence]

theorem hasFlags_iff_of_trace (trace : Trace config moments manager) (id : PlayerId) :
    manager.HasFlags id ↔
      ¬ Followed (Moment.acceptsMotion id) (Moment.acceptsHalt id) moments := by
  obtain ⟨start, created, run⟩ := trace
  obtain ⟨quadTree, -, rfl⟩ := Option.map_eq_some_iff.mp created
  apply run.holds_iff_not_followed (GameManager.HasFlags id) _ _
    fun happens => happens.hasFlags_iff id
  simp [GameManager.HasFlags]

end

/-! ## Entry -/

/-- An entry makes a new player or takes the old one as its inputs left it. -/
theorem Moment.Enters.input_state {before after : GameManager} {moment : Moment} {id : PlayerId}
    (enters : moment.Enters id) (happens : moment.Happens before after) :
    ∃ later, after.world.getPlayer id = some later ∧ later.isActive = true ∧
      (before.world.getPlayer id = none ∧ InputsClear later ∨
        ∃ player, before.world.getPlayer id = some player ∧
          later.velocity = player.velocity ∧
          later.currentInputFlags = player.currentInputFlags ∧
          later.lastInputSequence = player.lastInputSequence) := by
  obtain ⟨later, found, active⟩ := happens.after_eq ▸ enters.isActive
  have inactive := happens.before_eq ▸ enters.wasInactive
  refine ⟨later, found, active, ?_⟩
  have change := happens.inputChange id
  rw [found] at change
  cases present : before.world.getPlayer id with
  | none =>
      rw [present] at change
      cases change with
      | spawned none velocity_eq flags_eq sequence_eq =>
          exact .inl ⟨rfl, velocity_eq, flags_eq, sequence_eq⟩
  | some player =>
      rw [present] at change
      cases change with
      | kept none stays velocity_eq flags_eq sequence_eq =>
          exact .inr ⟨player, rfl, velocity_eq, flags_eq, sequence_eq⟩
      | disconnected now none leaves => cases active
      | input accepted isAccepted => exact absurd ⟨player, present, active⟩ inactive

/-- A player with clear inputs stays clear, and in its place, until an input is accepted. -/
theorem InputsClear.stays {start finish : GameManager} {moments : List Moment} {id : PlayerId}
    {player : Player} (clear : InputsClear player)
    (found : start.world.getPlayer id = some player)
    (run : Run Moment.Happens start moments finish)
    (silent : ∀ moment ∈ moments, moment.acceptsInput id = false) :
    ∃ later, finish.world.getPlayer id = some later ∧ InputsClear later ∧
      later.position = player.position := by
  let unmoved (manager : GameManager) : Prop :=
    ∃ later, manager.world.getPlayer id = some later ∧ InputsClear later ∧
      later.position = player.position
  have quiet := run.with_labels (fun moment => moment.acceptsInput id = false) silent
  refine quiet.preserves unmoved ?_ ⟨player, found, clear, rfl⟩
  intro before moment after soFar taken
  obtain ⟨current, foundCurrent, clearCurrent, position_eq⟩ := soFar
  have change := taken.1.inputChange id
  simp only [unmoved]
  rw [foundCurrent] at change
  generalize after.world.getPlayer id = entry at change ⊢
  cases change with
  | kept none stays velocity_eq flags_eq sequence_eq time_eq still =>
      refine ⟨_, rfl, ⟨?_, ?_, ?_⟩, ?_⟩
      · exact velocity_eq.trans clearCurrent.velocity_eq
      · exact flags_eq.trans clearCurrent.flags_eq
      · exact sequence_eq.trans clearCurrent.sequence_eq
      · exact (still clearCurrent.velocity_eq).trans position_eq
  | disconnected now none leaves =>
      exact ⟨_, rfl, ⟨clearCurrent.velocity_eq, clearCurrent.flags_eq, rfl⟩, position_eq⟩
  | input accepted isAccepted =>
      have silentHere := taken.2
      simp [Moment.acceptsInput, isAccepted] at silentHere

theorem cleanSlate_iff_inputsClear {manager : GameManager} {id : PlayerId} {player : Player}
    (found : manager.world.getPlayer id = some player) (active : player.isActive = true) :
    CleanSlate manager id ↔ InputsClear player := by
  constructor
  · intro slate
    obtain ⟨same, foundSame, -, clear, -⟩ := slate
    cases found.symm.trans foundSame
    exact clear
  · intro clear
    refine ⟨player, found, active, clear, fun moments finish run silent => ?_⟩
    obtain ⟨later, foundLater, clearLater, position_eq⟩ := clear.stays found run silent
    refine ⟨later, foundLater, position_eq, fun sequenceNumber positive => ?_⟩
    rw [clearLater.sequence_eq]
    exact UInt32.lt_of_lt_of_le (by decide) positive

/-- At every entry of every run: the slate is clean unless an input was accepted after the player's
last disconnect, or the last accepted input before the entry was one to move. -/
theorem cleanSlate_iff {config : GameConfig} {moments front back : List Moment} {entry : Moment}
    {finish : GameManager} {id : PlayerId} (trace : Trace config moments finish)
    (split : moments = front ++ entry :: back) (enters : entry.Enters id) :
    CleanSlate entry.after id ↔
      Followed (Moment.acceptsInput id) (Moment.disconnects id) front ∧
        Followed (Moment.acceptsMotion id) (Moment.acceptsHalt id) front := by
  obtain ⟨start, created, run⟩ := trace
  subst split
  obtain ⟨before, after, first, happens, -⟩ := run.split_at
  have trace : Trace config front before := ⟨start, created, first⟩
  have sequences := not_iff_comm.mp (hasSequence_iff_of_trace trace id).symm
  have flags := not_iff_comm.mp (hasFlags_iff_of_trace trace id).symm
  obtain ⟨later, found, active, state⟩ := enters.input_state happens
  rw [happens.after_eq, cleanSlate_iff_inputsClear found active, ← sequences, ← flags]
  rcases state with ⟨absent, clear⟩ | ⟨player, present, velocity_eq, flags_eq, sequence_eq⟩
  · simp [GameManager.HasSequence, GameManager.HasFlags, absent, clear]
  · simp only [GameManager.HasSequence, GameManager.HasFlags, present, Option.some.injEq,
      exists_eq_left', ne_eq, not_not]
    constructor
    · intro clear
      exact ⟨sequence_eq.symm.trans clear.sequence_eq, flags_eq.symm.trans clear.flags_eq⟩
    · intro nothingLeft
      obtain ⟨noSequence, noFlags⟩ := nothingLeft
      refine ⟨?_, flags_eq.trans noFlags, sequence_eq.trans noSequence⟩
      exact velocity_eq.trans (Idle.of_trace trace id player present noFlags)

/-- The last moment of a trace, when it is an entry. -/
theorem Trace.exists_entry {config : GameConfig} {moments : List Moment} {finish : GameManager}
    {id : PlayerId} (trace : Trace config moments finish)
    (ends : moments.getLast?.any (fun entry =>
      decide (¬ entry.before.world.Active id ∧ entry.after.world.Active id)) = true) :
    ∃ front entry, moments = front ++ [entry] ∧ entry.Enters id ∧ finish = entry.after := by
  obtain ⟨entry, isLast, enters⟩ := (Option.any_eq_true _ _).mp ends
  obtain ⟨inactive, active⟩ := of_decide_eq_true enters
  have split := (List.dropLast_append_getLast? entry isLast).symm
  obtain ⟨start, -, run⟩ := trace
  rw [split] at run
  obtain ⟨before, after, -, happens, rest⟩ := run.split_at
  cases rest
  rw [happens.before_eq] at inactive
  rw [happens.after_eq] at active
  exact ⟨moments.dropLast, entry, split, happens.enters_of_active inactive active,
    happens.after_eq.symm⟩

/-- A player that stops before it leaves and sends nothing while it is away. -/
theorem cleanSlate_iff_of_halted_player :
    ∃ front entry finish, Trace {} (front ++ [entry]) finish ∧ entry.Enters 1 ∧
      (front.filter (Moment.acceptsInput 1)).length = 2 ∧ CleanSlate entry.after 1 := by
  let events : List Event := [
    .enterZone 1 7 ⟨50, 50, 0⟩ [],
    .processGameCommand ⟨.playerInput { playerId := 1, inputFlags := 1, sequenceNumber := 1 }, 7⟩
      true ⟨50, 50, 0⟩ 100000000 100000000 [],
    .processGameCommand ⟨.playerInput { playerId := 1, inputFlags := 0, sequenceNumber := 2 }, 7⟩
      true ⟨50, 50, 0⟩ 140000000 140000000 [],
    .processGameCommand ⟨.playerDisconnect { playerId := 1 }, 7⟩ false ⟨50, 50, 0⟩ 150000000 0 [],
    .enterZone 1 8 ⟨60, 60, 0⟩ []]
  have executed : (trace? {} events).any (fun result =>
      decide (result.1.getLast?.any (fun entry =>
          decide (¬ entry.before.world.Active 1 ∧ entry.after.world.Active 1)) = true ∧
        (result.1.dropLast.filter (Moment.acceptsInput 1)).length = 2 ∧
        Followed (Moment.acceptsInput 1) (Moment.disconnects 1) result.1.dropLast ∧
        Followed (Moment.acceptsMotion 1) (Moment.acceptsHalt 1) result.1.dropLast)) = true := by
    decide +kernel
  obtain ⟨⟨moments, finish⟩, followed, checked⟩ := (Option.any_eq_true _ _).mp executed
  obtain ⟨ends, accepted, condition⟩ := of_decide_eq_true checked
  have trace := trace_of_trace? followed
  obtain ⟨front, entry, rfl, enters, -⟩ := trace.exists_entry ends
  simp only [List.dropLast_concat] at accepted condition
  exact ⟨front, entry, finish, trace, enters, accepted,
    (cleanSlate_iff trace rfl enters).mpr condition⟩

/-- A player runs, loses its connection, sends once more while it is away, and comes back. It is
moved without having sent anything since, and its next input would need number 10. -/
theorem not_cleanSlate_of_runaway :
    ∃ front entry finish, Trace {} (front ++ [entry]) finish ∧ entry.Enters 1 ∧
      finish = entry.after ∧
      (finish.world.getPlayer 1).map (fun player =>
          (player.position, player.velocity, player.currentInputFlags, player.lastInputSequence)) =
        some (⟨50, 50, 0⟩, ⟨0, 5, 0⟩, 1, 9) ∧
      ((finish.step (.updateWorld 1)).1.world.getPlayer 1).map (·.position) = some ⟨50, 55, 0⟩ ∧
      ¬ CleanSlate entry.after 1 := by
  let events : List Event := [
    .enterZone 1 7 ⟨50, 50, 0⟩ [],
    .processGameCommand ⟨.playerInput { playerId := 1, inputFlags := 1, sequenceNumber := 1 }, 7⟩
      true ⟨50, 50, 0⟩ 100000000 100000000 [],
    .processGameCommand ⟨.playerDisconnect { playerId := 1 }, 7⟩ false ⟨50, 50, 0⟩ 150000000 0 [],
    .processGameCommand ⟨.playerInput { playerId := 1, inputFlags := 1, sequenceNumber := 9 }, 8⟩
      true ⟨50, 50, 0⟩ 200000000 200000000 [],
    .enterZone 1 8 ⟨60, 60, 0⟩ []]
  have executed : (trace? {} events).any (fun result =>
      decide ((result.2.world.getPlayer 1).map (fun player =>
          (player.position, player.velocity, player.currentInputFlags, player.lastInputSequence)) =
        some (⟨50, 50, 0⟩, ⟨0, 5, 0⟩, 1, 9) ∧
      ((result.2.step (.updateWorld 1)).1.world.getPlayer 1).map (·.position) = some ⟨50, 55, 0⟩ ∧
      result.1.getLast?.any (fun entry =>
        decide (¬ entry.before.world.Active 1 ∧ entry.after.world.Active 1)) = true)) = true := by
    decide +kernel
  obtain ⟨⟨moments, finish⟩, followed, checked⟩ := (Option.any_eq_true _ _).mp executed
  obtain ⟨left, moves, entered⟩ := of_decide_eq_true checked
  have trace := trace_of_trace? followed
  obtain ⟨front, entry, rfl, enters, ends⟩ := trace.exists_entry entered
  refine ⟨front, entry, finish, trace, enters, ends, left, moves, ?_⟩
  intro slate
  obtain ⟨player, found, -, clear, -⟩ := slate
  rw [ends, found] at left
  have flags := congrArg (fun state => state.2.2.1) (Option.some.inj left)
  exact absurd (clear.flags_eq.symm.trans flags) (by decide)

end CppMMO.Game.Managers
