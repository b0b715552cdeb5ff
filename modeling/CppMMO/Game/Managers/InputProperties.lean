import Mathlib.Data.Rat.Floor
import CppMMO.Game.Managers.GameManagerProperties

/-! Which inputs the game thread lets pass, and what they leave behind in a player. -/

set_option autoImplicit false

namespace CppMMO.Game.Managers

open CppMMO.Lib CppMMO.Protocol CppMMO.Game.Models

/-- An input that passed both checks, the clock reading of the rate check, and the later one that
is stored. -/
structure AcceptedInput where
  data : PlayerInputCommandData
  checked : TimePoint
  stored : TimePoint
deriving DecidableEq

namespace Moment

def acceptedInput? (id : PlayerId) (moment : Moment) : Option AcceptedInput :=
  match moment.event with
  | .processGameCommand ⟨.playerInput data, _⟩ sessionFound _ now later _ =>
      if data.playerId = id ∧ sessionFound = true ∧ moment.before.Accepts data now then
        some { data, checked := now, stored := later }
      else none
  | _ => none

def disconnects (id : PlayerId) (moment : Moment) : Bool :=
  match moment.event with
  | .processGameCommand ⟨.playerDisconnect data, _⟩ _ _ _ _ _ => data.playerId = id
  | _ => false

end Moment

/-! ## One player's input state over one event -/

/-- Everything a moment can do to the input state of a player. Whoever does not move stays where
it is. -/
inductive InputChange (config : GameConfig) (id : PlayerId) (moment : Moment) :
    Option Player → Option Player → Prop where
  | absent (none : moment.acceptedInput? id = none) : InputChange config id moment .none .none
  | spawned {player : Player} (none : moment.acceptedInput? id = none)
      (velocity_eq : player.velocity = {}) (flags_eq : player.currentInputFlags = 0)
      (sequence_eq : player.lastInputSequence = 0) :
      InputChange config id moment .none (some player)
  | kept {player later : Player} (none : moment.acceptedInput? id = none)
      (stays : moment.disconnects id = false)
      (velocity_eq : later.velocity = player.velocity)
      (flags_eq : later.currentInputFlags = player.currentInputFlags)
      (sequence_eq : later.lastInputSequence = player.lastInputSequence)
      (time_eq : later.lastInputTime = player.lastInputTime)
      (still : player.velocity = {} → later.position = player.position) :
      InputChange config id moment (some player) (some later)
  | disconnected {player : Player} (now : TimePoint) (none : moment.acceptedInput? id = none)
      (leaves : moment.disconnects id = true) :
      InputChange config id moment (some player)
        (some { player.setActive false now with lastInputSequence := 0 })
  | input {player : Player} (accepted : AcceptedInput)
      (isAccepted : moment.acceptedInput? id = some accepted)
      (stays : moment.disconnects id = false)
      (allowed : player.isInputAllowed accepted.checked = true)
      (newer : player.lastInputSequence < accepted.data.sequenceNumber) :
      InputChange config id moment (some player) (some
        { player.updateLastInputTime accepted.stored with
          lastInputSequence := accepted.data.sequenceNumber
          currentInputFlags := accepted.data.inputFlags
          velocity := inputFlagsToDirection accepted.data.inputFlags * config.moveSpeed })

namespace GameManager

theorem processGameCommand_of_accepts {manager : GameManager} {data : PlayerInputCommandData}
    {now : TimePoint} (accepts : manager.Accepts data now) (sender : SessionId)
    (spawnPosition : Vec3) (later : TimePoint) :
    manager.processGameCommand ⟨.playerInput data, sender⟩ true spawnPosition now later =
      (manager.withInput data later, []) := by
  obtain ⟨player, found, allowed, newer⟩ := accepts
  simp [processGameCommand, handlePlayerInput, found, allowed, UInt32.not_le.mpr newer, withInput]

/-- An input that is not accepted changes nothing. -/
theorem processGameCommand_of_not_accepts {manager : GameManager} {data : PlayerInputCommandData}
    {sessionFound : Bool} {now : TimePoint}
    (refused : ¬ (sessionFound = true ∧ manager.Accepts data now)) (sender : SessionId)
    (spawnPosition : Vec3) (later : TimePoint) :
    manager.processGameCommand ⟨.playerInput data, sender⟩ sessionFound spawnPosition now later =
      (manager, []) := by
  cases sessionFound with
  | false => exact processGameCommand_of_unregistered rfl
  | true =>
      have drops : manager.Drops now (.playerInput data) := fun accepts => refused ⟨rfl, accepts⟩
      exact processGameCommand_of_drops drops true spawnPosition later

end GameManager

namespace InputChange

variable {config : GameConfig} {id : PlayerId} {moment : Moment}

theorem of_eq {entry other : Option Player} (none : moment.acceptedInput? id = none)
    (stays : moment.disconnects id = false ∨ entry = .none) (same : other = entry) :
    InputChange config id moment entry other := by
  subst same
  cases other with
  | none => exact .absent none
  | some player =>
      rcases stays with stays | missing
      · exact .kept none stays rfl rfl rfl rfl fun _ => rfl
      · cases missing

theorem of_input {manager : GameManager} {data : PlayerInputCommandData} {sender : SessionId}
    {sessionFound : Bool} {spawnPosition : Vec3} {now later : TimePoint} {delivered : List Bool}
    (before_eq : moment.before = manager)
    (event_eq : moment.event = .processGameCommand ⟨.playerInput data, sender⟩ sessionFound
      spawnPosition now later delivered) :
    InputChange manager.config id moment (manager.world.getPlayer id)
      ((manager.processGameCommand ⟨.playerInput data, sender⟩ sessionFound spawnPosition now
        later).1.world.getPlayer id) := by
  have stays : moment.disconnects id = false := by simp only [Moment.disconnects, event_eq]
  by_cases accepts : sessionFound = true ∧ manager.Accepts data now
  · obtain ⟨rfl, accepts⟩ := accepts
    rw [GameManager.processGameCommand_of_accepts accepts, GameManager.getPlayer_withInput]
    by_cases same : id = data.playerId
    · subst same
      have isAccepted : moment.acceptedInput? data.playerId =
          some { data, checked := now, stored := later } := by
        simp only [Moment.acceptedInput?, event_eq, before_eq, accepts, and_self, ↓reduceIte]
      obtain ⟨player, found, allowed, newer⟩ := accepts
      rw [if_pos rfl, found, Option.map_some]
      exact .input { data, checked := now, stored := later } isAccepted stays allowed newer
    · have none : moment.acceptedInput? id = none := by
        simp only [Moment.acceptedInput?, event_eq, Ne.symm same, false_and, ↓reduceIte]
      exact .of_eq none (.inl stays) (if_neg same)
  · have none : moment.acceptedInput? id = none := by
      simp only [Moment.acceptedInput?, event_eq, before_eq, accepts, and_false, ↓reduceIte]
    rw [GameManager.processGameCommand_of_not_accepts accepts]
    exact .of_eq none (.inl stays) rfl

theorem of_disconnect {manager : GameManager} {data : PlayerDisconnectCommandData}
    {sender : SessionId} {sessionFound : Bool} {spawnPosition : Vec3} {now later : TimePoint}
    {delivered : List Bool}
    (event_eq : moment.event = .processGameCommand ⟨.playerDisconnect data, sender⟩ sessionFound
      spawnPosition now later delivered) :
    InputChange manager.config id moment (manager.world.getPlayer id)
      ((manager.processGameCommand ⟨.playerDisconnect data, sender⟩ sessionFound spawnPosition now
        later).1.world.getPlayer id) := by
  have none : moment.acceptedInput? id = none := by simp only [Moment.acceptedInput?, event_eq]
  have leaves : moment.disconnects id = decide (data.playerId = id) := by
    simp only [Moment.disconnects, event_eq]
  simp only [GameManager.processGameCommand, GameManager.handlePlayerDisconnect]
  cases found : manager.world.getPlayer data.playerId with
  | none =>
      by_cases same : id = data.playerId
      · exact .of_eq none (.inr (same ▸ found)) rfl
      · exact .of_eq none (.inl (leaves.trans (decide_eq_false (Ne.symm same)))) rfl
  | some player =>
      have written := GameManager.getPlayer_withDisconnected manager data.playerId now id
      by_cases same : id = data.playerId
      · subst same
        rw [if_pos rfl, found] at written
        rw [found]
        exact written ▸ .disconnected now none (leaves.trans (decide_eq_true rfl))
      · exact .of_eq none (.inl (leaves.trans (decide_eq_false (Ne.symm same))))
          (written.trans (if_neg same))

theorem of_enterZone {manager : GameManager} {data : EnterZoneCommandData} {sender : SessionId}
    {sessionFound : Bool} {spawnPosition : Vec3} {now later : TimePoint} {delivered : List Bool}
    (event_eq : moment.event = .processGameCommand ⟨.enterZone data, sender⟩ sessionFound
      spawnPosition now later delivered) :
    InputChange manager.config id moment (manager.world.getPlayer id)
      ((manager.processGameCommand ⟨.enterZone data, sender⟩ sessionFound spawnPosition now
        later).1.world.getPlayer id) := by
  have none : moment.acceptedInput? id = none := by simp only [Moment.acceptedInput?, event_eq]
  have stays : moment.disconnects id = false := by simp only [Moment.disconnects, event_eq]
  have outcome := manager.processGameCommand_outcome ⟨.enterZone data, sender⟩ sessionFound
    spawnPosition now later
  generalize manager.processGameCommand ⟨.enterZone data, sender⟩ sessionFound spawnPosition now
    later = result at outcome ⊢
  cases outcome with
  | dropped => exact .of_eq none (.inl stays) rfl
  | input payload => cases payload
  | @reentered data player payload registered found inactive =>
      have written := GameManager.getPlayer_withReentered manager data player.position now id
      by_cases same : id = data.playerId
      · subst same
        rw [if_pos rfl, found, Option.map_some] at written
        rw [found, GameManager.announceEntry, written]
        exact .kept none stays rfl rfl rfl rfl fun _ => rfl
      · exact .of_eq none (.inl stays) (written.trans (if_neg same))
  | @spawned data payload registered absent =>
      have written := GameManager.getPlayer_withSpawned manager data spawnPosition id
      by_cases same : id = data.playerId
      · subst same
        rw [if_pos rfl] at written
        rw [absent, GameManager.announceEntry, written]
        exact .spawned none rfl rfl rfl
      · exact .of_eq none (.inl stays) (written.trans (if_neg same))
  | disconnected payload => cases payload

/-- A player without velocity is moved nowhere. -/
theorem of_moved {player : Player} {deltaTime : ℚ} (none : moment.acceptedInput? id = none)
    (stays : moment.disconnects id = false) :
    InputChange config id moment (some player)
      (some (GameManager.moved config deltaTime player)) := by
  unfold GameManager.moved
  split
  · refine .kept none stays rfl rfl rfl rfl fun motionless => ?_
    change player.position + player.velocity * deltaTime = player.position
    rw [motionless]
    change (⟨player.position.x + 0 * deltaTime, player.position.y + 0 * deltaTime,
      player.position.z + 0 * deltaTime⟩ : Vec3) = player.position
    simp only [zero_mul, add_zero]
  · exact .of_eq none (.inl stays) rfl

end InputChange

/-- Only commands are inputs or disconnects. -/
theorem Moment.silent_of_no_command {moment : Moment} (noCommand : moment.event.command? = none)
    (id : PlayerId) : moment.acceptedInput? id = none ∧ moment.disconnects id = false := by
  cases event_eq : moment.event with
  | processGameCommand =>
      rw [event_eq] at noCommand
      cases noCommand
  | updateWorld | sendWorldSnapshots | flushAllBatches | rehash =>
      simp only [acceptedInput?, disconnects, event_eq, and_self]

theorem Moment.Happens.inputChange {before after : GameManager} {moment : Moment}
    (happens : moment.Happens before after) (id : PlayerId) :
    InputChange before.config id moment (before.world.getPlayer id) (after.world.getPlayer id) := by
  obtain rfl := happens.after_eq_step
  have valid := happens.valid
  cases event_eq : moment.event with
  | processGameCommand command sessionFound spawnPosition now later delivered =>
      obtain ⟨payload, sender⟩ := command
      cases payload with
      | playerInput data => exact .of_input happens.before_eq event_eq
      | enterZone data => exact .of_enterZone event_eq
      | playerDisconnect data => exact .of_disconnect event_eq
      | playerSpawn data =>
          exact .of_eq (by simp only [acceptedInput?, event_eq])
            (.inl (by simp only [disconnects, event_eq])) rfl
  | updateWorld deltaTime =>
      obtain ⟨none, stays⟩ := silent_of_no_command (by rw [event_eq]; rfl) id
      rw [GameManager.step, GameManager.getPlayer_updateWorld]
      cases before.world.getPlayer id with
      | none => exact .absent none
      | some player => exact .of_moved none stays
  | sendWorldSnapshots serverTime =>
      obtain ⟨none, stays⟩ := silent_of_no_command (by rw [event_eq]; rfl) id
      have scene := GameManager.sendWorldSnapshots_sameScene before serverTime
      exact .of_eq none (.inl stays) (congrArg (World.getPlayer · id) scene.world_eq)
  | flushAllBatches delivered =>
      obtain ⟨none, stays⟩ := silent_of_no_command (by rw [event_eq]; rfl) id
      exact .of_eq none (.inl stays) rfl
  | rehash players playerBatches =>
      obtain ⟨none, stays⟩ := silent_of_no_command (by rw [event_eq]; rfl) id
      rw [event_eq] at valid
      exact .of_eq none (.inl stays) (valid.1.find?_eq id)

/-! ## Admission -/

def acceptedInputs (id : PlayerId) (moments : List Moment) : List AcceptedInput :=
  moments.filterMap (Moment.acceptedInput? id)

/-- The clock readings that the moment takes: one for the rate check of a player that is there, a
second one for an input that passes, and one for a disconnect. -/
def Moment.clockReadings (moment : Moment) : List TimePoint :=
  match moment.event with
  | .processGameCommand ⟨.playerInput data, _⟩ sessionFound _ now later _ =>
      if sessionFound = true ∧ (moment.before.world.getPlayer data.playerId).isSome = true then
        if moment.before.Accepts data now then [now, later] else [now]
      else []
  | .processGameCommand ⟨.playerDisconnect data, _⟩ _ _ now _ _ =>
      if (moment.before.world.getPlayer data.playerId).isSome = true then [now] else []
  | _ => []

/-- The clock never goes back. -/
def Nondecreasing (moments : List Moment) : Prop :=
  (moments.flatMap Moment.clockReadings).Pairwise (· ≤ ·)

/-- An input command that is not accepted. -/
def Moment.RejectsInput (moment : Moment) : Prop :=
  ∃ data sender sessionFound spawnPosition now later delivered,
    moment.event = .processGameCommand ⟨.playerInput data, sender⟩ sessionFound spawnPosition now
        later delivered ∧
      moment.acceptedInput? data.playerId = none

theorem Moment.clockReadings_of_accepted {id : PlayerId} {moment : Moment} {input : AcceptedInput}
    (accepted : moment.acceptedInput? id = some input) :
    moment.clockReadings = [input.checked, input.stored] := by
  unfold acceptedInput? at accepted
  split at accepted
  · next data sender sessionFound spawnPosition now later delivered event_eq =>
      split at accepted
      · next passes =>
          cases accepted
          obtain ⟨-, registered, accepts⟩ := passes
          have ⟨player, found, _⟩ := accepts
          simp only [clockReadings, event_eq, registered, found, accepts, Option.isSome_some,
            and_self, ↓reduceIte]
      · cases accepted
  · cases accepted

theorem Nondecreasing.checked_le_stored {moments : List Moment} (clock : Nondecreasing moments)
    {id : PlayerId} {moment : Moment} (member : moment ∈ moments) {input : AcceptedInput}
    (accepted : moment.acceptedInput? id = some input) : input.checked ≤ input.stored := by
  have sorted := (List.pairwise_flatMap.mp clock).1 moment member
  rw [Moment.clockReadings_of_accepted accepted] at sorted
  simpa using sorted

/-- Truncation to whole milliseconds lets nothing pass early. -/
theorem le_of_isInputAllowed {player : Player} {now : TimePoint}
    (allowed : player.isInputAllowed now = true) : player.lastInputTime + 33000000 ≤ now := by
  have whole : (33 : Int) ≤ (now - player.lastInputTime).tdiv 1000000 := of_decide_eq_true allowed
  by_contra early
  have short : now - player.lastInputTime ≤ 32999999 := Int.le_of_lt_add_one (by linarith)
  have truncated : (now - player.lastInputTime).tdiv 1000000 ≤ Int.tdiv 32999999 1000000 :=
    Int.tdiv_le_tdiv (by decide) short
  exact absurd (whole.trans truncated) (by decide)

/-- What holds between any two accepted inputs of a player, from what each of them leaves as the
last sequence number and the last input time. -/
theorem acceptedInputs_pairwise {id : PlayerId} (good : Moment → Prop)
    (bound : AcceptedInput → UInt32 → TimePoint → Prop)
    (related : AcceptedInput → AcceptedInput → Prop)
    (relates : ∀ {earlier input sequence time}, bound earlier sequence time →
      time + 33000000 ≤ input.checked → sequence < input.data.sequenceNumber →
      related earlier input)
    (kept : ∀ {moment earlier input}, good moment → moment.acceptedInput? id = some input →
      related earlier input → bound earlier input.data.sequenceNumber input.stored)
    (recorded : ∀ {moment input}, good moment → moment.acceptedInput? id = some input →
      bound input input.data.sequenceNumber input.stored)
    (reset : ∀ {moment earlier sequence time}, good moment → moment.disconnects id = true →
      bound earlier sequence time → bound earlier 0 time)
    {start finish : GameManager} {moments : List Moment}
    (run : Run Moment.Happens start moments finish) (areGood : ∀ moment ∈ moments, good moment) :
    (acceptedInputs id moments).Pairwise related := by
  refine (run.with_labels good areGood).pairwise_emitted (Moment.acceptedInput? id)
    (fun manager input => ∃ player, manager.world.getPlayer id = some player ∧
      bound input player.lastInputSequence player.lastInputTime) related ?_ ?_ ?_
  · intro before moment after earlier input taken accepted remembered
    obtain ⟨player, found, held⟩ := remembered
    have change := taken.1.inputChange id
    rw [found] at change
    generalize after.world.getPlayer id = entry at change
    cases change with
    | input other isAccepted stays allowed newer =>
        cases accepted.symm.trans isAccepted
        exact relates held (le_of_isInputAllowed allowed) newer
    | kept none => cases accepted.symm.trans none
    | disconnected now none => cases accepted.symm.trans none
  · intro before moment after earlier taken remembered
    obtain ⟨player, found, held⟩ := remembered
    have change := taken.1.inputChange id
    rw [found] at change
    generalize after.world.getPlayer id = entry at change ⊢
    cases change with
    | input other isAccepted stays allowed newer =>
        exact ⟨_, rfl,
          kept taken.2 isAccepted (relates held (le_of_isInputAllowed allowed) newer)⟩
    | kept none stays velocity_eq flags_eq sequence_eq time_eq =>
        refine ⟨_, rfl, ?_⟩
        rw [sequence_eq, time_eq]
        exact held
    | disconnected now none leaves => exact ⟨_, rfl, reset taken.2 leaves held⟩
  · intro before moment after input taken accepted
    have change := taken.1.inputChange id
    generalize before.world.getPlayer id = entry at change
    generalize after.world.getPlayer id = later at change ⊢
    cases change with
    | input other isAccepted =>
        cases accepted.symm.trans isAccepted
        exact ⟨_, rfl, recorded taken.2 isAccepted⟩
    | absent none | spawned none | kept none | disconnected _ none =>
        cases accepted.symm.trans none

/-- The inputs of a run without a disconnect of the player have increasing sequence numbers. -/
theorem sequenceNumbers_increase {start finish : GameManager} {moments : List Moment}
    {id : PlayerId} (run : Run Moment.Happens start moments finish)
    (stays : ∀ moment ∈ moments, moment.disconnects id = false) :
    (acceptedInputs id moments).Pairwise fun earlier later =>
      earlier.data.sequenceNumber < later.data.sequenceNumber := by
  refine acceptedInputs_pairwise (fun moment => moment.disconnects id = false)
    (fun earlier sequence _ => earlier.data.sequenceNumber ≤ sequence) _ ?_ ?_ ?_ ?_ run stays
  · exact fun bound _ newer => UInt32.lt_of_le_of_lt bound newer
  · exact fun _ _ less => UInt32.le_of_lt less
  · exact fun _ _ => UInt32.le_refl _
  · intro moment earlier sequence time stays leaves
    cases stays.symm.trans leaves

/-- Any two inputs of a player were checked 33 ms apart or more. The disconnect does not touch the
last input time. -/
theorem checks_spaced {start finish : GameManager} {moments : List Moment} {id : PlayerId}
    (run : Run Moment.Happens start moments finish) (clock : Nondecreasing moments) :
    (acceptedInputs id moments).Pairwise fun earlier later =>
      earlier.checked + 33000000 ≤ later.checked := by
  refine acceptedInputs_pairwise
    (fun moment => ∀ input, moment.acceptedInput? id = some input → input.checked ≤ input.stored)
    (fun earlier _ time => earlier.checked ≤ time) _ ?_ ?_ ?_ ?_ run
    fun moment member input accepted => clock.checked_le_stored member accepted
  · intro earlier input sequence time bound allowed newer
    linarith
  · intro moment earlier input forward accepted spaced
    have later := forward input accepted
    linarith
  · exact fun forward accepted => forward _ accepted
  · exact fun _ _ bound => bound

/-! ## Counting -/

/-- Values that are spaced and do not exceed a bound are few. -/
theorem spaced_length_le {gap first upper : ℚ} {rest : List ℚ}
    (spaced : (first :: rest).Pairwise fun earlier later => earlier + gap ≤ later)
    (below : ∀ value ∈ first :: rest, value ≤ upper) : first + rest.length * gap ≤ upper := by
  induction rest generalizing first with
  | nil => simpa using below first List.mem_cons_self
  | cons second rest ih =>
      obtain ⟨apart, others⟩ := List.pairwise_cons.mp spaced
      have next := ih others fun value member => below value (List.mem_cons_of_mem _ member)
      have step := apart second List.mem_cons_self
      push_cast [List.length_cons]
      linarith

/-- At most one more than the number of whole gaps that fit into a window. -/
theorem spaced_count_le {gap start width : ℚ} (positive : 0 < gap) (nonneg : 0 ≤ width)
    {values : List ℚ} (spaced : values.Pairwise fun earlier later => earlier + gap ≤ later)
    (inside : ∀ value ∈ values, start ≤ value ∧ value ≤ start + width) :
    (values.length : ℤ) ≤ ⌊width / gap⌋ + 1 := by
  cases values with
  | nil =>
      have fits : 0 ≤ ⌊width / gap⌋ := Int.floor_nonneg.mpr (div_nonneg nonneg positive.le)
      simp only [List.length_nil, Nat.cast_zero]
      omega
  | cons first rest =>
      have last := spaced_length_le spaced fun value member => (inside value member).2
      have start_le := (inside first List.mem_cons_self).1
      have fits : ((rest.length : ℤ) : ℚ) ≤ width / gap := by
        rw [le_div_iff₀ positive]
        push_cast
        linarith
      have whole := Int.le_floor.mpr fits
      push_cast [List.length_cons]
      omega

/-- The inputs that were checked within `width` milliseconds from `start`, both ends included. -/
def checkedWithin (start width : ℚ) (inputs : List AcceptedInput) : List AcceptedInput :=
  inputs.filter fun input =>
    start ≤ input.checked ∧ (input.checked : ℚ) ≤ start + width * 1000000

theorem length_checkedWithin_le {inputs : List AcceptedInput}
    (spaced : inputs.Pairwise fun earlier later => earlier.checked + 33000000 ≤ later.checked)
    (start : ℚ) {width : ℚ} (nonneg : 0 ≤ width) :
    ((checkedWithin start width inputs).length : ℤ) ≤ ⌊width / 33⌋ + 1 := by
  let readings := (checkedWithin start width inputs).map fun input => (input.checked : ℚ)
  have apart : readings.Pairwise fun earlier later => earlier + 33000000 ≤ later := by
    refine List.pairwise_map.mpr ((spaced.sublist List.filter_sublist).imp ?_)
    intro earlier later apart
    exact_mod_cast apart
  have inside : ∀ reading ∈ readings, start ≤ reading ∧ reading ≤ start + width * 1000000 := by
    intro reading member
    obtain ⟨input, kept, rfl⟩ := List.mem_map.mp member
    exact of_decide_eq_true (List.mem_filter.mp kept).2
  have count := spaced_count_le (by norm_num) (by positivity) apart inside
  have scaled : width * 1000000 / 33000000 = width / 33 := by ring
  rw [scaled, List.length_map] at count
  exact count

theorem Moment.Happens.world_of_rejectsInput {before after : GameManager} {moment : Moment}
    (happens : moment.Happens before after) (rejects : moment.RejectsInput) (id : PlayerId) :
    after.world.getPlayer id = before.world.getPlayer id := by
  obtain ⟨data, sender, sessionFound, spawnPosition, now, later, delivered, event_eq, none⟩ := rejects
  have refused : ¬ (sessionFound = true ∧ before.Accepts data now) := by
    intro accepts
    simp only [acceptedInput?, event_eq, happens.before_eq, accepts, and_self, ↓reduceIte,
      reduceCtorEq] at none
  rw [happens.after_eq_step, event_eq, GameManager.step,
    GameManager.processGameCommand_of_not_accepts refused]

/-- Between two disconnects the sequence numbers of a player's accepted inputs increase, over its
whole life the checks are 33 ms apart, and an input that is refused changes no player. -/
theorem input_admission {config : GameConfig} {moments : List Moment} {finish : GameManager}
    (trace : Trace config moments finish) (clock : Nondecreasing moments) (id : PlayerId) :
    (∀ front between back, moments = front ++ between ++ back →
      (∀ moment ∈ between, moment.disconnects id = false) →
      (acceptedInputs id between).Pairwise fun earlier later =>
        earlier.data.sequenceNumber < later.data.sequenceNumber) ∧
    ((acceptedInputs id moments).Pairwise fun earlier later =>
      earlier.checked + 33 * 1000000 ≤ later.checked) ∧
    (∀ start width : ℚ, 0 ≤ width →
      ((checkedWithin start width (acceptedInputs id moments)).length : ℤ) ≤ ⌊width / 33⌋ + 1) ∧
    ∀ moment ∈ moments, moment.RejectsInput → ∀ other,
      moment.after.world.getPlayer other = moment.before.world.getPlayer other := by
  have spaced : (acceptedInputs id moments).Pairwise fun earlier later =>
      earlier.checked + 33000000 ≤ later.checked := by
    obtain ⟨start, -, run⟩ := trace
    exact checks_spaced run clock
  refine ⟨?_, spaced, fun start width nonneg => length_checkedWithin_le spaced start nonneg, ?_⟩
  · intro front between back split stays
    obtain ⟨start, -, run⟩ := trace
    subst split
    obtain ⟨middle, run, -⟩ := run.split
    obtain ⟨_, -, run⟩ := run.split
    exact sequenceNumbers_increase run stays
  · intro moment member rejects other
    obtain ⟨_, -, happens⟩ := trace.of_mem member
    exact happens.world_of_rejectsInput rejects other

/-- A player that sends, reconnects and sends again: the sequence numbers start over, the rate
limit does not. -/
theorem input_admission_of_reconnect :
    ∃ moments finish, Trace {} moments finish ∧ Nondecreasing moments ∧
      (acceptedInputs 1 moments).map (fun input => (input.data.sequenceNumber, input.checked)) =
        [(5, 100000000), (1, 133000500)] ∧
      ((checkedWithin 100000000 32 (acceptedInputs 1 moments)).length : ℤ) ≤ ⌊(32 : ℚ) / 33⌋ + 1 := by
  let events : List Event := [
    .enterZone 1 7 ⟨50, 50, 0⟩ [],
    .processGameCommand ⟨.playerInput { playerId := 1, inputFlags := 8, sequenceNumber := 5 }, 7⟩
      true ⟨50, 50, 0⟩ 100000000 100000500 [],
    .processGameCommand ⟨.playerDisconnect { playerId := 1 }, 7⟩ false ⟨50, 50, 0⟩ 110000000 0 [],
    .enterZone 1 8 ⟨60, 60, 0⟩ [],
    .processGameCommand ⟨.playerInput { playerId := 1, inputFlags := 0, sequenceNumber := 1 }, 8⟩
      true ⟨50, 50, 0⟩ 133000000 0 [],
    .processGameCommand ⟨.playerInput { playerId := 1, inputFlags := 0, sequenceNumber := 1 }, 8⟩
      true ⟨50, 50, 0⟩ 133000500 133000500 []]
  have executed : (trace? {} events).any (fun result =>
      decide ((result.1.flatMap Moment.clockReadings).Pairwise (· ≤ ·) ∧
        (acceptedInputs 1 result.1).map (fun input => (input.data.sequenceNumber, input.checked)) =
          [(5, 100000000), (1, 133000500)])) = true := by decide +kernel
  obtain ⟨⟨moments, finish⟩, followed, checked⟩ := (Option.any_eq_true _ _).mp executed
  obtain ⟨clock, accepted⟩ := of_decide_eq_true checked
  have trace := trace_of_trace? followed
  obtain ⟨-, -, counted, -⟩ := input_admission trace clock 1
  exact ⟨moments, finish, trace, clock, accepted, counted 100000000 32 (by norm_num)⟩

end CppMMO.Game.Managers
