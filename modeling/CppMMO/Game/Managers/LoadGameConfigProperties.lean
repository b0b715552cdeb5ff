import CppMMO.Game.Managers.GameManagerProperties
import CppMMO.Game.Managers.LoadGameConfig

/-! What a broken configuration leaves behind, and what an accepted one can be used for. -/

set_option autoImplicit false

namespace CppMMO.Game.Managers

open CppMMO.Lib CppMMO.Protocol

/-! ## The loading, field by field -/

theorem run_assign_bind {Value : Type} (read : Except Fault Value)
    (write : Value → Parameters → Parameters) (next : Unit → Loading Unit) (members : Parameters) :
    (assign read write >>= next).run.run members =
      match read with
      | .error fault => (.error fault, members)
      | .ok value => (next ()).run.run (write value members) := by
  cases read with
  | error fault => rfl
  | ok value => rfl

theorem run_assign {Value : Type} (read : Except Fault Value)
    (write : Value → Parameters → Parameters) (members : Parameters) :
    (assign read write).run.run members =
      match read with
      | .error fault => (.error fault, members)
      | .ok value => (.ok (), write value members) := by
  cases read with
  | error fault => rfl
  | ok value => rfl

theorem run_get_bind (next : Parameters → Loading Unit) (members : Parameters) :
    (get >>= next : Loading Unit).run.run members = (next members).run.run members := rfl

/-- What the fields of a document were read as. -/
structure Readings where
  aoiRange : Except Fault ℚ
  chatRange : Except Fault ℚ
  moveSpeed : Except Fault ℚ
  tickRate : Except Fault Int
  mapWidth : Except Fault ℚ
  mapHeight : Except Fault ℚ
  commandBatchSize : Except Fault Int

def readings (toFloat : ℚ → Option ℚ) (config : Json) : Readings where
  aoiRange := floatField toFloat config "gameplay" "aoi_range"
  chatRange := floatField toFloat config "gameplay" "chat_range"
  moveSpeed := floatField toFloat config "gameplay" "move_speed"
  tickRate := intField config "gameplay" "tick_rate"
  mapWidth := floatField toFloat config "map" "width"
  mapHeight := floatField toFloat config "map" "height"
  commandBatchSize := batchSizeField config

/-- Every way the loading of a document can end, with the members as they are then. -/
inductive Loaded (fields : Readings) : Except Fault Unit × Parameters → Prop where
  | aoiRange {fault : Fault} (failed : fields.aoiRange = .error fault) :
      Loaded fields (.error fault, {})
  | chatRange {fault : Fault} {aoiRange : ℚ} (first : fields.aoiRange = .ok aoiRange)
      (failed : fields.chatRange = .error fault) :
      Loaded fields (.error fault, { aoiRange })
  | moveSpeed {fault : Fault} {aoiRange chatRange : ℚ} (first : fields.aoiRange = .ok aoiRange)
      (second : fields.chatRange = .ok chatRange) (failed : fields.moveSpeed = .error fault) :
      Loaded fields (.error fault, { aoiRange, chatRange })
  | tickRate {fault : Fault} {aoiRange chatRange moveSpeed : ℚ}
      (first : fields.aoiRange = .ok aoiRange) (second : fields.chatRange = .ok chatRange)
      (third : fields.moveSpeed = .ok moveSpeed) (failed : fields.tickRate = .error fault) :
      Loaded fields (.error fault, { aoiRange, chatRange, moveSpeed })
  | division {aoiRange chatRange moveSpeed : ℚ} (first : fields.aoiRange = .ok aoiRange)
      (second : fields.chatRange = .ok chatRange) (third : fields.moveSpeed = .ok moveSpeed)
      (zero : fields.tickRate = .ok 0) :
      Loaded fields (.error .undefined, { aoiRange, chatRange, moveSpeed, tickRate := 0 })
  | mapWidth {fault : Fault} {aoiRange chatRange moveSpeed : ℚ} {tickRate : Int}
      (first : fields.aoiRange = .ok aoiRange) (second : fields.chatRange = .ok chatRange)
      (third : fields.moveSpeed = .ok moveSpeed) (fourth : fields.tickRate = .ok tickRate)
      (nonzero : tickRate ≠ 0) (failed : fields.mapWidth = .error fault) :
      Loaded fields (.error fault, { aoiRange, chatRange, moveSpeed, tickRate
                                     tickDuration := Int.tdiv 1000 tickRate })
  | mapHeight {fault : Fault} {aoiRange chatRange moveSpeed mapWidth : ℚ} {tickRate : Int}
      (first : fields.aoiRange = .ok aoiRange) (second : fields.chatRange = .ok chatRange)
      (third : fields.moveSpeed = .ok moveSpeed) (fourth : fields.tickRate = .ok tickRate)
      (nonzero : tickRate ≠ 0) (fifth : fields.mapWidth = .ok mapWidth)
      (failed : fields.mapHeight = .error fault) :
      Loaded fields (.error fault, { aoiRange, chatRange, moveSpeed, tickRate, mapWidth
                                     tickDuration := Int.tdiv 1000 tickRate })
  | commandBatchSize {fault : Fault} {aoiRange chatRange moveSpeed mapWidth mapHeight : ℚ}
      {tickRate : Int} (first : fields.aoiRange = .ok aoiRange)
      (second : fields.chatRange = .ok chatRange) (third : fields.moveSpeed = .ok moveSpeed)
      (fourth : fields.tickRate = .ok tickRate) (nonzero : tickRate ≠ 0)
      (fifth : fields.mapWidth = .ok mapWidth) (sixth : fields.mapHeight = .ok mapHeight)
      (failed : fields.commandBatchSize = .error fault) :
      Loaded fields (.error fault, { aoiRange, chatRange, moveSpeed, tickRate, mapWidth, mapHeight
                                     tickDuration := Int.tdiv 1000 tickRate })
  | all {aoiRange chatRange moveSpeed mapWidth mapHeight : ℚ} {tickRate commandBatchSize : Int}
      (first : fields.aoiRange = .ok aoiRange) (second : fields.chatRange = .ok chatRange)
      (third : fields.moveSpeed = .ok moveSpeed) (fourth : fields.tickRate = .ok tickRate)
      (nonzero : tickRate ≠ 0) (fifth : fields.mapWidth = .ok mapWidth)
      (sixth : fields.mapHeight = .ok mapHeight)
      (seventh : fields.commandBatchSize = .ok commandBatchSize) :
      Loaded fields (.ok (), { aoiRange, chatRange, moveSpeed, tickRate, mapWidth, mapHeight
                               tickDuration := Int.tdiv 1000 tickRate, commandBatchSize })

theorem loaded_loadDocument (toFloat : ℚ → Option ℚ) (config : Json) :
    Loaded (readings toFloat config) ((loadDocument toFloat config).run.run {}) := by
  simp only [loadDocument, run_assign_bind, run_get_bind, run_assign]
  cases first : floatField toFloat config "gameplay" "aoi_range" with
  | error fault => exact .aoiRange first
  | ok aoiRange =>
      cases second : floatField toFloat config "gameplay" "chat_range" with
      | error fault => exact .chatRange first second
      | ok chatRange =>
          cases third : floatField toFloat config "gameplay" "move_speed" with
          | error fault => exact .moveSpeed first second third
          | ok moveSpeed =>
              cases fourth : intField config "gameplay" "tick_rate" with
              | error fault => exact .tickRate first second third fourth
              | ok tickRate =>
                  simp only [ticksToMillis]
                  by_cases zero : tickRate = 0
                  · subst zero
                    exact .division first second third fourth
                  · simp only [zero, ↓reduceIte]
                    cases fifth : floatField toFloat config "map" "width" with
                    | error fault => exact .mapWidth first second third fourth zero fifth
                    | ok mapWidth =>
                        cases sixth : floatField toFloat config "map" "height" with
                        | error fault =>
                            exact .mapHeight first second third fourth zero fifth sixth
                        | ok mapHeight =>
                            cases seventh : batchSizeField config with
                            | error fault =>
                                exact .commandBatchSize first second third fourth zero fifth sixth
                                  seventh
                            | ok commandBatchSize =>
                                exact .all first second third fourth zero fifth sixth seventh

/-! ## All or nothing -/

/-- Whether each member, in the order of assignment, is assigned its initializer again. -/
def Readings.areDefaults (fields : Readings) : List (Except Fault Bool) := [
  fields.aoiRange.map (· = ({} : Parameters).aoiRange),
  fields.chatRange.map (· = ({} : Parameters).chatRange),
  fields.moveSpeed.map (· = ({} : Parameters).moveSpeed),
  fields.tickRate.map (· = ({} : Parameters).tickRate),
  (fields.tickRate.bind ticksToMillis).map (· = ({} : Parameters).tickDuration),
  fields.mapWidth.map (· = ({} : Parameters).mapWidth),
  fields.mapHeight.map (· = ({} : Parameters).mapHeight),
  fields.commandBatchSize.map (· = ({} : Parameters).commandBatchSize)]

/-- The first field that is not read throws an exception. -/
def Throws : List (Except Fault Bool) → Prop
  | [] => False
  | .error fault :: _ => fault = .exception
  | .ok _ :: rest => Throws rest

/-- A field that is read before one that throws has its default value. -/
def DefaultsBeforeThrow : List (Except Fault Bool) → Prop
  | [] => True
  | .error _ :: _ => True
  | .ok isDefault :: rest => (Throws rest → isDefault = true) ∧ DefaultsBeforeThrow rest

theorem Ending.of_eq_caught_iff (result : Except Fault Unit) :
    Ending.of result = .caught ↔ result = .error .exception := by
  cases result with
  | ok value => simp [Ending.of]
  | error fault => cases fault <;> simp [Ending.of]

theorem loadParsed_keeps_defaults_iff (toFloat : ℚ → Option ℚ) (config : Json) :
    ((loadParsed toFloat config).1 = .caught → (loadParsed toFloat config).2 = {}) ↔
      DefaultsBeforeThrow (readings toFloat config).areDefaults := by
  have loaded := loaded_loadDocument toFloat config
  simp only [loadParsed]
  generalize (loadDocument toFloat config).run.run {} = ended at loaded ⊢
  generalize readings toFloat config = fields at loaded ⊢
  rw [Ending.of_eq_caught_iff]
  cases loaded with
  | aoiRange failed =>
      simp [Readings.areDefaults, DefaultsBeforeThrow, failed, Except.map]
  | chatRange first failed =>
      simp [Readings.areDefaults, DefaultsBeforeThrow, Throws, first, failed, Except.map]
  | moveSpeed first second failed =>
      simp [Readings.areDefaults, DefaultsBeforeThrow, Throws, first, second, failed, Except.map,
        imp_and]
  | tickRate first second third failed =>
      simp [Readings.areDefaults, DefaultsBeforeThrow, Throws, first, second, third, failed,
        Except.map, imp_and]
  | division first second third zero =>
      simp [Readings.areDefaults, DefaultsBeforeThrow, Throws, first, second, third, zero,
        Except.map, Except.bind, ticksToMillis]
  | mapWidth first second third fourth nonzero failed =>
      simp [Readings.areDefaults, DefaultsBeforeThrow, Throws, first, second, third, fourth, nonzero,
        failed, Except.map, Except.bind, ticksToMillis, imp_and]
  | mapHeight first second third fourth nonzero fifth failed =>
      simp [Readings.areDefaults, DefaultsBeforeThrow, Throws, first, second, third, fourth, nonzero,
        fifth, failed, Except.map, Except.bind, ticksToMillis, imp_and]
  | commandBatchSize first second third fourth nonzero fifth sixth failed =>
      simp [Readings.areDefaults, DefaultsBeforeThrow, Throws, first, second, third, fourth, nonzero,
        fifth, sixth, failed, Except.map, Except.bind, ticksToMillis, imp_and]
  | all first second third fourth nonzero fifth sixth seventh =>
      simp [Readings.areDefaults, DefaultsBeforeThrow, Throws, first, second, third, fourth, nonzero,
        fifth, sixth, seventh, Except.map, Except.bind, ticksToMillis]

/-- Who ends in the exception handler has the defaults. -/
def AllOrNothing (toFloat : ℚ → Option ℚ) (parse : Bytes → Except String Json)
    (file : Option Bytes) : Prop :=
  (loadGameConfig toFloat parse file).1 = .caught → (loadGameConfig toFloat parse file).2 = {}

/-- A file that is missing or cannot be parsed leaves the defaults; a document does so unless it
sets a field to another value before one that throws. -/
theorem allOrNothing_iff (toFloat : ℚ → Option ℚ) (parse : Bytes → Except String Json)
    (file : Option Bytes) :
    AllOrNothing toFloat parse file ↔
      ∀ text ∈ file, ∀ config, parse text = .ok config →
        DefaultsBeforeThrow (readings toFloat config).areDefaults := by
  cases file with
  | none => simp [AllOrNothing, loadGameConfig]
  | some text =>
      cases parsed : parse text with
      | error what => simp [AllOrNothing, loadGameConfig, parsed]
      | ok config =>
          have keeps := loadParsed_keeps_defaults_iff toFloat config
          simpa [AllOrNothing, loadGameConfig, parsed] using keeps

/-- `aoi_range` is set to 30, and then `chat_range` is missing. -/
theorem not_allOrNothing_of_missing_field :
    loadGameConfig some (fun _ => .ok (.object [("gameplay", .object [("aoi_range", .integer 30)])]))
        (some "\x7b\"gameplay\":\x7b\"aoi_range\":30\x7d\x7d".toUTF8.toList) =
      (.caught, { aoiRange := 30 }) ∧
    ¬ AllOrNothing some
      (fun _ => .ok (.object [("gameplay", .object [("aoi_range", .integer 30)])]))
      (some "\x7b\"gameplay\":\x7b\"aoi_range\":30\x7d\x7d".toUTF8.toList) := by
  have loaded : loadGameConfig some
      (fun _ => .ok (.object [("gameplay", .object [("aoi_range", .integer 30)])]))
      (some "\x7b\"gameplay\":\x7b\"aoi_range\":30\x7d\x7d".toUTF8.toList) =
        (.caught, { aoiRange := 30 }) := by decide +kernel
  refine ⟨loaded, fun keeps => ?_⟩
  rw [AllOrNothing, loaded] at keeps
  exact absurd (keeps rfl) (by decide)

/-! ## Usable configurations -/

/-- The loading is defined, and so is all that the members are used for: the tick, the constructor,
every spawn of every run, and the batches. -/
structure Usable (ended : Ending × Parameters) : Prop where
  isDefined : ended.1 ≠ .undefined
  tickDuration_pos : 0 < ended.2.tickDuration
  quadTree : (Spatial.QuadTree.create? 0 0 ended.2.mapWidth ended.2.mapHeight).isSome = true
  spawnsX : ∃ x, 20 ≤ x ∧ x ≤ ended.2.mapWidth - 20
  spawnsY : ∃ y, 20 ≤ y ∧ y ≤ ended.2.mapHeight - 20
  commandBatchSize_pos : 0 < ended.2.commandBatchSize
  constructed : (GameManager.create? ended.2.gameConfig).isSome = true
  spawns : ∀ moments manager, Trace ended.2.gameConfig moments manager →
    ∃ position, manager.config.Spawns position

/-- The values of the document, as they are converted. -/
structure Readings.Sane (fields : Readings) : Prop where
  aoiRange : fields.aoiRange.isOk = true
  chatRange : fields.chatRange.isOk = true
  moveSpeed : fields.moveSpeed.isOk = true
  tickRate : ∃ tickRate, fields.tickRate = .ok tickRate ∧ 1 ≤ tickRate ∧ tickRate ≤ 1000
  mapWidth : ∃ mapWidth, fields.mapWidth = .ok mapWidth ∧ 40 ≤ mapWidth
  mapHeight : ∃ mapHeight, fields.mapHeight = .ok mapHeight ∧ 40 ≤ mapHeight
  commandBatchSize : ∃ size, fields.commandBatchSize = .ok size ∧ 1 ≤ size

theorem tickDuration_pos_iff {tickRate : Int} (nonzero : tickRate ≠ 0) :
    0 < Int.tdiv 1000 tickRate ↔ 1 ≤ tickRate ∧ tickRate ≤ 1000 := by
  rcases Int.lt_or_gt_of_ne nonzero with negative | positive
  · have nonpos : Int.tdiv 1000 tickRate ≤ 0 :=
      Int.tdiv_nonpos_of_nonneg_of_nonpos (by decide) negative.le
    omega
  · rw [Int.tdiv_eq_ediv_of_nonneg (by decide), Int.lt_iff_add_one_le,
      Int.le_ediv_iff_mul_le positive]
    omega

theorem interval_nonempty_iff (size : ℚ) : (∃ x : ℚ, 20 ≤ x ∧ x ≤ size - 20) ↔ 40 ≤ size := by
  constructor
  · intro nonempty
    obtain ⟨x, low, high⟩ := nonempty
    linarith
  · intro large
    exact ⟨20, le_refl _, by linarith⟩

theorem Trace.config_eq {config : GameConfig} {moments : List Moment} {manager : GameManager}
    (trace : Trace config moments manager) : manager.config = config := by
  apply Trace.preserves (fun manager => manager.config = config) (fun _ => rfl) ?_ trace
  intro before moment after same happens
  rw [happens.after_eq_step, GameManager.step_config, same]

theorem create?_isSome {width height : ℚ} (wide : 40 ≤ width) (high : 40 ≤ height) :
    (Spatial.QuadTree.create? 0 0 width height).isSome = true := by
  have positive : ¬ (width ≤ 0 ∨ height ≤ 0) := by
    rw [not_or]
    constructor <;> linarith
  simp [Spatial.QuadTree.create?, positive]

/-- For members that were all read. -/
theorem usable_iff_of_returned (members : Parameters) :
    Usable (.returned, members) ↔
      0 < members.tickDuration ∧ 40 ≤ members.mapWidth ∧ 40 ≤ members.mapHeight ∧
        1 ≤ members.commandBatchSize := by
  constructor
  · intro usable
    exact ⟨usable.tickDuration_pos, (interval_nonempty_iff _).mp usable.spawnsX,
      (interval_nonempty_iff _).mp usable.spawnsY, usable.commandBatchSize_pos⟩
  · intro condition
    obtain ⟨ticks, wide, high, batch⟩ := condition
    have quadTree := create?_isSome wide high
    have spawnsX := (interval_nonempty_iff _).mpr wide
    have spawnsY := (interval_nonempty_iff _).mpr high
    refine ⟨by simp, ticks, quadTree, spawnsX, spawnsY, batch, ?_, ?_⟩
    · rw [GameManager.create?, Option.isSome_map]
      exact quadTree
    · intro moments manager trace
      obtain ⟨x, xLow, xHigh⟩ := spawnsX
      obtain ⟨y, yLow, yHigh⟩ := spawnsY
      rw [trace.config_eq]
      exact ⟨⟨x, y, 0⟩, xLow, xHigh, yLow, yHigh, rfl⟩

/-- Nothing stops the loading of a sane document. -/
theorem Loaded.of_sane {fields : Readings} {ended : Except Fault Unit × Parameters}
    (loaded : Loaded fields ended) (sane : fields.Sane) : ended.1 = .ok () := by
  have first := sane.aoiRange
  have second := sane.chatRange
  have third := sane.moveSpeed
  obtain ⟨tickRate, fourth, positive, -⟩ := sane.tickRate
  obtain ⟨mapWidth, fifth, -⟩ := sane.mapWidth
  obtain ⟨mapHeight, sixth, -⟩ := sane.mapHeight
  obtain ⟨size, seventh, -⟩ := sane.commandBatchSize
  cases loaded with
  | aoiRange failed =>
      rw [failed] at first
      cases first
  | chatRange _ failed =>
      rw [failed] at second
      cases second
  | moveSpeed _ _ failed =>
      rw [failed] at third
      cases third
  | tickRate _ _ _ failed => cases failed.symm.trans fourth
  | division _ _ _ zero =>
      cases zero.symm.trans fourth
      exact absurd positive (by decide)
  | mapWidth _ _ _ _ _ failed => cases failed.symm.trans fifth
  | mapHeight _ _ _ _ _ _ failed => cases failed.symm.trans sixth
  | commandBatchSize _ _ _ _ _ _ _ failed => cases failed.symm.trans seventh
  | all => rfl

/-- Of the documents that are loaded without an exception, those are usable whose numbers have a
defined conversion, a tick rate from 1 to 1000, a map of 40 by 40 or more, and a batch size of 1 or
more. Nothing of this is checked. -/
theorem usable_iff (toFloat : ℚ → Option ℚ) (config : Json)
    (accepted : (loadParsed toFloat config).1 ≠ .caught) :
    Usable (loadParsed toFloat config) ↔ (readings toFloat config).Sane := by
  have loaded := loaded_loadDocument toFloat config
  simp only [loadParsed] at accepted ⊢
  generalize (loadDocument toFloat config).run.run {} = ended at loaded accepted ⊢
  generalize readings toFloat config = fields at loaded ⊢
  rw [ne_eq, Ending.of_eq_caught_iff] at accepted
  constructor
  · intro usable
    have finished : ended.1 = .ok () := by
      cases result : ended.1 with
      | ok value => rfl
      | error fault =>
          cases fault with
          | exception => exact absurd result accepted
          | undefined => exact absurd (congrArg Ending.of result) usable.isDefined
    cases loaded with
    | all first second third fourth nonzero fifth sixth seventh =>
        obtain ⟨ticks, wide, high, batch⟩ := (usable_iff_of_returned _).mp usable
        exact ⟨by rw [first]; rfl, by rw [second]; rfl, by rw [third]; rfl,
          ⟨_, fourth, (tickDuration_pos_iff nonzero).mp ticks⟩, ⟨_, fifth, wide⟩, ⟨_, sixth, high⟩,
          ⟨_, seventh, batch⟩⟩
    | aoiRange | chatRange | moveSpeed | tickRate | division | mapWidth | mapHeight
    | commandBatchSize => cases finished
  · intro sane
    have finished := loaded.of_sane sane
    cases loaded with
    | all first second third fourth nonzero fifth sixth seventh =>
        obtain ⟨tickRate, readRate, ticks⟩ := sane.tickRate
        obtain ⟨mapWidth, readWidth, wide⟩ := sane.mapWidth
        obtain ⟨mapHeight, readHeight, high⟩ := sane.mapHeight
        obtain ⟨size, readSize, batch⟩ := sane.commandBatchSize
        cases fourth.symm.trans readRate
        cases fifth.symm.trans readWidth
        cases sixth.symm.trans readHeight
        cases seventh.symm.trans readSize
        exact (usable_iff_of_returned _).mpr
          ⟨(tickDuration_pos_iff nonzero).mpr ticks, wide, high, batch⟩
    | aoiRange | chatRange | moveSpeed | tickRate | division | mapWidth | mapHeight
    | commandBatchSize => cases finished

/-- The fields of `config/game_config.json` that are read, with its values but for two. -/
def configDocument (tickRate : Int) (mapWidth : ℚ) : Json :=
  .object [
    ("map", .object [("width", .real mapWidth), ("height", .real 200)]),
    ("gameplay", .object [("chat_range", .real 25), ("aoi_range", .real 30),
      ("move_speed", .real 5), ("tick_rate", .integer tickRate)]),
    ("performance", .object [("command_batch_size", .integer 100)])]

/-- The file of the repository is usable. -/
theorem usable_of_game_config :
    loadParsed some (configDocument 30 200) = (.returned,
        { aoiRange := 30, chatRange := 25, moveSpeed := 5, commandBatchSize := 100 }) ∧
      Usable (loadParsed some (configDocument 30 200)) := by
  have loaded : loadParsed some (configDocument 30 200) = (.returned,
      { aoiRange := 30, chatRange := 25, moveSpeed := 5, commandBatchSize := 100 }) := by
    decide +kernel
  have accepted : (loadParsed some (configDocument 30 200)).1 ≠ .caught := by simp [loaded]
  refine ⟨loaded, (usable_iff some (configDocument 30 200) accepted).mpr ?_⟩
  exact ⟨rfl, rfl, rfl, ⟨30, by decide +kernel, by decide, by decide⟩,
    ⟨200, rfl, by norm_num⟩, ⟨200, rfl, by norm_num⟩, ⟨100, by decide +kernel, by decide⟩⟩

/-- A tick rate of 0 is divided by; a map 30 wide is taken, and has no place to spawn. -/
theorem not_usable_of_unchecked_values :
    (loadParsed some (configDocument 0 200)).1 = .undefined ∧
      ¬ Usable (loadParsed some (configDocument 0 200)) ∧
      (loadParsed some (configDocument 30 30)).1 = .returned ∧
      ¬ Usable (loadParsed some (configDocument 30 30)) := by
  have divided : (loadParsed some (configDocument 0 200)).1 = .undefined := by decide +kernel
  have narrow : loadParsed some (configDocument 30 30) = (.returned,
      { aoiRange := 30, chatRange := 25, moveSpeed := 5, mapWidth := 30, commandBatchSize := 100 }) := by
    decide +kernel
  refine ⟨divided, fun usable => usable.isDefined divided, by rw [narrow], fun usable => ?_⟩
  rw [narrow, usable_iff_of_returned] at usable
  exact absurd usable.2.1 (by norm_num)

end CppMMO.Game.Managers
