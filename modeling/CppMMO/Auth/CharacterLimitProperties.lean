import CppMMO.Auth.AuthControllerProperties

/-! The limit of three characters a user. `CreateCharacter` counts and then inserts, so requests
that have counted and not inserted yet take up room that a later count does not see. -/

set_option autoImplicit false

namespace CppMMO.Auth

open CppMMO.Lib

def Call.createsPlayerOf (userId : Int32) : Call → Bool
  | .createPlayer owner _ => owner = userId
  | _ => false

/-- The requests that are about to create a player of the user. -/
def inserting (pool : Pool) (userId : Int32) : Nat :=
  pool.threads.countP fun thread => thread.rest.next?.any (Call.createsPlayerOf userId)

def owned (database : Database) (userId : Int32) : Nat := (database.playersOf userId).length

/-- A `CreateCharacter` finds room for its user that others have already been promised. -/
def overcommits (pool : Pool) : Label → Bool
  | .advance index (.answers _) =>
      match pool.threads[index]? with
      | none => false
      | some thread =>
          match thread.rest.next? with
          | some (.getPlayersByUserId userId) =>
              thread.request.createsCharacter && decide (owned pool.state userId < 3) &&
                decide (3 ≤ owned pool.state userId + inserting pool userId)
          | _ => false
  | _ => false

def limitedStep (platform : Platform) (pool : Pool) (label : Label) : Option Pool :=
  if overcommits pool label then none else (service platform).step pool label

variable {platform : Platform} {pool after : Pool}

theorem step_of_limitedStep {label : Label} (taken : limitedStep platform pool label = some after) :
    overcommits pool label = false ∧ (service platform).step pool label = some after := by
  unfold limitedStep at taken
  split at taken
  · cases taken
  · next within => exact ⟨by simpa using within, taken⟩

namespace Database

variable {database next : Database}

/-- Only the creation of a player of the user adds to the user's players. -/
theorem Effect.owned_le {made : Call} (effect : Effect platform database made next) (userId : Int32) :
    owned next userId ≤ owned database userId + if made.createsPlayerOf userId then 1 else 0 := by
  cases effect with
  | createPlayer =>
      simp only [owned, playersOf, List.filter_append, List.length_append, Call.createsPlayerOf,
        decide_eq_true_eq]
      split <;> simp [*]
  | deletePlayersByUserId =>
      exact Nat.le_add_right_of_le (List.Sublist.length_le (List.filter_sublist.filter _))
  | deleteUser =>
      exact Nat.le_add_right_of_le (List.Sublist.length_le (List.filter_sublist.filter _))
  | _ => exact Nat.le_add_right _ _

theorem changes_owned {event : Event} (changed : database.changes event = some next) (userId : Int32) :
    owned next userId = owned database userId := by
  cases event with
  | expire key =>
      cases changed
      rfl

end Database

/-- Room is kept for every request that has counted. -/
def Limited (pool : Pool) : Prop := ∀ userId, owned pool.state userId + inserting pool userId ≤ 3

theorem Limited.start (limited : Limited pool) (request : Request) :
    Limited ((service platform).start pool request) := by
  intro userId
  have none : ((serve platform request).next?.any (Call.createsPlayerOf userId)) = false := by
    cases first : (serve platform request).next? with
    | none => rfl
    | some made =>
        have initial := (guarded_serve platform request).next? made first
        cases made with
        | createPlayer => cases initial
        | _ => rfl
  simpa [inserting, Service.start, service, none] using limited userId

/-- A count that finds room is the count of the user's players. -/
theorem owned_lt_of_findsRoom {database next : Database} {made : Call} {outcome : Outcome}
    {answer : made.Answer} {userId : Int32}
    (answered : database.answers platform made outcome = some (answer, next))
    (room : FindsRoom made answer userId) :
    made = .getPlayersByUserId userId ∧ (∃ draw, outcome = .answers draw) ∧
      owned database userId < 3 := by
  cases made with
  | getPlayersByUserId owner =>
      cases answer with
      | none => cases room
      | some rows =>
          obtain ⟨rfl, few⟩ := room
          obtain ⟨draw, isAnswer, performed⟩ := Database.performed_of_answers answered
          refine ⟨rfl, ⟨draw, isAnswer⟩, ?_⟩
          simp only [Database.perform] at performed
          split at performed
          · next listed =>
              cases performed
              rwa [owned, ← listed.1.length_eq]
          · cases performed
  | _ => cases room

/-- The thread that is about to insert counts as one. -/
theorem creates_le_inserting {index : Nat} {thread : Thread} (userId : Int32)
    (there : pool.threads[index]? = some thread) :
    (if thread.rest.next?.any (Call.createsPlayerOf userId) then 1 else 0) ≤ inserting pool userId := by
  split
  · next creates =>
      exact List.countP_pos_iff.mpr ⟨thread, List.mem_of_getElem? there, creates⟩
  · exact Nat.zero_le _

theorem inserting_set {index : Nat} {thread other : Thread} {state : Database} (userId : Int32)
    (there : pool.threads[index]? = some thread) :
    inserting { state, threads := pool.threads.set index other } userId =
      inserting pool userId - (if thread.rest.next?.any (Call.createsPlayerOf userId) then 1 else 0) +
        if other.rest.next?.any (Call.createsPlayerOf userId) then 1 else 0 := by
  obtain ⟨inside, same⟩ := List.getElem?_eq_some_iff.mp there
  simp only [inserting, List.countP_set inside, same]

theorem Limited.step {label : Label} (sound : Sound platform pool) (limited : Limited pool)
    (limitedTaken : limitedStep platform pool label = some after) : Limited after := by
  obtain ⟨within, taken⟩ := step_of_limitedStep limitedTaken
  obtain ⟨request, -, rfl⟩ | ⟨index, outcome, thread, made, next, answer, state, rfl, there, waits, answered,
    rfl⟩ | ⟨event, state, -, changed, rfl⟩ := Service.step_cases taken
  · exact limited.start request
  · intro userId
    have room := limited userId
    have effect := (Database.effect_of_answers answered).owned_le userId
    have counted := creates_le_inserting userId there
    have comesFrom : thread.rest.next? = some made := by rw [waits]; rfl
    rw [inserting_set userId there]
    rw [comesFrom, Option.any_some] at counted ⊢
    by_cases comes : (next answer).next?.any (Call.createsPlayerOf userId) = true
    · -- the request has just found room: nobody else was promised it
      obtain ⟨later, isLater, creates⟩ := (Option.any_eq_true _ _).mp comes
      have allowed := sound.allowed there waits isLater
      cases later with
      | createPlayer owner name =>
          have same : owner = userId := by simpa [Call.createsPlayerOf] using creates
          subst same
          obtain ⟨rfl, ⟨draw, rfl⟩, few⟩ := owned_lt_of_findsRoom answered allowed.2
          have notFull : owned pool.state owner + inserting pool owner < 3 := by
            simpa [overcommits, there, comesFrom, allowed.1, few] using within
          simp only [Call.createsPlayerOf, comes, Bool.false_eq_true, if_false, if_true] at effect ⊢
          omega
      | _ => cases creates
    · simp only [comes, Bool.false_eq_true, if_false]
      omega
  · intro userId
    have room := limited userId
    rw [← Database.changes_owned changed userId] at room
    exact room

theorem character_limit {labels : List Label}
    (run : Run (Taken (limitedStep platform)) { state := {} } labels pool) (userId : Int32) :
    owned pool.state userId ≤ 3 := by
  have initially : Sound platform { state := {} } ∧ Limited { state := {} } :=
    ⟨sound_initially, fun userId => by simp [owned, inserting, Database.playersOf]⟩
  have reached : Sound platform pool ∧ Limited pool := by
    refine run.preserves (fun pool => Sound platform pool ∧ Limited pool) ?_ initially
    intro before label after ⟨sound, limited⟩ taken
    exact ⟨sound.step (step_of_limitedStep taken).2, limited.step sound taken⟩
  exact Nat.le_trans (Nat.le_add_right _ _) (reached.2 userId)

/-- Two requests of one user, each of them past its count before the other inserts. -/
def interleavedCreations (first second : Nat) (rows : List Player) : List Label :=
  [.start (.createCharacter (DotNet.guidText 5) { characterName := "carol" }),
    .start (.createCharacter (DotNet.guidText 5) { characterName := "dave" }),
    .advance first (.answers {}), .advance second (.answers {}),
    .advance first (.answers {}), .advance second (.answers {}),
    .advance first (.answers { rows }), .advance second (.answers { rows }),
    .advance first (.answers { id := 10 }), .advance second (.answers { id := 11 })]

theorem character_limit_two :
    ∃ labels pool, Run (Taken (limitedStep samplePlatform)) { state := {} } labels pool ∧
      owned pool.state 1 = 2 ∧ owned pool.state 1 ≤ 3 := by
  obtain ⟨start, pool, created, run, two⟩ :=
    exists_run_of_execute (limitedStep samplePlatform) (some { state := {} })
      (registers 0 "alice" 1 5 ++ interleavedCreations 1 2 [])
      (fun pool => owned pool.state 1 = 2) (by decide +kernel)
  cases created
  exact ⟨_, pool, run, two, character_limit run 1⟩

/-- With two characters there already, both requests find room for a third. -/
theorem character_limit_exceeded :
    ∃ labels pool, Runs samplePlatform { state := {} } labels pool ∧ owned pool.state 1 = 4 := by
  obtain ⟨start, pool, created, run, four⟩ :=
    exists_run_of_execute (service samplePlatform).step (some { state := {} })
      (registers 0 "alice" 1 5 ++ createsCharacter 1 5 "alice" [] 1 ++
        createsCharacter 2 5 "bob" [sampleRow 1 "alice"] 2 ++
        interleavedCreations 3 4 [sampleRow 1 "alice", sampleRow 2 "bob"])
      (fun pool => owned pool.state 1 = 4) (by decide +kernel)
  cases created
  exact ⟨_, pool, run, four⟩

end CppMMO.Auth
