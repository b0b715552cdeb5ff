import CppMMO.Auth.AuthController
import CppMMO.Auth.DatabaseProperties

/-! Actions call by call, what holds of every run of the auth server, and what `Verify`
answers from what it reads. -/

set_option autoImplicit false

namespace CppMMO.Auth

open CppMMO.Lib

/-! ## Actions call by call -/

section Actions

variable {Value Result : Type}

theorem run_perform_bind (made : Call) (andThen : made.Result → Action Value) :
    (perform made >>= andThen).run =
      .call made fun answer => answer.elim (.done none) fun result => (andThen result).run := by
  change Program.call made _ = _
  congr 1
  funext answer
  cases answer <;> rfl

/-- An action's first call, and what comes of it: an exception ends the action. -/
theorem follows_perform_bind_iff {platform : Platform} {past : List Occurrence} {made : Call}
    {andThen : made.Result → Action Value} {outcome : Option Value} :
    (perform made >>= andThen).run.Follows (Database.answers platform) past (.done outcome) ↔
      ∃ before choice after,
        (past = [⟨before, made, choice, none, after⟩] ∧ outcome = none ∧
          before.answers platform made choice = some (none, after)) ∨
        ∃ result later, past = ⟨before, made, choice, some result, after⟩ :: later ∧
          before.answers platform made choice = some (some result, after) ∧
          (andThen result).run.Follows (Database.answers platform) later (.done outcome) := by
  rw [run_perform_bind, Program.follows_call_iff]
  constructor
  · rintro ⟨before, choice, answer, after, later, rfl, answered, follows⟩
    refine ⟨before, choice, after, ?_⟩
    cases answer with
    | none =>
        obtain ⟨rfl, same⟩ := Program.follows_done_iff.mp follows
        cases same
        exact .inl ⟨rfl, rfl, answered⟩
    | some result => exact .inr ⟨result, later, rfl, answered, follows⟩
  · rintro ⟨before, choice, after, ⟨rfl, rfl, answered⟩ | ⟨result, later, rfl, answered, follows⟩⟩
    · exact ⟨before, choice, none, after, [], rfl, answered, Program.follows_done_iff.mpr ⟨rfl, rfl⟩⟩
    · exact ⟨before, choice, some result, after, later, rfl, answered, follows⟩

theorem follows_pure_iff {platform : Platform} {past : List Occurrence} {value : Value}
    {outcome : Option Value} :
    (pure value : Action Value).run.Follows (Database.answers platform) past (.done outcome) ↔
      past = [] ∧ outcome = some value := by
  have unfolded : (pure value : Action Value).run = .done (some value) := rfl
  rw [unfolded, Program.follows_done_iff, Program.done.injEq, eq_comm (a := some value)]

theorem follows_orElse_pure_iff {platform : Platform} {past : List Occurrence} {action : Action Value}
    {value : Value} {outcome : Option Value} :
    (action <|> pure value).run.Follows (Database.answers platform) past (.done outcome) ↔
      ∃ first, action.run.Follows (Database.answers platform) past (.done first) ∧
        outcome = some (first.getD value) := by
  have unfolded : (action <|> pure value).run =
      action.run >>= fun first => .done (some (first.getD value)) := by
    change action.run >>= _ = _
    congr 1
    funext first
    cases first <;> rfl
  rw [unfolded, Program.follows_bind_iff]
  constructor
  · rintro ⟨front, back, first, rfl, follows, ends⟩
    obtain ⟨rfl, same⟩ := Program.follows_done_iff.mp ends
    cases same
    exact ⟨first, by simpa using follows, rfl⟩
  · rintro ⟨first, follows, rfl⟩
    exact ⟨past, [], first, by simp, follows, Program.follows_done_iff.mpr ⟨rfl, rfl⟩⟩

/-- The action makes the calls of the list, none of which throws, and returns. -/
def Action.Returns (platform : Platform) (action : Action Value) (past : List Occurrence)
    (value : Value) : Prop :=
  action.run.Follows (Database.answers platform) past (.done (some value))

variable {platform : Platform} {past : List Occurrence}

theorem returns_pure_iff {value other : Value} :
    (pure value : Action Value).Returns platform past other ↔ past = [] ∧ value = other := by
  rw [Action.Returns, follows_pure_iff, Option.some.injEq, eq_comm (a := other)]

theorem returns_perform_bind_iff {made : Call} {andThen : made.Result → Action Value} {value : Value} :
    (perform made >>= andThen).Returns platform past value ↔
      ∃ before draw result after later,
        past = ⟨before, made, .answers draw, some result, after⟩ :: later ∧
        before.perform platform draw made = some (some result, after) ∧
        (andThen result).Returns platform later value := by
  rw [Action.Returns, follows_perform_bind_iff]
  constructor
  · rintro ⟨before, choice, after, ⟨-, threw, -⟩ | ⟨result, later, rfl, answered, follows⟩⟩
    · cases threw
    · obtain ⟨draw, rfl, performed⟩ := Database.performed_of_answers answered
      exact ⟨before, draw, result, after, later, rfl, performed, follows⟩
  · rintro ⟨before, draw, result, after, later, rfl, performed, follows⟩
    exact ⟨before, .answers draw, after, .inr ⟨result, later, rfl, performed, follows⟩⟩

/-- An action's result is the response, and an exception is answered by the framework. -/
theorem follows_respond_iff {action : Action ActionResult} {response : Response} :
    (respond action).Follows (Database.answers platform) past (.done response) ↔
      ∃ outcome, action.run.Follows (Database.answers platform) past (.done outcome) ∧
        response = outcome.elim (.problem 500) .result := by
  have unfolded : respond action =
      action.run >>= fun outcome => .done (outcome.elim (.problem 500) .result) := by
    unfold respond
    congr 1
    funext outcome
    cases outcome <;> rfl
  rw [unfolded, Program.follows_bind_iff]
  constructor
  · rintro ⟨front, back, outcome, rfl, first, second⟩
    obtain ⟨rfl, same⟩ := Program.follows_done_iff.mp second
    cases same
    exact ⟨outcome, by simpa using first, rfl⟩
  · rintro ⟨outcome, first, rfl⟩
    exact ⟨past, [], outcome, by simp, first, Program.follows_done_iff.mpr ⟨rfl, rfl⟩⟩

/-- A response other than the framework's own for an exception is an action's result. -/
theorem returns_of_respond {action : Action ActionResult} {response : Response}
    (answered : response ≠ .problem 500)
    (follows : (respond action).Follows (Database.answers platform) past (.done response)) :
    ∃ result, action.Returns platform past result ∧ response = .result result := by
  obtain ⟨outcome, returns, rfl⟩ := follows_respond_iff.mp follows
  cases outcome with
  | none => exact absurd rfl answered
  | some result => exact ⟨result, returns, rfl⟩

variable {allowed : (made : Call) → made.Answer → Call → Prop} {may : Call → Prop}

theorem guarded_perform_bind {made : Call} {andThen : made.Result → Action Value} (first : may made)
    (rest : ∀ result, (andThen result).run.Guarded allowed (allowed made (some result))) :
    (perform made >>= andThen).run.Guarded allowed may := by
  rw [run_perform_bind]
  refine ⟨first, ?_⟩
  intro answer
  cases answer with
  | none => trivial
  | some result => exact rest result

theorem guarded_orElse_pure {action : Action Value} {value : Value}
    (guarded : action.run.Guarded allowed may) :
    (action <|> pure value).run.Guarded allowed may := by
  apply guarded.bind_done
  intro outcome
  cases outcome <;> exact ⟨_, rfl⟩

theorem guarded_respond {action : Action ActionResult} (guarded : action.run.Guarded allowed may) :
    (respond action).Guarded allowed may := by
  apply guarded.bind_done
  intro outcome
  cases outcome <;> exact ⟨_, rfl⟩

end Actions

/-! ## What comes before what -/

/-- The answer names a user by its row. -/
def NamesUser : (made : Call) → made.Answer → Int32 → Prop
  | .getUserByUsername _, some (some user), userId => user.id = userId
  | .createUser _ _, some user, userId => user.id = userId
  | _, _, _ => False

/-- The answer lists the user's players, and there is room for one more. -/
def FindsRoom : (made : Call) → made.Answer → Int32 → Prop
  | .getPlayersByUserId owner, some rows, userId => owner = userId ∧ rows.length < 3
  | _, _, _ => False

def Request.createsCharacter : Request → Bool
  | .createCharacter _ _ => true
  | _ => false

/-- A ticket is issued right after its user was read or created; a player is created by
`CreateCharacter` only, right after the players of its user were counted. -/
def Allowed (request : Request) (made : Call) (answer : made.Answer) : Call → Prop
  | .stringSet userId => NamesUser made answer userId
  | .createPlayer userId _ => request.createsCharacter = true ∧ FindsRoom made answer userId
  | _ => True

def Initial : Call → Prop
  | .stringSet _ | .createPlayer _ _ => False
  | _ => True

section Guards

variable (platform : Platform) {whole : Request}

theorem guarded_register (request : LoginRequestDto) :
    (register request).run.Guarded (Allowed whole) Initial := by
  refine guarded_perform_bind trivial fun existingUser => ?_
  split
  · trivial
  · refine guarded_perform_bind trivial fun passwordHash => ?_
    refine guarded_perform_bind trivial fun newUser => ?_
    exact guarded_perform_bind rfl fun sessionTicket => trivial

theorem guarded_login (request : LoginRequestDto) :
    (login platform request).run.Guarded (Allowed whole) Initial := by
  refine guarded_perform_bind trivial fun existingUser => ?_
  split
  · next user found =>
      obtain ⟨rfl, -⟩ := Option.filter_eq_some_iff.mp found
      exact guarded_perform_bind rfl fun sessionTicket => trivial
  · trivial

theorem guarded_verify (request : VerifyRequestDto) : (verify request).run.Guarded (Allowed whole) Initial := by
  unfold verify
  split
  · trivial
  · split
    · trivial
    · refine guarded_perform_bind trivial fun userIdString => ?_
      split
      · refine guarded_perform_bind trivial fun player => ?_
        split
        · split <;> trivial
        · trivial
      · trivial

theorem guarded_logout (request : LogoutRequestDto) : (logout request).run.Guarded (Allowed whole) Initial := by
  refine guarded_perform_bind trivial fun deleted => ?_
  split <;> trivial

theorem guarded_getCharacters (sessionTicket : String) :
    (getCharacters sessionTicket).run.Guarded (Allowed whole) Initial := by
  unfold getCharacters
  split
  · trivial
  · refine guarded_perform_bind trivial fun userIdString => ?_
    split
    · exact guarded_perform_bind trivial fun players => trivial
    · trivial

theorem guarded_createCharacter (sessionTicket : String) (request : CharacterRequestDto) :
    (createCharacter sessionTicket request).run.Guarded
      (Allowed (.createCharacter sessionTicket request)) Initial := by
  unfold createCharacter
  split
  · trivial
  · split
    · trivial
    · refine guarded_perform_bind trivial fun userIdString => ?_
      split
      · refine guarded_perform_bind trivial fun nameExists => ?_
        split
        · trivial
        · refine guarded_perform_bind trivial fun existingPlayers => ?_
          split
          · trivial
          · next room =>
              exact guarded_perform_bind ⟨rfl, rfl, Nat.lt_of_not_le room⟩ fun newPlayer => trivial
      · trivial

theorem guarded_deleteAccount (sessionTicket : String) (userId : Int32) {may : Call → Prop}
    (first : may (.deletePlayersByUserId userId)) :
    (deleteAccount sessionTicket userId).run.Guarded (Allowed whole) may := by
  refine guarded_perform_bind first fun deletedCharactersCount => ?_
  refine guarded_perform_bind trivial fun userDeleted => ?_
  split
  · trivial
  · exact guarded_perform_bind trivial fun _ => trivial

theorem guarded_deleteUser (request : DeleteUserRequestDto) :
    (deleteUser platform request).run.Guarded (Allowed whole) Initial := by
  unfold deleteUser
  split
  · trivial
  · refine guarded_perform_bind trivial fun userIdString => ?_
    split
    · refine guarded_perform_bind trivial fun user => ?_
      split
      · trivial
      · exact guarded_orElse_pure (guarded_deleteAccount request.sessionTicket _ trivial)
    · trivial

theorem guarded_validated {valid : Bool} {action : Action ActionResult}
    (guarded : action.run.Guarded (Allowed whole) Initial) : (validated valid action).Guarded (Allowed whole) Initial := by
  cases valid with
  | false => trivial
  | true => exact guarded_respond guarded

theorem guarded_serve (request : Request) :
    (serve platform request).Guarded (Allowed request) Initial := by
  cases request with
  | register request => exact guarded_validated (guarded_register request)
  | login request => exact guarded_validated (guarded_login platform request)
  | verify request => exact guarded_validated (guarded_verify request)
  | logout request => exact guarded_respond (guarded_logout request)
  | getCharacters sessionTicket => exact guarded_validated (guarded_getCharacters sessionTicket)
  | createCharacter sessionTicket request =>
      exact guarded_validated (guarded_createCharacter sessionTicket request)
  | deleteUser request => exact guarded_respond (guarded_deleteUser platform request)
  | rejected statusCode => trivial

end Guards

/-! ## Runs of the auth server -/

abbrev Runs (platform : Platform) (start : Pool) (labels : List Label) (finish : Pool) : Prop :=
  Run (Taken (service platform).step) start labels finish

/-- Each request has followed its program, and the stores are and were well formed wherever it
made a call. -/
structure Sound (platform : Platform) (pool : Pool) : Prop where
  followed : (service platform).Followed pool
  wellFormed : pool.state.WellFormed
  found : Service.Found 0 Database.WellFormed pool

variable {platform : Platform} {pool after : Pool}

theorem sound_initially : Sound platform { state := {} } where
  followed _ _ there := by cases there
  wellFormed := Database.wellFormed_empty
  found _ _ _ there := by cases there

theorem Sound.step {label : Label} (sound : Sound platform pool)
    (taken : (service platform).step pool label = some after) : Sound platform after where
  followed := sound.followed.step taken
  wellFormed := by
    apply Service.state_of_step _ _ sound.wellFormed taken
    · intro state made outcome answer next wellFormed answered
      exact wellFormed.effect (Database.effect_of_answers answered)
    · intro state event next wellFormed changed
      exact wellFormed.changes changed
  found := sound.found.step sound.wellFormed taken

/-- What a thread comes to after a call is allowed there. -/
theorem Sound.allowed {index : Nat} {thread : Thread} {made later : Call}
    {next : made.Answer → Program Call Call.Answer Response} {answer : made.Answer}
    (sound : Sound platform pool) (there : pool.threads[index]? = some thread)
    (waits : thread.rest = .call made next) (comes : (next answer).next? = some later) :
    Allowed thread.request made answer later := by
  have guarded := (sound.followed index thread there).guarded (guarded_serve platform thread.request)
  rw [waits] at guarded
  exact (guarded.2 answer).next? later comes

/-! ## What `Verify` answers -/

namespace Database

/-- Redis key `session:t` holds the user id. -/
def Holds (database : Database) (sessionTicket : List UInt8) (userId : Int32) : Prop :=
  ∃ text, decodeUtf8 sessionTicket = some text ∧
    database.redis (sessionKey text) = some (toString userId.toInt)

/-- There is a row with the player id, and it belongs to the user. -/
def Owns (database : Database) (playerId : UInt64) (userId : Int32) : Prop :=
  ∃ player ∈ database.players, player.playerId.toInt = playerId.toNat ∧ player.userId = userId

variable {database : Database}

theorem WellFormed.parses_iff (wellFormed : database.WellFormed) {sessionTicket : String}
    {userId : Int32} :
    (database.redis (sessionKey sessionTicket)).bind DotNet.intTryParse = some userId ↔
      database.redis (sessionKey sessionTicket) = some (toString userId.toInt) := by
  constructor
  · intro parsed
    obtain ⟨value, held, reads⟩ := Option.bind_eq_some_iff.mp parsed
    obtain ⟨ticket, -, -, rfl⟩ := wellFormed.tickets.held _ _ held
    rw [DotNet.intTryParse_toString] at reads
    cases reads
    exact held
  · intro held
    rw [held]
    exact DotNet.intTryParse_toString userId

theorem WellFormed.finds_iff (wellFormed : database.WellFormed) {playerId : Int64} {player : Player} :
    database.players.find? (·.playerId = playerId) = some player ↔
      player ∈ database.players ∧ player.playerId = playerId := by
  constructor
  · intro found
    exact ⟨List.mem_of_find?_eq_some found, by simpa using List.find?_some found⟩
  · rintro ⟨member, rfl⟩
    obtain ⟨first, found⟩ := Option.isSome_iff_exists.mp
      (List.find?_isSome.mpr ⟨player, member, by simp⟩ :
        (database.players.find? (·.playerId = player.playerId)).isSome = true)
    have same : first.playerId = player.playerId := by simpa using List.find?_some found
    rw [found, List.inj_on_of_nodup_map wellFormed.players.nodup (List.mem_of_find?_eq_some found) member same]

theorem WellFormed.not_isNullOrWhiteSpace (wellFormed : database.WellFormed) {sessionTicket value : String}
    (held : database.redis (sessionKey sessionTicket) = some value) :
    DotNet.isNullOrWhiteSpace sessionTicket = false := by
  obtain ⟨ticket, issued, same, -⟩ := wellFormed.tickets.held _ _ held
  obtain ⟨guid, isGuid⟩ := wellFormed.tickets.guids ticket issued
  rw [sessionKey_injective same, isGuid]
  exact DotNet.isNullOrWhiteSpace_guidText guid

end Database

/-- `Verify` answers with success and the player it found, or with an error status: then
what it read did not agree. -/
theorem verify_returns {request : VerifyRequestDto} {past : List Occurrence} {result : ActionResult}
    (returns : (verify request).Returns platform past result) :
    (∃ atRedis atMySql userId player, past.map (·.before) = [atRedis, atMySql] ∧
      (atRedis.redis (sessionKey request.sessionTicket)).bind DotNet.intTryParse = some userId ∧
      atMySql.players.find? (·.playerId = request.playerId) = some player ∧ player.userId = userId ∧
      result = ok (.verify
        { success := true, playerInfo := some (.ofPlayer player)
          message := "Session and player verification successful." })) ∨
    result.statusCode ≠ 200 ∧ (past = [] → request.sessionTicket = "" ∨ request.playerId ≤ 0) ∧
      ∀ atRedis atMySql userId player, past.map (·.before) = [atRedis, atMySql] →
        (atRedis.redis (sessionKey request.sessionTicket)).bind DotNet.intTryParse = some userId →
        atMySql.players.find? (·.playerId = request.playerId) = some player → player.userId ≠ userId := by
  unfold verify at returns
  split at returns
  · next blank =>
      obtain ⟨rfl, rfl⟩ := returns_pure_iff.mp returns
      exact .inr ⟨by decide, fun _ => .inl blank, by simp⟩
  · split at returns
    · next absent =>
        obtain ⟨rfl, rfl⟩ := returns_pure_iff.mp returns
        exact .inr ⟨by decide, fun _ => .inr absent, by simp⟩
    · obtain ⟨atRedis, draw, userIdString, state, later, rfl, read, thenReturns⟩ :=
        returns_perform_bind_iff.mp returns
      simp only [Database.perform, Option.some.injEq, Prod.mk.injEq] at read
      obtain ⟨rfl, -⟩ := read
      split at thenReturns
      · next userId parsed =>
          obtain ⟨atMySql, draw, player, state, rest, rfl, looked, lastReturns⟩ :=
            returns_perform_bind_iff.mp thenReturns
          simp only [Database.perform, Option.some.injEq, Prod.mk.injEq] at looked
          obtain ⟨rfl, -⟩ := looked
          split at lastReturns
          · next player there =>
              split at lastReturns
              · next foreign =>
                  obtain ⟨rfl, rfl⟩ := returns_pure_iff.mp lastReturns
                  refine .inr ⟨by decide, by simp, ?_⟩
                  intro _ _ other someone same otherParsed otherThere
                  cases same
                  cases parsed.symm.trans otherParsed
                  cases there.symm.trans otherThere
                  exact foreign
              · next own =>
                  obtain ⟨rfl, rfl⟩ := returns_pure_iff.mp lastReturns
                  exact .inl ⟨atRedis, atMySql, userId, player, rfl, parsed, there,
                    Decidable.not_not.mp own, rfl⟩
          · next missing =>
              obtain ⟨rfl, rfl⟩ := returns_pure_iff.mp lastReturns
              refine .inr ⟨by decide, by simp, ?_⟩
              intro _ _ _ player same _ there
              cases same
              exact absurd there (missing player)
      · next unparsed =>
          obtain ⟨rfl, rfl⟩ := returns_pure_iff.mp thenReturns
          exact .inr ⟨by decide, by simp, by simp⟩

/-! ## Requests served on their own

The steps of common requests when nothing comes between them, over a platform that knows one
password and its hash. -/

def samplePassword : String := "abcdefghijklmnopqrstuvwxyz"

def samplePasswordHash : String := "$2a$06$.rCVZVOThsIa97pEDOxvGuRRgzG64bvtJ0938xuqzv18d3ZpQhstC"

def samplePlatform : Platform where
  collate := id
  verify password passwordHash := password == samplePassword && passwordHash == samplePasswordHash

def registers (thread : Nat) (username : String) (userId : Int) (guid : BitVec 128) : List Label :=
  [.start (.register { username, password := samplePassword }), .advance thread (.answers {}),
    .advance thread (.answers { passwordHash := samplePasswordHash }),
    .advance thread (.answers { id := userId }), .advance thread (.answers { guid })]

/-- A row of user 1. -/
def sampleRow (playerId : Int64) (name : String) : Player :=
  { playerId, userId := 1, name, posX := 0, posY := 0, hp := 100, maxHp := 100, createdAt := 0 }

/-- A character is created for a user who owns the given rows. -/
def createsCharacter (thread : Nat) (guid : BitVec 128) (characterName : String) (rows : List Player)
    (playerId : Int) : List Label :=
  [.start (.createCharacter (DotNet.guidText guid) { characterName }), .advance thread (.answers {}),
    .advance thread (.answers {}), .advance thread (.answers { rows }),
    .advance thread (.answers { id := playerId })]

def logsIn (thread : Nat) (username : String) (guid : BitVec 128) : List Label :=
  [.start (.login { username, password := samplePassword }), .advance thread (.answers {}),
    .advance thread (.answers { guid })]

/-- An account is deleted, with all five calls carried out and answered. -/
def deletesUser (thread : Nat) (guid : BitVec 128) : List Label :=
  .start (.deleteUser { sessionTicket := DotNet.guidText guid, password := samplePassword }) ::
    List.replicate 5 (.advance thread (.answers {}))

end CppMMO.Auth
