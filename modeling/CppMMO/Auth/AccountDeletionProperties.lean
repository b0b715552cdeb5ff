import CppMMO.Auth.IsolationProperties

/-! What `DeleteUser` does call by call, and what it leaves of an account when it fails half way. -/

set_option autoImplicit false

namespace CppMMO.Auth

open CppMMO.Lib

/-- The `Success` of a body. The bodies that are a `message` only have none, whatever the status
code says. -/
def ResponseDto.success : ResponseDto → Bool
  | message _ => false
  | login response => response.success
  | verify response => response.success
  | characterList response => response.success
  | characterCreate response => response.success
  | deleteUser response => response.success

def Response.success : Response → Bool
  | .result answer => answer.value.success
  | .problem _ => false

variable {platform : Platform} {pool : Pool}

def KeepsTables (occurrence : Occurrence) : Prop :=
  occurrence.after.users = occurrence.before.users ∧ occurrence.after.players = occurrence.before.players

instance (occurrence : Occurrence) : Decidable (KeepsTables occurrence) :=
  inferInstanceAs (Decidable (_ ∧ _))

/-- The calls of a deletion that did not succeed, past the password check: the players are
deleted, then the user, then the ticket. -/
inductive FailedDeletion (userId : Int32) (key : String) : List Occurrence → Prop where
  | players {before after : Database} {choice : Outcome} :
      FailedDeletion userId key [⟨before, .deletePlayersByUserId userId, choice, none, after⟩]
  | user {before after found left : Database} {draw : Draw} {choice : Outcome} {count : Nat}
      {answer : Option Bool} : answer ≠ some true →
      FailedDeletion userId key
        [⟨before, .deletePlayersByUserId userId, .answers draw, some count, after⟩,
          ⟨found, .deleteUser userId, choice, answer, left⟩]
  | ticket {before after found left atRedis last : Database} {draw drawUser : Draw} {choice : Outcome}
      {count : Nat} :
      FailedDeletion userId key
        [⟨before, .deletePlayersByUserId userId, .answers draw, some count, after⟩,
          ⟨found, .deleteUser userId, .answers drawUser, some true, left⟩,
          ⟨atRedis, .keyDelete key, choice, none, last⟩]

theorem failedDeletion_of_follows {sessionTicket : String} {userId : Int32} {past : List Occurrence}
    {outcome : Option ActionResult}
    (follows : (deleteAccount sessionTicket userId).run.Follows (Database.answers platform) past
      (.done outcome))
    (failed : ∀ result, outcome = some result → result.value.success = false) :
    FailedDeletion userId (sessionKey sessionTicket) past := by
  obtain ⟨before, choice, after, ⟨rfl, -, -⟩ | ⟨count, later, rfl, playersAnswered, thenUser⟩⟩ :=
    follows_perform_bind_iff.mp follows
  · exact .players
  · obtain ⟨draw, rfl, -⟩ := Database.performed_of_answers playersAnswered
    obtain ⟨found, userChoice, left, ⟨rfl, -, -⟩ | ⟨deleted, last, rfl, userAnswered, thenTicket⟩⟩ :=
      follows_perform_bind_iff.mp thenUser
    · exact .user (by simp)
    · cases deleted with
      | false =>
          obtain ⟨rfl, -⟩ := follows_pure_iff.mp thenTicket
          exact .user (by simp)
      | true =>
          obtain ⟨drawUser, rfl, -⟩ := Database.performed_of_answers userAnswered
          obtain ⟨atRedis, ticketChoice, afterTicket, ⟨rfl, -, -⟩ | ⟨_, _, rfl, -, returned⟩⟩ :=
            follows_perform_bind_iff.mp thenTicket
          · exact .ticket
          · obtain ⟨rfl, rfl⟩ := follows_pure_iff.mp returned
            exact absurd (failed _ rfl) (by simp [ok, ResponseDto.success])

/-- A deletion fails at one of its first two calls, or goes on for the ticket's user. -/
theorem deletion_cases {request : DeleteUserRequestDto} {past : List Occurrence}
    {outcome : Option ActionResult}
    (follows : (deleteUser platform request).run.Follows (Database.answers platform) past (.done outcome)) :
    past.length ≤ 2 ∧ (∀ result, outcome = some result → result.value.success = false) ∨
    ∃ userId atRedis redisChoice userIdString redisAfter atMySql choice user mySqlAfter back deletion,
      past = ⟨atRedis, .stringGet (sessionKey request.sessionTicket), redisChoice, some userIdString,
          redisAfter⟩ :: ⟨atMySql, .getUserById userId, choice, some user, mySqlAfter⟩ :: back ∧
      (atRedis.redis (sessionKey request.sessionTicket)).bind DotNet.intTryParse = some userId ∧
      (user.filter fun user => platform.verify request.password user.passwordHash).isSome = true ∧
      (deleteAccount request.sessionTicket userId).run.Follows (Database.answers platform) back
        (.done deletion) ∧
      (deletion ≠ none ∧ outcome = deletion ∨
        deletion = none ∧ ∀ result, outcome = some result → result.value.success = false) := by
  unfold deleteUser at follows
  split at follows
  · obtain ⟨rfl, rfl⟩ := follows_pure_iff.mp follows
    exact .inl ⟨by simp, by simp [badRequest, ResponseDto.success]⟩
  · obtain ⟨atRedis, redisChoice, redisAfter, ⟨rfl, rfl, -⟩ |
      ⟨userIdString, later, rfl, redisAnswered, thenUser⟩⟩ := follows_perform_bind_iff.mp follows
    · exact .inl ⟨by simp, by simp⟩
    · obtain ⟨draw, -, performed⟩ := Database.performed_of_answers redisAnswered
      have read : userIdString = atRedis.redis (sessionKey request.sessionTicket) := by
        cases performed
        rfl
      split at thenUser
      · next userId parsed =>
          obtain ⟨atMySql, choice, mySqlAfter, ⟨rfl, rfl, -⟩ | ⟨user, back, rfl, -, thenDelete⟩⟩ :=
            follows_perform_bind_iff.mp thenUser
          · exact .inl ⟨by simp, by simp⟩
          · split at thenDelete
            · obtain ⟨rfl, rfl⟩ := follows_pure_iff.mp thenDelete
              exact .inl ⟨by simp, by simp [unauthorized, ResponseDto.success]⟩
            · next verified =>
                obtain ⟨deletion, deletes, rfl⟩ := follows_orElse_pure_iff.mp thenDelete
                refine .inr ⟨userId, atRedis, redisChoice, userIdString, redisAfter, atMySql, choice, user,
                  mySqlAfter, back, deletion, rfl, read ▸ parsed, ?_, deletes, ?_⟩
                · rw [Option.isSome_iff_ne_none]
                  intro none
                  exact verified (by rw [none]; rfl)
                · cases deletion with
                  | none => exact .inr ⟨rfl, by simp [internalServerError, ResponseDto.success]⟩
                  | some deleted => exact .inl ⟨by simp, rfl⟩
      · obtain ⟨rfl, rfl⟩ := follows_pure_iff.mp thenUser
        exact .inl ⟨by simp, by simp [unauthorized, ResponseDto.success]⟩

section Tables

variable {before after : Database} {userId : Int32} {choice : Outcome}

theorem filter_ne_eq_self_iff {Row : Type} {rows : List Row} {id : Row → Int32} {userId : Int32} :
    rows.filter (id · ≠ userId) = rows ↔ rows.filter (id · = userId) = [] := by
  simp [List.filter_eq_self, List.filter_eq_nil_iff]

theorem keepsTables_deletePlayers_iff {answer : Option Nat}
    (answered : before.answers platform (.deletePlayersByUserId userId) choice = some (answer, after)) :
    KeepsTables ⟨before, .deletePlayersByUserId userId, choice, answer, after⟩ ↔
      choice = .fails ∨ before.playersOf userId = [] := by
  rcases Database.answers_cases answered with ⟨failed, rfl⟩ | ⟨notFailed, draw, result, performed⟩
  · exact iff_of_true ⟨rfl, rfl⟩ (.inl failed)
  · cases performed
    simp only [KeepsTables, Database.withoutPlayersOf, true_and, notFailed, false_or]
    exact filter_ne_eq_self_iff

theorem keepsTables_deleteUser_iff {answer : Option Bool} (wellFormed : before.WellFormed)
    (answered : before.answers platform (.deleteUser userId) choice = some (answer, after)) :
    KeepsTables ⟨before, .deleteUser userId, choice, answer, after⟩ ↔
      choice = .fails ∨ before.usersOf userId = [] := by
  rcases Database.answers_cases answered with ⟨failed, rfl⟩ | ⟨notFailed, draw, result, performed⟩
  · exact iff_of_true ⟨rfl, rfl⟩ (.inl failed)
  · cases performed
    simp only [KeepsTables, Database.deleteUser, Database.withoutPlayersOf, notFailed, false_or]
    rw [filter_ne_eq_self_iff, filter_ne_eq_self_iff]
    constructor
    · exact And.left
    · intro noUser
      refine ⟨noUser, List.filter_eq_nil_iff.mpr ?_⟩
      intro player member isOwn
      obtain ⟨user, isUser, same⟩ := wellFormed.players.owned player member
      have own : user.id = userId := by simpa [same] using isOwn
      exact List.filter_eq_nil_iff.mp noUser user isUser (by simpa using own)

end Tables

/-- Each call found what the one before it left. -/
def Undisturbed (past : List Occurrence) : Prop :=
  past.IsChain fun earlier later => earlier.after = later.before

/-- The tables after the last call are those before the first. -/
def LeavesTables (past : List Occurrence) : Prop :=
  ∀ first ∈ past.head?, ∀ last ∈ past.getLast?,
    last.after.users = first.before.users ∧ last.after.players = first.before.players

instance (past : List Occurrence) : Decidable (LeavesTables past) :=
  inferInstanceAs (Decidable (∀ first ∈ past.head?, ∀ last ∈ past.getLast?, _))

def Shrinks (before after : Database) : Prop :=
  after.users.Sublist before.users ∧ after.players.Sublist before.players

def Call.adds : Call → Bool
  | .createUser _ _ | .createPlayer _ _ => true
  | _ => false

def Call.deletesRows : Call → Bool
  | .deletePlayersByUserId _ | .deleteUser _ => true
  | _ => false

theorem keepsTables_of_effect {before after : Database} {made : Call} (notAdding : made.adds = false)
    (notDeleting : made.deletesRows = false) (effect : Database.Effect platform before made after) :
    after.users = before.users ∧ after.players = before.players := by
  cases effect with
  | createUser | createPlayer => cases notAdding
  | deletePlayersByUserId | deleteUser => cases notDeleting
  | unchanged | stringSet | keyDelete => exact ⟨rfl, rfl⟩

theorem shrinks_of_effect {before after : Database} {made : Call} (notAdding : made.adds = false)
    (effect : Database.Effect platform before made after) : Shrinks before after := by
  cases effect with
  | createUser | createPlayer => cases notAdding
  | unchanged | stringSet | keyDelete => exact ⟨List.Sublist.refl _, List.Sublist.refl _⟩
  | deletePlayersByUserId => exact ⟨List.Sublist.refl _, List.filter_sublist⟩
  | deleteUser => exact ⟨List.filter_sublist, List.filter_sublist⟩

theorem shrinks_of_undisturbed {first : Occurrence} {past : List Occurrence}
    (shrinks : ∀ occurrence ∈ first :: past, Shrinks occurrence.before occurrence.after)
    (undisturbed : Undisturbed (first :: past)) :
    ∀ last ∈ (first :: past).getLast?, Shrinks first.before last.after := by
  induction past generalizing first with
  | nil => simpa using shrinks
  | cons second past ih =>
      intro last isLast
      obtain ⟨meets, undisturbedLater⟩ := List.isChain_cons_cons.mp undisturbed
      rw [List.getLast?_cons_cons] at isLast
      have later := ih (fun occurrence member => shrinks occurrence (List.mem_cons_of_mem _ member))
        undisturbedLater last isLast
      have now := shrinks first List.mem_cons_self
      rw [← meets] at later
      exact ⟨later.1.trans now.1, later.2.trans now.2⟩

/-- Where rows are only deleted and nobody else writes, the tables end as they began exactly when
no call changed them. -/
theorem leavesTables_iff_of_undisturbed {first : Occurrence} {past : List Occurrence}
    (shrinks : ∀ occurrence ∈ first :: past, Shrinks occurrence.before occurrence.after)
    (undisturbed : Undisturbed (first :: past)) :
    LeavesTables (first :: past) ↔ ∀ occurrence ∈ first :: past, KeepsTables occurrence := by
  induction past generalizing first with
  | nil => simp [LeavesTables, KeepsTables]
  | cons second past ih =>
      obtain ⟨meets, undisturbedLater⟩ := List.isChain_cons_cons.mp undisturbed
      have shrinksLater : ∀ occurrence ∈ second :: past, Shrinks occurrence.before occurrence.after :=
        fun occurrence member => shrinks occurrence (List.mem_cons_of_mem _ member)
      obtain ⟨now, -⟩ := List.forall_mem_cons.mp shrinks
      rw [List.forall_mem_cons, ← ih shrinksLater undisturbedLater]
      simp only [LeavesTables, List.head?_cons, Option.mem_def, Option.some.injEq, forall_eq',
        List.getLast?_cons_cons, KeepsTables]
      obtain ⟨last, isLast⟩ : ∃ last, (second :: past).getLast? = some last :=
        Option.isSome_iff_exists.mp (by simp)
      have later := shrinks_of_undisturbed shrinksLater undisturbedLater last isLast
      simp only [isLast, Option.some.injEq, forall_eq', ← meets] at later ⊢
      constructor
      · rintro ⟨users, players⟩
        -- what is lost once never comes back
        have keptUsers : first.after.users = first.before.users :=
          now.1.antisymm (users ▸ later.1)
        have keptPlayers : first.after.players = first.before.players :=
          now.2.antisymm (players ▸ later.2)
        exact ⟨⟨keptUsers, keptPlayers⟩, users.trans keptUsers.symm, players.trans keptPlayers.symm⟩
      · rintro ⟨⟨keptUsers, keptPlayers⟩, users, players⟩
        exact ⟨users.trans keptUsers, players.trans keptPlayers⟩

theorem adds_of_failedDeletion {userId : Int32} {key : String} {back : List Occurrence}
    (deletion : FailedDeletion userId key back) :
    ∀ occurrence ∈ back, occurrence.made.adds = false := by
  cases deletion <;> simp [Call.adds]

/-- The failure leaves the tables alone: the players' deletion was the last call, and was not
carried out or found no player; or the user's deletion was the last call, no player had been
there, and it was not carried out or found no user. -/
def HarmlessFailure (userId : Int32) (past : List Occurrence) : Prop :=
  past.length = 3 ∧
    (∀ players ∈ past[2]?, players.choice = .fails ∨ players.before.playersOf userId = []) ∨
  past.length = 4 ∧ (∀ players ∈ past[2]?, players.before.playersOf userId = []) ∧
    ∀ user ∈ past[3]?, user.choice = .fails ∨ user.before.usersOf userId = []

instance (userId : Int32) (past : List Occurrence) : Decidable (HarmlessFailure userId past) :=
  inferInstanceAs (Decidable (_ ∧ (∀ players ∈ past[2]?, _) ∨
    _ ∧ (∀ players ∈ past[2]?, _) ∧ ∀ user ∈ past[3]?, _))

/-- The calls past the password check decide. -/
theorem keepsTables_iff_of_failedDeletion {atRedis atMySql : Occurrence} {back : List Occurrence}
    {userId : Int32} {key : String} (deletion : FailedDeletion userId key back)
    (answered : ∀ occurrence ∈ back, occurrence.before.answers platform occurrence.made occurrence.choice =
      some (occurrence.answer, occurrence.after))
    (wellFormed : ∀ occurrence ∈ back, occurrence.before.WellFormed) :
    (∀ occurrence ∈ back, KeepsTables occurrence) ↔
      HarmlessFailure userId (atRedis :: atMySql :: back) := by
  cases deletion with
  | players =>
      simp only [List.forall_mem_singleton] at answered ⊢
      rw [keepsTables_deletePlayers_iff answered]
      simp [HarmlessFailure]
  | user missed =>
      simp only [List.forall_mem_cons, List.not_mem_nil, false_imp_iff, implies_true, and_true]
        at answered wellFormed ⊢
      rw [keepsTables_deletePlayers_iff answered.1, keepsTables_deleteUser_iff wellFormed.2 answered.2]
      simp [HarmlessFailure]
  | ticket =>
      simp only [List.forall_mem_cons, List.not_mem_nil, false_imp_iff, implies_true, and_true]
        at answered wellFormed ⊢
      -- the user's deletion found its row and was carried out
      refine iff_of_false ?_ (by simp [HarmlessFailure])
      rintro ⟨-, kept, -⟩
      rcases (keepsTables_deleteUser_iff wellFormed.2.1 answered.2.1).mp kept with failed | noUser
      · cases failed
      · obtain ⟨draw, -, performed⟩ := Database.performed_of_answers answered.2.1
        simp only [Database.perform, Option.some.injEq, Prod.mk.injEq, List.any_eq_true] at performed
        obtain ⟨⟨user, isUser, own⟩, -⟩ := performed
        exact List.filter_eq_nil_iff.mp noUser user isUser own

theorem tables_iff_of_failedDeletion {atRedis atMySql : Occurrence} {back : List Occurrence}
    {userId : Int32} {key : String} (readsTicket : atRedis.made = .stringGet key)
    (readsUser : atMySql.made = .getUserById userId) (deletion : FailedDeletion userId key back)
    (answered : ∀ occurrence ∈ atRedis :: atMySql :: back,
      occurrence.before.answers platform occurrence.made occurrence.choice =
        some (occurrence.answer, occurrence.after))
    (wellFormed : ∀ occurrence ∈ atRedis :: atMySql :: back, occurrence.before.WellFormed) :
    let past := atRedis :: atMySql :: back
    ((∀ occurrence ∈ past, KeepsTables occurrence) ↔ HarmlessFailure userId past) ∧
      (Undisturbed past → (LeavesTables past ↔ HarmlessFailure userId past)) := by
  have notAdding : ∀ occurrence ∈ atRedis :: atMySql :: back, occurrence.made.adds = false := by
    simp only [List.forall_mem_cons, readsTicket, readsUser]
    exact ⟨rfl, rfl, adds_of_failedDeletion deletion⟩
  have shrinks : ∀ occurrence ∈ atRedis :: atMySql :: back, Shrinks occurrence.before occurrence.after :=
    fun occurrence member => shrinks_of_effect (notAdding occurrence member)
      (Database.effect_of_answers (answered occurrence member))
  have kept : (∀ occurrence ∈ atRedis :: atMySql :: back, KeepsTables occurrence) ↔
      HarmlessFailure userId (atRedis :: atMySql :: back) := by
    simp only [List.forall_mem_cons] at wellFormed answered ⊢
    rw [← keepsTables_iff_of_failedDeletion deletion answered.2.2 wellFormed.2.2]
    refine ⟨fun kept => kept.2.2, fun kept => ⟨?_, ?_, kept⟩⟩
    · exact keepsTables_of_effect (by rw [readsTicket]; rfl) (by rw [readsTicket]; rfl)
        (Database.effect_of_answers answered.1)
    · exact keepsTables_of_effect (by rw [readsUser]; rfl) (by rw [readsUser]; rfl)
        (Database.effect_of_answers answered.2.1)
  exact ⟨kept, fun undisturbed => (leavesTables_iff_of_undisturbed shrinks undisturbed).trans kept⟩

theorem failed_deletion_keeps_tables_iff {labels : List Label} {index : Nat} {thread : Thread}
    {request : DeleteUserRequestDto} {response : Response} (run : Runs platform { state := {} } labels pool)
    (there : pool.threads[index]? = some thread) (asks : thread.request = .deleteUser request)
    (isDone : thread.rest = .done response) (failed : response.success = false)
    (checked : 2 < thread.past.length) :
    ∃ userId, servedUser thread.request thread.past = some userId ∧
      ((∀ occurrence ∈ thread.past, KeepsTables occurrence) ↔ HarmlessFailure userId thread.past) ∧
      (Undisturbed thread.past → (LeavesTables thread.past ↔ HarmlessFailure userId thread.past)) := by
  have sound : Sound platform pool := run.preserves (Sound platform) Sound.step sound_initially
  have follows := sound.followed index thread there
  have wellFormed := sound.found index (Nat.zero_le _) thread there
  have answered := follows.answered
  rw [asks, isDone] at follows
  obtain ⟨outcome, actionFollows, rfl⟩ := follows_respond_iff.mp follows
  obtain ⟨short, -⟩ | ⟨userId, atRedis, redisChoice, userIdString, redisAfter, atMySql, choice, user,
    mySqlAfter, back, deletion, isPast, parsed, -, deletes, returned⟩ := deletion_cases actionFollows
  · omega
  have failedDeletion : FailedDeletion userId (sessionKey request.sessionTicket) back := by
    apply failedDeletion_of_follows deletes
    rintro result rfl
    rcases returned with ⟨-, rfl⟩ | ⟨threw, -⟩
    · exact failed
    · cases threw
  refine ⟨userId, by simpa [servedUser, asks, Request.key?, Request.sessionTicket?, isPast] using parsed, ?_⟩
  rw [isPast] at wellFormed answered ⊢
  exact tables_iff_of_failedDeletion rfl rfl failedDeletion answered wellFormed

def sampleDeletion : DeleteUserRequestDto :=
  { sessionTicket := DotNet.guidText 5, password := samplePassword }

/-- A user with one character deletes its account, and the calls past the password check go as
given. -/
def failsToDelete (outcomes : List Outcome) : List Label :=
  registers 0 "alice" 1 5 ++ createsCharacter 1 5 "alice" [] 1 ++
    .start (.deleteUser sampleDeletion) :: .advance 2 (.answers {}) :: .advance 2 (.answers {}) ::
      outcomes.map (.advance 2)

/-- The players' deletion is refused: nothing is lost. -/
theorem failed_deletion_keeps_tables_iff_refused :
    ∃ pool thread response, Runs samplePlatform { state := {} } (failsToDelete [.fails]) pool ∧
      pool.threads[2]? = some thread ∧ thread.rest = .done response ∧ response.success = false ∧
      ∀ occurrence ∈ thread.past, KeepsTables occurrence := by
  obtain ⟨start, pool, created, run, thread, there, response, isResponse, asks, checked, failed, served,
    harmless⟩ :=
    exists_run_of_execute (service samplePlatform).step (some { state := {} }) (failsToDelete [.fails])
      (fun pool => ∃ thread ∈ pool.threads[2]?, ∃ response ∈ thread.rest.result?,
        thread.request = .deleteUser sampleDeletion ∧ 2 < thread.past.length ∧
        response.success = false ∧ servedUser thread.request thread.past = some 1 ∧
        HarmlessFailure 1 thread.past)
      (by decide +kernel)
  cases created
  have isDone := Program.result?_eq_some_iff.mp isResponse
  obtain ⟨userId, isServed, kept, -⟩ :=
    failed_deletion_keeps_tables_iff run there asks isDone failed checked
  cases served.symm.trans isServed
  exact ⟨pool, thread, response, run, there, isDone, failed, kept.mpr harmless⟩

/-- The players are deleted and the user's deletion throws: the characters are gone, and the
answer is that the account was not deleted. -/
theorem failed_deletion_loses_players :
    ∃ pool thread response,
      Runs samplePlatform { state := {} } (failsToDelete [.answers {}, .fails]) pool ∧
      pool.threads[2]? = some thread ∧ thread.request = .deleteUser sampleDeletion ∧
      2 < thread.past.length ∧ thread.rest = .done response ∧ response.success = false ∧
      ¬ LeavesTables thread.past := by
  obtain ⟨start, pool, created, run, thread, there, response, isResponse, asks, checked, failed, lost⟩ :=
    exists_run_of_execute (service samplePlatform).step (some { state := {} })
      (failsToDelete [.answers {}, .fails])
      (fun pool => ∃ thread ∈ pool.threads[2]?, ∃ response ∈ thread.rest.result?,
        thread.request = .deleteUser sampleDeletion ∧ 2 < thread.past.length ∧
        response.success = false ∧ ¬ LeavesTables thread.past)
      (by decide +kernel)
  cases created
  exact ⟨pool, thread, response, run, there, asks, checked, Program.result?_eq_some_iff.mp isResponse,
    failed, lost⟩

end CppMMO.Auth
