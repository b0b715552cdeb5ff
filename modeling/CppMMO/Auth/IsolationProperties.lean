import CppMMO.Auth.AuthControllerProperties

/-! Users cannot touch each other: whatever runs at the same time, the calls of a request change
no rows but those of the user its ticket belongs to, and no keys but its own ticket and the
ticket it is issued. -/

set_option autoImplicit false

namespace CppMMO.Auth

open CppMMO.Lib

/-- The user whose rows the call may change. A user that is only just created has none. -/
def Call.touches : Call → Option Int32
  | .createPlayer userId _ | .deletePlayersByUserId userId | .deleteUser userId => some userId
  | _ => none

def Call.deletesKey : Call → Option String
  | .keyDelete key => some key
  | _ => none

def Database.usersOf (database : Database) (userId : Int32) : List User :=
  database.users.filter (·.id = userId)

/-- The key was put under a ticket that nobody had been issued before. -/
def Issues (before after : Database) (key : String) : Prop :=
  ∃ sessionTicket userId, after.issued = (sessionTicket, userId) :: before.issued ∧
    (∀ ticket ∈ before.issued, ticket.1 ≠ sessionTicket) ∧ key = sessionKey sessionTicket

/-- All rows of all users but one are as they were, and all keys but one that were not issued. -/
structure Spares (user? : Option Int32) (key? : Option String) (before after : Database) : Prop where
  users : ∀ other ∈ before.users, user? ≠ some other.id → after.usersOf other.id = before.usersOf other.id
  players : ∀ userId, user? ≠ some userId → after.playersOf userId = before.playersOf userId
  keys : ∀ key, key? ≠ some key → ¬ Issues before after key → after.redis key = before.redis key

/-- A call that keeps to the rows of one user and one key. -/
structure Within (user? : Option Int32) (key? : Option String) (made : Call) : Prop where
  user : ∀ userId ∈ made.touches, user? = some userId
  key : ∀ key ∈ made.deletesKey, key? = some key

variable {platform : Platform} {pool : Pool}

section Call

variable {user? : Option Int32} {key? : Option String}

theorem filter_filter_ne {Row : Type} {rows : List Row} {id : Row → Int32} {userId other : Int32}
    (different : userId ≠ other) :
    ((rows.filter (id · ≠ userId)).filter (id · = other)) = rows.filter (id · = other) := by
  rw [List.filter_filter]
  apply List.filter_congr
  intro row _
  by_cases same : id row = other
  · simp [same, Ne.symm different]
  · simp [same]

/-- A call that keeps to its user's rows spares the others. -/
theorem spares_of_effect {before after : Database} {made : Call} (within : Within user? key? made)
    (wellFormed : before.WellFormed) (effect : Database.Effect platform before made after) :
    Spares user? key? before after := by
  cases effect with
  | unchanged => exact ⟨fun _ _ _ => rfl, fun _ _ => rfl, fun _ _ _ => rfl⟩
  | @createUser username passwordHash id _ next inRange =>
      refine ⟨?_, fun _ _ => rfl, fun _ _ _ => rfl⟩
      intro other member _
      have fresh : Int32.ofInt id ≠ other.id := by
        intro same
        have bound := wellFormed.users.lt_next other member
        have positive := wellFormed.users.next_pos
        rw [← same, Int32.toInt_ofInt_of_le (by omega) inRange] at bound
        exact absurd bound (by simpa using next)
      simp [Database.usersOf, fresh]
  | @createPlayer userId =>
      refine ⟨fun _ _ _ => rfl, ?_, fun _ _ _ => rfl⟩
      intro other isOther
      have different : userId ≠ other := fun same => isOther (same ▸ within.user userId rfl)
      simp [Database.playersOf, different]
  | @deletePlayersByUserId userId =>
      refine ⟨fun _ _ _ => rfl, ?_, fun _ _ _ => rfl⟩
      intro other isOther
      exact filter_filter_ne fun same => isOther (same ▸ within.user userId rfl)
  | @deleteUser userId =>
      refine ⟨?_, ?_, fun _ _ _ => rfl⟩
      · intro other _ isOther
        exact filter_filter_ne fun same => isOther (same ▸ within.user userId rfl)
      · intro other isOther
        exact filter_filter_ne fun same => isOther (same ▸ within.user userId rfl)
  | @stringSet userId guid fresh =>
      refine ⟨fun _ _ _ => rfl, fun _ _ => rfl, ?_⟩
      intro key _ notIssued
      have different : key ≠ sessionKey (DotNet.guidText guid) :=
        fun same => notIssued ⟨_, userId, rfl, fresh, same⟩
      exact Function.update_of_ne different _ _
  | @keyDelete own =>
      refine ⟨fun _ _ _ => rfl, fun _ _ => rfl, ?_⟩
      intro key notPresented _
      have different : key ≠ own := fun same => notPresented (same ▸ within.key own rfl)
      exact Function.update_of_ne different _ _

end Call

/-! ## Requests and their tickets -/

def Request.sessionTicket? : Request → Option String
  | .register _ | .login _ | .rejected _ => none
  | .verify request => some request.sessionTicket
  | .logout request => some (request.sessionTicket.getD "")
  | .getCharacters sessionTicket | .createCharacter sessionTicket _ => some sessionTicket
  | .deleteUser request => some request.sessionTicket

def Request.key? (request : Request) : Option String := request.sessionTicket?.map sessionKey

/-- The user that the presented ticket belonged to at the request's first call. -/
def servedUser (request : Request) (past : List Occurrence) : Option Int32 :=
  request.key?.bind fun key =>
    past.head?.bind fun first => (first.before.redis key).bind DotNet.intTryParse

theorem Within.mono {user? other? : Option Int32} {key? : Option String} {made : Call}
    (within : Within user? key? made) (same : ∀ userId, user? = some userId → other? = some userId) :
    Within other? key? made :=
  ⟨fun userId touched => same userId (within.user userId touched), within.key⟩

theorem within_of_silent {user? : Option Int32} {key? : Option String} {made : Call}
    (noRows : made.touches = none) (noKey : made.deletesKey = none) : Within user? key? made :=
  ⟨by simp [noRows], by simp [noKey]⟩

/-- The program reads the ticket first, and then keeps to the user it found. -/
inductive ReadsTicket {Value : Type} (key : String) : Program Call Call.Answer Value → Prop where
  | done {value : Value} : ReadsTicket key (.done value)
  | reads {next : Option (Option String) → Program Call Call.Answer Value} :
      (∀ answer, (next answer).Calls (Within (answer.join.bind DotNet.intTryParse) (some key))) →
      ReadsTicket key (.call (.stringGet key) next)

section ReadsTicket

variable {Value : Type} {key : String}

theorem readsTicket_perform_bind {andThen : Option String → Action Value}
    (rest : ∀ userIdString, (andThen userIdString).run.Calls
      (Within (userIdString.bind DotNet.intTryParse) (some key))) :
    ReadsTicket key (perform (.stringGet key) >>= andThen).run := by
  rw [run_perform_bind]
  refine .reads ?_
  intro answer
  cases answer with
  | none => trivial
  | some userIdString => exact rest userIdString

theorem readsTicket_respond {action : Action ActionResult} (reads : ReadsTicket key action.run) :
    ReadsTicket key (respond action) := by
  unfold respond
  generalize action.run = program at reads
  cases reads with
  | @done outcome => cases outcome <;> exact .done
  | reads keeps =>
      refine .reads fun answer => (keeps answer).bind_done ?_
      intro outcome
      cases outcome <;> exact ⟨_, rfl⟩

theorem ReadsTicket.within {program rest : Program Call Call.Answer Value} {past : List Occurrence}
    (reads : ReadsTicket key program) (follows : program.Follows (Database.answers platform) past rest) :
    ∀ occurrence ∈ past, Within
      (past.head?.bind fun first => (first.before.redis key).bind DotNet.intTryParse) (some key)
      occurrence.made := by
  cases past with
  | nil => simp
  | cons first later =>
      cases reads with
      | done => cases follows
      | reads keeps =>
          obtain ⟨before, outcome, answer, after, rfl, answered, follows⟩ := follows
          have holder : ∀ userId, answer.join.bind DotNet.intTryParse = some userId →
              (before.redis key).bind DotNet.intTryParse = some userId := by
            intro userId holds
            cases answer with
            | none => cases holds
            | some userIdString =>
                obtain ⟨draw, -, performed⟩ := Database.performed_of_answers answered
                cases performed
                exact holds
          intro occurrence member
          rcases List.mem_cons.mp member with rfl | isLater
          · exact within_of_silent rfl rfl
          · exact (follows.of_calls (keeps answer) occurrence isLater).mono holder

end ReadsTicket

/-! ## The endpoints -/

section Endpoints

variable {key? : Option String}

theorem calls_register (request : LoginRequestDto) : (register request).run.Calls (Within none key?) := by
  refine guarded_perform_bind (within_of_silent rfl rfl) fun existingUser => ?_
  split
  · trivial
  · refine guarded_perform_bind (within_of_silent rfl rfl) fun passwordHash => ?_
    refine guarded_perform_bind (within_of_silent rfl rfl) fun newUser => ?_
    exact guarded_perform_bind (within_of_silent rfl rfl) fun sessionTicket => trivial

theorem calls_login (request : LoginRequestDto) :
    (login platform request).run.Calls (Within none key?) := by
  refine guarded_perform_bind (within_of_silent rfl rfl) fun user => ?_
  split
  · exact guarded_perform_bind (within_of_silent rfl rfl) fun sessionTicket => trivial
  · trivial

theorem calls_logout (request : LogoutRequestDto) :
    (logout request).run.Calls (Within none (some (sessionKey (request.sessionTicket.getD "")))) := by
  refine guarded_perform_bind ⟨by simp [Call.touches], by simp [Call.deletesKey]⟩ fun deleted => ?_
  split <;> trivial

theorem readsTicket_verify (request : VerifyRequestDto) :
    ReadsTicket (sessionKey request.sessionTicket) (verify request).run := by
  unfold verify
  split
  · exact .done
  · split
    · exact .done
    · refine readsTicket_perform_bind fun userIdString => ?_
      split
      · refine guarded_perform_bind (within_of_silent rfl rfl) fun player => ?_
        split
        · split <;> trivial
        · trivial
      · trivial

theorem readsTicket_getCharacters (sessionTicket : String) :
    ReadsTicket (sessionKey sessionTicket) (getCharacters sessionTicket).run := by
  unfold getCharacters
  split
  · exact .done
  · refine readsTicket_perform_bind fun userIdString => ?_
    split
    · exact guarded_perform_bind (within_of_silent rfl rfl) fun players => trivial
    · trivial

theorem readsTicket_createCharacter (sessionTicket : String) (request : CharacterRequestDto) :
    ReadsTicket (sessionKey sessionTicket) (createCharacter sessionTicket request).run := by
  unfold createCharacter
  split
  · exact .done
  · split
    · exact .done
    · refine readsTicket_perform_bind fun userIdString => ?_
      split
      · next userId parsed =>
          refine guarded_perform_bind (within_of_silent rfl rfl) fun nameExists => ?_
          split
          · trivial
          · refine guarded_perform_bind (within_of_silent rfl rfl) fun existingPlayers => ?_
            split
            · trivial
            · refine guarded_perform_bind ⟨?_, by simp [Call.deletesKey]⟩ fun newPlayer => trivial
              simp [Call.touches, parsed]
      · trivial

theorem calls_deleteAccount (sessionTicket : String) (userId : Int32) :
    (deleteAccount sessionTicket userId).run.Calls
      (Within (some userId) (some (sessionKey sessionTicket))) := by
  refine guarded_perform_bind ⟨by simp [Call.touches], by simp [Call.deletesKey]⟩ fun deletedCount => ?_
  refine guarded_perform_bind ⟨by simp [Call.touches], by simp [Call.deletesKey]⟩ fun userDeleted => ?_
  split
  · trivial
  · exact guarded_perform_bind ⟨by simp [Call.touches], by simp [Call.deletesKey]⟩ fun _ => trivial

theorem readsTicket_deleteUser (request : DeleteUserRequestDto) :
    ReadsTicket (sessionKey request.sessionTicket) (deleteUser platform request).run := by
  unfold deleteUser
  split
  · exact .done
  · refine readsTicket_perform_bind fun userIdString => ?_
    split
    · next userId parsed =>
        refine guarded_perform_bind (within_of_silent rfl rfl) fun user => ?_
        split
        · trivial
        · rw [parsed]
          exact guarded_orElse_pure (calls_deleteAccount request.sessionTicket userId)
    · trivial

theorem calls_validated {valid : Bool} {action : Action ActionResult} {property : Call → Prop}
    (calls : action.run.Calls property) : (validated valid action).Calls property := by
  cases valid with
  | false => trivial
  | true => exact guarded_respond calls

theorem readsTicket_validated {valid : Bool} {action : Action ActionResult} {key : String}
    (reads : ReadsTicket key action.run) : ReadsTicket key (validated valid action) := by
  cases valid with
  | false => exact .done
  | true => exact readsTicket_respond reads

end Endpoints

/-- Every call of a request keeps to the user of its ticket. -/
theorem within_of_follows {request : Request} {past : List Occurrence}
    {rest : Program Call Call.Answer Response}
    (follows : (serve platform request).Follows (Database.answers platform) past rest) :
    ∀ occurrence ∈ past, Within (servedUser request past) request.key? occurrence.made := by
  cases request with
  | register request => exact follows.of_calls (calls_validated (calls_register request))
  | login request => exact follows.of_calls (calls_validated (calls_login request))
  | verify request => exact (readsTicket_validated (readsTicket_verify request)).within follows
  | logout request =>
      intro occurrence member
      have within := follows.of_calls (guarded_respond (calls_logout request)) occurrence member
      exact within.mono (by simp)
  | getCharacters sessionTicket =>
      exact (readsTicket_validated (readsTicket_getCharacters sessionTicket)).within follows
  | createCharacter sessionTicket request =>
      exact (readsTicket_validated (readsTicket_createCharacter sessionTicket request)).within follows
  | deleteUser request => exact (readsTicket_respond (readsTicket_deleteUser request)).within follows
  | rejected statusCode =>
      cases past with
      | nil => simp
      | cons first later => cases follows

theorem request_spares_other_users {labels : List Label} {index : Nat} {thread : Thread}
    (run : Runs platform { state := {} } labels pool) (there : pool.threads[index]? = some thread) :
    ∀ occurrence ∈ thread.past,
      Spares (servedUser thread.request thread.past) thread.request.key? occurrence.before
        occurrence.after := by
  have sound : Sound platform pool := run.preserves (Sound platform) Sound.step sound_initially
  have follows := sound.followed index thread there
  intro occurrence member
  exact spares_of_effect (within_of_follows follows occurrence member)
    (sound.found index (Nat.zero_le _) thread there occurrence member)
    (Database.effect_of_answers (follows.answered occurrence member))

/-- A user deletes its account beside another one with a character. -/
theorem request_spares_other_users_deletion :
    ∃ labels pool thread, Runs samplePlatform { state := {} } labels pool ∧
      pool.threads[3]? = some thread ∧ thread.past.length = 5 ∧
      servedUser thread.request thread.past = some 2 ∧
      ∀ occurrence ∈ thread.past, Spares (some 2) thread.request.key? occurrence.before occurrence.after := by
  obtain ⟨start, pool, created, run, reached⟩ :=
    exists_run_of_execute (service samplePlatform).step (some { state := {} })
      (registers 0 "alice" 1 5 ++ createsCharacter 1 5 "alice" [] 1 ++ registers 2 "robert" 2 6 ++
        deletesUser 3 6)
      (fun pool => pool.threads[3]?.map (fun thread =>
        (thread.past.length, servedUser thread.request thread.past)) = some (5, some 2))
      (by decide +kernel)
  cases created
  obtain ⟨thread, there, same⟩ := Option.map_eq_some_iff.mp reached
  obtain ⟨five, served⟩ := Prod.mk.inj same
  exact ⟨_, pool, thread, run, there, five, served,
    served ▸ request_spares_other_users run there⟩

end CppMMO.Auth
