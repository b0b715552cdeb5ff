import CppMMO.Auth.AccountAccessProperties

/-! Where the contents of the stores come from: an account from a registration with its password, a
ticket from a registration or a login that showed the password, a character from a request with a
ticket of its user.

The actions check this one call after the other, while other requests change the stores between
the calls. -/

set_option autoImplicit false

namespace CppMMO.Auth

open CppMMO.Lib

variable {platform : Platform} {pool next : Pool}

/-! ## What an action has checked before it adds to the stores -/

def Occurrence.exchange (occurrence : Occurrence) : Sigma Call.Answer :=
  ⟨occurrence.made, occurrence.answer⟩

def HasHashed (exchanged : List (Sigma Call.Answer)) (password passwordHash : String) : Prop :=
  ⟨.hashPassword password, some passwordHash⟩ ∈ exchanged

/-- What must have been asked and answered before the call is made. -/
def Earned (platform : Platform) (request : Request) (exchanged : List (Sigma Call.Answer)) :
    Call → Prop
  | .createUser username passwordHash =>
      ∃ account, request = .register account ∧ account.valid = true ∧ username = account.username ∧
        HasHashed exchanged account.password passwordHash
  | .stringSet userId =>
      (∃ account passwordHash user, request = .register account ∧
        HasHashed exchanged account.password passwordHash ∧
        ⟨.createUser account.username passwordHash, some user⟩ ∈ exchanged ∧ user.id = userId) ∨
      ∃ account user, request = .login account ∧
        ⟨.getUserByUsername account.username, some (some user)⟩ ∈ exchanged ∧
        platform.verify account.password user.passwordHash = true ∧ user.id = userId
  | .createPlayer userId name =>
      ∃ sessionTicket character userIdString,
        request = .createCharacter sessionTicket character ∧ name = character.characterName ∧
        character.valid = true ∧ DotNet.length name ≤ 16 ∧
        ⟨.stringGet (sessionKey sessionTicket), some userIdString⟩ ∈ exchanged ∧
        userIdString.bind DotNet.intTryParse = some userId
  | _ => True

section Obeys

variable {rule : List (Sigma Call.Answer) → Call → Prop} {exchanged : List (Sigma Call.Answer)}
  {Value : Type}

theorem obeys_perform_bind {made : Call} {andThen : made.Result → Action Value}
    (first : rule exchanged made)
    (rest : ∀ result, (andThen result).run.Obeys rule (exchanged ++ [⟨made, some result⟩])) :
    (perform made >>= andThen).run.Obeys rule exchanged := by
  rw [run_perform_bind]
  refine ⟨first, ?_⟩
  intro answer
  cases answer with
  | none => trivial
  | some result => exact rest result

theorem obeys_orElse_pure {action : Action Value} {value : Value}
    (obeys : action.run.Obeys rule exchanged) : (action <|> pure value).run.Obeys rule exchanged := by
  apply obeys.bind_done
  intro outcome
  cases outcome <;> exact ⟨_, rfl⟩

theorem obeys_respond {action : Action ActionResult} (obeys : action.run.Obeys rule exchanged) :
    (respond action).Obeys rule exchanged := by
  apply obeys.bind_done
  intro outcome
  cases outcome <;> exact ⟨_, rfl⟩

theorem obeys_validated {valid : Bool} {action : Action ActionResult}
    (obeys : valid = true → action.run.Obeys rule exchanged) :
    (validated valid action).Obeys rule exchanged := by
  cases valid with
  | false => trivial
  | true => exact obeys_respond (obeys rfl)

end Obeys

section Endpoints

variable {whole : Request} {exchanged : List (Sigma Call.Answer)}

theorem obeys_register {account : LoginRequestDto} (valid : account.valid = true) :
    (register account).run.Obeys (Earned platform (.register account)) exchanged := by
  refine obeys_perform_bind trivial fun existingUser => ?_
  split
  · trivial
  · refine obeys_perform_bind trivial fun passwordHash => ?_
    refine obeys_perform_bind ⟨account, rfl, valid, rfl, by simp [HasHashed]⟩ fun newUser => ?_
    refine obeys_perform_bind (.inl ⟨account, passwordHash, newUser, rfl, ?_, ?_, rfl⟩)
      fun sessionTicket => trivial
    · simp [HasHashed]
    · simp

theorem obeys_login (account : LoginRequestDto) :
    (login platform account).run.Obeys (Earned platform (.login account)) exchanged := by
  refine obeys_perform_bind trivial fun found => ?_
  split
  · next user fits =>
      obtain ⟨rfl, verifies⟩ := Option.filter_eq_some_iff.mp fits
      refine obeys_perform_bind (.inr ⟨account, user, rfl, ?_, verifies, rfl⟩)
        fun sessionTicket => trivial
      simp
  · trivial

theorem obeys_verify (request : VerifyRequestDto) :
    (verify request).run.Obeys (Earned platform whole) exchanged := by
  unfold verify
  split
  · trivial
  · split
    · trivial
    · refine obeys_perform_bind trivial fun userIdString => ?_
      split
      · refine obeys_perform_bind trivial fun player => ?_
        split
        · split <;> trivial
        · trivial
      · trivial

theorem obeys_logout (request : LogoutRequestDto) :
    (logout request).run.Obeys (Earned platform whole) exchanged := by
  refine obeys_perform_bind trivial fun deleted => ?_
  split <;> trivial

theorem obeys_getCharacters (sessionTicket : String) :
    (getCharacters sessionTicket).run.Obeys (Earned platform whole) exchanged := by
  unfold getCharacters
  split
  · trivial
  · refine obeys_perform_bind trivial fun userIdString => ?_
    split
    · exact obeys_perform_bind trivial fun players => trivial
    · trivial

theorem obeys_createCharacter {sessionTicket : String} {character : CharacterRequestDto}
    (valid : character.valid = true) :
    (createCharacter sessionTicket character).run.Obeys
      (Earned platform (.createCharacter sessionTicket character)) exchanged := by
  unfold createCharacter
  split
  · trivial
  · split
    · trivial
    · next fits =>
        refine obeys_perform_bind trivial fun userIdString => ?_
        split
        · next userId parsed =>
            refine obeys_perform_bind trivial fun nameExists => ?_
            split
            · trivial
            · refine obeys_perform_bind trivial fun existingPlayers => ?_
              split
              · trivial
              · refine obeys_perform_bind ⟨sessionTicket, character, userIdString, rfl, rfl, valid, ?_,
                  ?_, parsed⟩ fun newPlayer => trivial
                · omega
                · simp
        · trivial

theorem obeys_deleteAccount (sessionTicket : String) (userId : Int32) :
    (deleteAccount sessionTicket userId).run.Obeys (Earned platform whole) exchanged := by
  refine obeys_perform_bind trivial fun deletedCharactersCount => ?_
  refine obeys_perform_bind trivial fun userDeleted => ?_
  split
  · trivial
  · exact obeys_perform_bind trivial fun _ => trivial

theorem obeys_deleteUser (request : DeleteUserRequestDto) :
    (deleteUser platform request).run.Obeys (Earned platform whole) exchanged := by
  unfold deleteUser
  split
  · trivial
  · refine obeys_perform_bind trivial fun userIdString => ?_
    split
    · refine obeys_perform_bind trivial fun user => ?_
      split
      · trivial
      · exact obeys_orElse_pure (obeys_deleteAccount request.sessionTicket _)
    · trivial

theorem obeys_serve (request : Request) :
    (serve platform request).Obeys (Earned platform request) [] := by
  cases request with
  | register account => exact obeys_validated fun valid => obeys_register valid
  | login account => exact obeys_validated fun _ => obeys_login account
  | verify request => exact obeys_validated fun _ => obeys_verify request
  | logout request => exact obeys_respond (obeys_logout request)
  | getCharacters sessionTicket => exact obeys_validated fun _ => obeys_getCharacters sessionTicket
  | createCharacter sessionTicket character =>
      refine obeys_validated fun valid => obeys_createCharacter ?_
      simp only [Bool.and_eq_true] at valid
      exact valid.2
  | deleteUser request => exact obeys_respond (obeys_deleteUser request)
  | rejected statusCode => trivial

end Endpoints

section Thread

variable {index : Nat} {thread : Thread} {made : Call}

/-- What a thread comes to has been earned by the calls it has made. -/
theorem Sound.earned {after : made.Answer → Program Call Call.Answer Response}
    (sound : Sound platform pool) (there : pool.threads[index]? = some thread)
    (waits : thread.rest = .call made after) :
    Earned platform thread.request (thread.past.map Occurrence.exchange) made := by
  have obeys := (sound.followed index thread there).obeys (obeys_serve thread.request)
  rw [waits] at obeys
  exact obeys.next? made rfl

theorem Sound.performed {result : made.Result} (sound : Sound platform pool)
    (there : pool.threads[index]? = some thread)
    (exchanged : (⟨made, some result⟩ : Sigma Call.Answer) ∈ thread.past.map Occurrence.exchange) :
    ∃ occurrence ∈ thread.past, ∃ draw, occurrence.before.perform platform draw made =
      some (some result, occurrence.after) := by
  obtain ⟨⟨before, asked, choice, answer, after⟩, member, same⟩ := List.mem_map.mp exchanged
  simp only [Occurrence.exchange, Sigma.mk.injEq] at same
  obtain ⟨rfl, same⟩ := same
  cases eq_of_heq same
  have answered := (sound.followed index thread there).answered _ member
  obtain ⟨draw, -, performed⟩ := Database.performed_of_answers answered
  exact ⟨_, member, draw, performed⟩

theorem Sound.hashed {password passwordHash : String} (sound : Sound platform pool)
    (there : pool.threads[index]? = some thread)
    (hashed : HasHashed (thread.past.map Occurrence.exchange) password passwordHash) :
    platform.verify password passwordHash = true := by
  obtain ⟨occurrence, -, draw, performed⟩ := sound.performed there hashed
  simp only [Database.perform] at performed
  split at performed
  · next verifies =>
      simp only [Option.some.injEq, Prod.mk.injEq] at performed
      rw [← performed.1]
      exact verifies
  · cases performed

end Thread

/-! ## Origins -/

/-- The request was a registration or a login, with the password of a row that was there when it
was served. -/
def ShowsPassword (platform : Platform) (thread : Thread) (userId : Int32) : Prop :=
  ∃ account, (thread.request = .register account ∨ thread.request = .login account) ∧
    ∃ occurrence ∈ thread.past, ∃ user ∈ occurrence.after.users, user.id = userId ∧
      platform.collate user.username = platform.collate account.username ∧
      platform.verify account.password user.passwordHash = true

/-- One of the calls of the request has added the row, and no other. -/
def Adds {Row : Type} (rows : Database → List Row) (thread : Thread) (row : Row) : Prop :=
  ∃ call ∈ thread.past, (rows call.after).Perm (row :: rows call.before)

/-- The request was a valid registration of the account. -/
def Registers (platform : Platform) (thread : Thread) (user : User) : Prop :=
  ∃ account, thread.request = .register account ∧ account.valid = true ∧
    user.username = account.username ∧ platform.verify account.password user.passwordHash = true

/-- The request was for the character, and Redis held its ticket for the character's user. -/
def Creates (thread : Thread) (sessionTicket : String) (player : Player) : Prop :=
  ∃ character, thread.request = .createCharacter sessionTicket character ∧ character.valid = true ∧
    player.name = character.characterName ∧ DotNet.length player.name ≤ 16 ∧
    ∃ read ∈ thread.past,
      read.before.redis (sessionKey sessionTicket) = some (toString player.userId.toInt)

/-- Nothing is in the stores that no request has earned. -/
structure Provenance (platform : Platform) (pool : Pool) : Prop where
  users : ∀ user ∈ pool.state.users, ∃ thread ∈ pool.threads,
    Adds Database.users thread user ∧ Registers platform thread user
  tickets : ∀ ticket ∈ pool.state.issued, ∃ thread ∈ pool.threads,
    Adds Database.issued thread ticket ∧ ShowsPassword platform thread ticket.2
  players : ∀ player ∈ pool.state.players, ∃ thread ∈ pool.threads,
    Adds Database.players thread player ∧ ∃ sessionTicket, Creates thread sessionTicket player ∧
      (sessionTicket, player.userId) ∈ pool.state.issued

namespace Database

variable {database after : Database} {made : Call}

theorem mem_users_of_createUser {username passwordHash : String} {draw : Draw} {user : User}
    (performed : database.perform platform draw (.createUser username passwordHash) =
      some (some user, after)) : user ∈ after.users := by
  simp only [perform, createUser] at performed
  split at performed
  · cases performed
  · split at performed
    · cases performed
      exact List.mem_append_right _ List.mem_cons_self
    · cases performed

theorem Effect.users_cases {user : User} (effect : Effect platform database made after)
    (member : user ∈ after.users) :
    user ∈ database.users ∨ made = .createUser user.username user.passwordHash ∧
      after.users.Perm (user :: database.users) := by
  cases effect with
  | createUser =>
      rcases List.mem_append.mp member with earlier | new
      · exact .inl earlier
      · rw [List.mem_singleton.mp new]
        exact .inr ⟨rfl, List.perm_append_singleton _ _⟩
  | deleteUser => exact .inl (List.mem_of_mem_filter member)
  | _ => exact .inl member

theorem Effect.issued_cases {ticket : String × Int32} (effect : Effect platform database made after)
    (member : ticket ∈ after.issued) :
    ticket ∈ database.issued ∨
      made = .stringSet ticket.2 ∧ after.issued.Perm (ticket :: database.issued) := by
  cases effect with
  | stringSet =>
      rcases List.mem_cons.mp member with rfl | earlier
      · exact .inr ⟨rfl, .refl _⟩
      · exact .inl earlier
  | _ => exact .inl member

theorem Effect.players_cases {player : Player} (effect : Effect platform database made after)
    (member : player ∈ after.players) :
    player ∈ database.players ∨ made = .createPlayer player.userId player.name ∧
      after.players.Perm (player :: database.players) := by
  cases effect with
  | createPlayer =>
      rcases List.mem_append.mp member with earlier | new
      · exact .inl earlier
      · rw [List.mem_singleton.mp new]
        exact .inr ⟨rfl, List.perm_append_singleton _ _⟩
  | deletePlayersByUserId | deleteUser => exact .inl (List.mem_of_mem_filter member)
  | _ => exact .inl member

theorem rows_of_changes {event : Event} (changed : database.changes event = some after) :
    database.users = after.users ∧ database.issued = after.issued ∧
      database.players = after.players := by
  cases event with
  | expire key =>
      cases changed
      exact ⟨rfl, rfl, rfl⟩

/-- Redis holds a ticket only for the user it was issued to. -/
theorem WellFormed.issued_of_held {sessionTicket : String} {userId : Int32}
    (wellFormed : database.WellFormed)
    (held : database.redis (sessionKey sessionTicket) = some (toString userId.toInt)) :
    (sessionTicket, userId) ∈ database.issued := by
  obtain ⟨ticket, issued, sameKey, sameUser⟩ := wellFormed.tickets.held _ _ held
  have ticket_eq : ticket = (sessionTicket, userId) := by
    refine Prod.ext (sessionKey_injective sameKey).symm ?_
    have parsed := DotNet.intTryParse_toString ticket.2
    rw [← sameUser, DotNet.intTryParse_toString] at parsed
    exact (Option.some.inj parsed).symm
  exact ticket_eq ▸ issued

end Database

section Monotone

variable {thread later : Thread}

theorem Registers.mono {user : User} (same : later.request = thread.request)
    (registers : Registers platform thread user) : Registers platform later user := by
  obtain ⟨account, asks, rest⟩ := registers
  exact ⟨account, same.trans asks, rest⟩

theorem Adds.mono {Row : Type} {rows : Database → List Row} {row : Row}
    (kept : thread.past ⊆ later.past) (adds : Adds rows thread row) : Adds rows later row := by
  obtain ⟨call, member, isAdded⟩ := adds
  exact ⟨call, kept member, isAdded⟩

theorem ShowsPassword.mono {userId : Int32} (same : later.request = thread.request)
    (kept : thread.past ⊆ later.past) (shows : ShowsPassword platform thread userId) :
    ShowsPassword platform later userId := by
  obtain ⟨account, asks, occurrence, member, rest⟩ := shows
  exact ⟨account, by rwa [same], occurrence, kept member, rest⟩

theorem Creates.mono {sessionTicket : String} {player : Player}
    (same : later.request = thread.request) (kept : thread.past ⊆ later.past)
    (creates : Creates thread sessionTicket player) : Creates later sessionTicket player := by
  obtain ⟨character, asks, valid, name, fits, read, member, held⟩ := creates
  exact ⟨character, same.trans asks, valid, name, fits, read, kept member, held⟩

end Monotone

/-- Between the calls of a program others may change the stores, but not what has been read. -/
theorem shows_of_earned {index : Nat} {thread : Thread} {userId : Int32}
    {after : Call.Answer (.stringSet userId) → Program Call Call.Answer Response}
    (sound : Sound platform pool) (there : pool.threads[index]? = some thread)
    (waits : thread.rest = .call (.stringSet userId) after) : ShowsPassword platform thread userId := by
  rcases sound.earned there waits with
    ⟨account, passwordHash, user, asks, hashed, created, rfl⟩ |
    ⟨account, user, asks, looked, verifies, rfl⟩
  · obtain ⟨occurrence, member, draw, performed⟩ := sound.performed there created
    have wellFormed := sound.found index (Nat.zero_le _) thread there occurrence member
    obtain ⟨username, hash, -⟩ := Database.created_of_perform wellFormed performed
    refine ⟨account, .inl asks, occurrence, member, user, ?_, rfl, by rw [username], ?_⟩
    · exact Database.mem_users_of_createUser performed
    · rw [hash]
      exact sound.hashed there hashed
  · obtain ⟨occurrence, member, draw, performed⟩ := sound.performed there looked
    simp only [Database.perform, Option.some.injEq, Prod.mk.injEq] at performed
    obtain ⟨found, unchanged⟩ := performed
    refine ⟨account, .inr asks, occurrence, member, user, ?_, rfl, ?_, verifies⟩
    · rw [← unchanged]
      exact List.mem_of_find?_eq_some found
    · simpa using List.find?_some found

/-- A ticket that was issued when a request made a call stays so. -/
theorem Registered.issued_before {index : Nat} {thread : Thread} {occurrence : Occurrence}
    {ticket : String × Int32} (registered : Registered platform pool)
    (there : pool.threads[index]? = some thread) (member : occurrence ∈ thread.past)
    (issued : ticket ∈ occurrence.before.issued) : ticket ∈ pool.state.issued := by
  have answered := (registered.sound.followed index thread there).answered occurrence member
  exact registered.issued index thread there occurrence member ticket
    ((Database.effect_of_answers answered).mem_issued issued)

theorem creates_of_earned {index : Nat} {thread : Thread} {player : Player}
    {after : Call.Answer (.createPlayer player.userId player.name) → Program Call Call.Answer Response}
    (registered : Registered platform pool) (there : pool.threads[index]? = some thread)
    (waits : thread.rest = .call (.createPlayer player.userId player.name) after) :
    ∃ sessionTicket, Creates thread sessionTicket player ∧
      (sessionTicket, player.userId) ∈ pool.state.issued := by
  obtain ⟨sessionTicket, character, userIdString, asks, name, valid, fits, read, parsed⟩ :=
    registered.sound.earned there waits
  obtain ⟨occurrence, member, draw, performed⟩ := registered.sound.performed there read
  have wellFormed := registered.sound.found index (Nat.zero_le _) thread there occurrence member
  simp only [Database.perform, Option.some.injEq, Prod.mk.injEq] at performed
  rw [← performed.1] at parsed
  have held := wellFormed.parses_iff.mp parsed
  exact ⟨sessionTicket, ⟨character, asks, valid, name, fits, occurrence, member, held⟩,
    registered.issued_before there member (wellFormed.issued_of_held held)⟩

theorem registers_of_earned {index : Nat} {thread : Thread} {user : User}
    {after : Call.Answer (.createUser user.username user.passwordHash) →
      Program Call Call.Answer Response}
    (sound : Sound platform pool) (there : pool.threads[index]? = some thread)
    (waits : thread.rest = .call (.createUser user.username user.passwordHash) after) :
    Registers platform thread user := by
  obtain ⟨account, asks, valid, name, hashed⟩ := sound.earned there waits
  exact ⟨account, asks, valid, name, sound.hashed there hashed⟩

theorem Provenance.step {label : Label} (registered : Registered platform pool)
    (provenance : Provenance platform pool) (taken : (service platform).step pool label = some next) :
    Provenance platform next where
  users user member := by
    refine Service.accounted_of_step (fun database => user ∈ database.users)
      (fun thread => Adds Database.users thread user ∧ Registers platform thread user)
      (fun same kept => And.imp (Adds.mono kept) (Registers.mono same)) ?_ ?_ taken
      (provenance.users user) member
    · intro state event after changed isUser
      exact (Database.rows_of_changes changed).1 ▸ isUser
    · intro index thread made after choice answer there waits answered
      rcases (Database.effect_of_answers answered).users_cases member with earlier | ⟨rfl, isAdded⟩
      · exact .inl earlier
      · refine .inr ⟨⟨_, List.mem_append_right _ List.mem_cons_self, isAdded⟩, ?_⟩
        exact (registers_of_earned registered.sound there waits).mono rfl
  tickets ticket member := by
    refine Service.accounted_of_step (fun database => ticket ∈ database.issued)
      (fun thread => Adds Database.issued thread ticket ∧ ShowsPassword platform thread ticket.2)
      (fun same kept => And.imp (Adds.mono kept) (ShowsPassword.mono same kept)) ?_ ?_ taken
      (provenance.tickets ticket) member
    · intro state event after changed isTicket
      exact (Database.rows_of_changes changed).2.1 ▸ isTicket
    · intro index thread made after choice answer there waits answered
      rcases (Database.effect_of_answers answered).issued_cases member with earlier | ⟨rfl, isAdded⟩
      · exact .inl earlier
      · refine .inr ⟨⟨_, List.mem_append_right _ List.mem_cons_self, isAdded⟩, ?_⟩
        refine ShowsPassword.mono ?_ ?_ (shows_of_earned registered.sound there waits)
        · rfl
        · exact List.subset_append_left _ _
  players player member := by
    refine Service.accounted_of_step (fun database => player ∈ database.players)
      (fun thread => Adds Database.players thread player ∧ ∃ sessionTicket,
        Creates thread sessionTicket player ∧ (sessionTicket, player.userId) ∈ next.state.issued)
      ?_ ?_ ?_ taken ?_ member
    · rintro thread later same kept ⟨adds, sessionTicket, creates, issued⟩
      exact ⟨adds.mono kept, sessionTicket, creates.mono same kept, issued⟩
    · intro state event after changed isPlayer
      exact (Database.rows_of_changes changed).2.2 ▸ isPlayer
    · intro index thread made after choice answer there waits answered
      rcases (Database.effect_of_answers answered).players_cases member with earlier | ⟨rfl, isAdded⟩
      · exact .inl earlier
      · obtain ⟨sessionTicket, creates, issued⟩ := creates_of_earned registered there waits
        refine .inr ⟨⟨_, List.mem_append_right _ List.mem_cons_self, isAdded⟩, sessionTicket, ?_,
          issued_of_step taken issued⟩
        refine Creates.mono ?_ ?_ creates
        · rfl
        · exact List.subset_append_left _ _
    · intro isPlayer
      obtain ⟨thread, isThread, adds, sessionTicket, creates, issued⟩ :=
        provenance.players player isPlayer
      exact ⟨thread, isThread, adds, sessionTicket, creates, issued_of_step taken issued⟩

theorem provenance_initially : Provenance platform { state := {} } where
  users _ member := by cases member
  tickets _ member := by cases member
  players _ member := by cases member

theorem stores_are_earned {labels : List Label} (run : Runs platform { state := {} } labels pool) :
    Provenance platform pool := by
  have reached : Registered platform pool ∧ Provenance platform pool := by
    refine run.preserves (fun pool => Registered platform pool ∧ Provenance platform pool) ?_
      ⟨registered_initially, provenance_initially⟩
    intro before label after ⟨registered, provenance⟩ taken
    exact ⟨registered.step taken, provenance.step registered taken⟩
  exact reached.2

/-- An account registers and creates a character. -/
theorem stores_are_earned_of_character :
    ∃ pool, Runs samplePlatform { state := {} }
        (registers 0 "alice" 1 5 ++ createsCharacter 1 5 "alice" [] 1) pool ∧
      pool.state.players = [sampleRow 1 "alice"] ∧ Provenance samplePlatform pool := by
  obtain ⟨start, pool, created, run, players⟩ :=
    exists_run_of_execute (service samplePlatform).step (some { state := {} })
      (registers 0 "alice" 1 5 ++ createsCharacter 1 5 "alice" [] 1)
      (fun pool => pool.state.players = [sampleRow 1 "alice"]) (by decide +kernel)
  cases created
  exact ⟨pool, run, players, stores_are_earned run⟩

end CppMMO.Auth
