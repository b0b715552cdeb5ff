import CppMMO.Auth.RevocationProperties

/-! What a registration is good for: as long as the account has its row, its name and password log
in, another password does not, and the name is not registered again.

`Register` looks for the name and inserts it in two calls. Of requests between the two calls the
unique key lets one through. -/

set_option autoImplicit false

namespace CppMMO.Auth

open CppMMO.Lib

variable {platform : Platform} {pool next : Pool}

/-! ## The unique key on the username -/

namespace Database

def UsernamesDiffer (platform : Platform) (database : Database) : Prop :=
  (database.users.map fun user => platform.collate user.username).Nodup

variable {database after : Database} {user : User} {username : String}

theorem UsernamesDiffer.effect {made : Call} (differ : database.UsernamesDiffer platform)
    (effect : Effect platform database made after) : after.UsernamesDiffer platform := by
  cases effect with
  | createUser free =>
      rw [UsernamesDiffer, List.map_append, List.nodup_append]
      refine ⟨differ, by simp, ?_⟩
      intro earlier isEarlier last isLast same
      obtain ⟨user, member, rfl⟩ := List.mem_map.mp isEarlier
      rw [List.map_cons, List.map_nil, List.mem_singleton] at isLast
      simp only [usernameTaken, List.any_eq_false, decide_eq_true_eq] at free
      exact free user member (same.trans isLast)
  | deleteUser => exact differ.sublist (List.filter_sublist.map _)
  | _ => exact differ

theorem UsernamesDiffer.changes {event : Event} (differ : database.UsernamesDiffer platform)
    (changed : database.changes event = some after) : after.UsernamesDiffer platform := by
  cases event with
  | expire key =>
      cases changed
      exact differ

theorem UsernamesDiffer.eq_of_same {other : User} (differ : database.UsernamesDiffer platform)
    (member : user ∈ database.users) (isOther : other ∈ database.users)
    (same : platform.collate other.username = platform.collate user.username) : other = user :=
  List.inj_on_of_nodup_map differ isOther member same

theorem UsernamesDiffer.finds (differ : database.UsernamesDiffer platform)
    (member : user ∈ database.users)
    (same : platform.collate user.username = platform.collate username) :
    database.users.find? (fun other => platform.collate other.username = platform.collate username) =
      some user := by
  obtain ⟨first, found⟩ := Option.isSome_iff_exists.mp
    (List.find?_isSome.mpr ⟨user, member, by simpa using same⟩ : (database.users.find? fun other =>
      platform.collate other.username = platform.collate username).isSome = true)
  have matching : platform.collate first.username = platform.collate username := by
    simpa using List.find?_some found
  rw [found, differ.eq_of_same member (List.mem_of_find?_eq_some found) (matching.trans same.symm)]

theorem Effect.nextUserId_le {made : Call} (effect : Effect platform database made after) :
    database.nextUserId ≤ after.nextUserId := by
  cases effect with
  | createUser _ above =>
      change database.nextUserId ≤ _ + 1
      omega
  | _ => exact Int.le_refl _

theorem Effect.mem_issued {made : Call} {ticket : String × Int32}
    (effect : Effect platform database made after) (issued : ticket ∈ database.issued) :
    ticket ∈ after.issued := by
  cases effect with
  | stringSet => exact List.mem_cons_of_mem _ issued
  | _ => exact issued

/-- A row that is there and whose id was given out before was there before. -/
theorem Effect.mem_users {made : Call} (effect : Effect platform database made after)
    (wellFormed : database.WellFormed) (known : user.id.toInt < database.nextUserId)
    (member : user ∈ after.users) : user ∈ database.users := by
  cases effect with
  | createUser _ above inRange =>
      rcases List.mem_append.mp member with earlier | new
      · exact earlier
      · have positive := wellFormed.users.next_pos
        rw [List.mem_singleton.mp new, Int32.toInt_ofInt_of_le (by omega) inRange] at known
        omega
  | deleteUser => exact List.mem_of_mem_filter member
  | _ => exact member

/-- What is answered to the creation of a user, and what it leaves. -/
theorem created_of_perform {passwordHash : String} {draw : Draw} (wellFormed : database.WellFormed)
    (performed : database.perform platform draw (.createUser username passwordHash) =
      some (some user, after)) :
    user.username = username ∧ user.passwordHash = passwordHash ∧
      database.nextUserId ≤ user.id.toInt ∧ user.id.toInt < after.nextUserId := by
  simp only [perform, createUser] at performed
  split at performed
  · cases performed
  · split at performed
    · next drawn =>
        cases performed
        have positive := wellFormed.users.next_pos
        have kept : (Int32.ofInt draw.id).toInt = draw.id :=
          Int32.toInt_ofInt_of_le (by omega) drawn.2
        refine ⟨rfl, rfl, ?_, ?_⟩
        · rw [kept]
          exact drawn.1
        · change _ < draw.id + 1
          rw [kept]
          omega
    · cases performed

end Database

/-! ## Accounts -/

/-- The account that a request has created, as it was told. -/
def createdUser? (past : List Occurrence) : Option User :=
  past.findSome? fun occurrence =>
    match occurrence with
    | ⟨_, .createUser _ _, _, some user, _⟩ => some user
    | _ => none

theorem nextUserId_le_of_step {label : Label} (taken : (service platform).step pool label = some next) :
    pool.state.nextUserId ≤ next.state.nextUserId := by
  obtain ⟨request, -, rfl⟩ | ⟨index, choice, thread, made, andThen, answer, state, -, -, -, answered,
    rfl⟩ | ⟨event, state, -, changed, rfl⟩ := Service.step_cases taken
  · exact Int.le_refl _
  · exact (Database.effect_of_answers answered).nextUserId_le
  · cases event with
    | expire key =>
        cases changed
        exact Int.le_refl _

theorem issued_of_step {label : Label} {ticket : String × Int32}
    (taken : (service platform).step pool label = some next) (issued : ticket ∈ pool.state.issued) :
    ticket ∈ next.state.issued := by
  obtain ⟨request, -, rfl⟩ | ⟨index, choice, thread, made, andThen, answer, state, -, -, -, answered,
    rfl⟩ | ⟨event, state, -, changed, rfl⟩ := Service.step_cases taken
  · exact issued
  · exact (Database.effect_of_answers answered).mem_issued issued
  · cases event with
    | expire key =>
        cases changed
        exact issued

/-- A request has had its account before, or this step has created it with a new id. -/
theorem created_cases {label : Label} {index : Nat} {thread : Thread} {user : User}
    (wellFormed : pool.state.WellFormed) (taken : (service platform).step pool label = some next)
    (there : next.threads[index]? = some thread) (created : createdUser? thread.past = some user) :
    (∃ earlier, pool.threads[index]? = some earlier ∧ createdUser? earlier.past = some user) ∨
      (∃ choice, label = .advance index choice) ∧ pool.state.nextUserId ≤ user.id.toInt ∧
        user.id.toInt < next.state.nextUserId := by
  obtain earlier | ⟨request, -, -, rfl⟩ | ⟨earlier, choice, made, andThen, answer, rfl, before, waits,
    answered, rfl⟩ := Service.thread_cases taken there
  · exact .inl ⟨thread, earlier, created⟩
  · cases created
  · rw [createdUser?, List.findSome?_append] at created
    cases sofar : createdUser? earlier.past with
    | some other =>
        rw [createdUser?] at sofar
        rw [sofar] at created
        cases created
        exact .inl ⟨earlier, before, sofar⟩
    | none =>
        rw [createdUser?] at sofar
        rw [sofar, Option.none_or] at created
        cases made with
        | createUser username passwordHash =>
            cases answer with
            | none => cases created
            | some other =>
                cases created
                obtain ⟨draw, -, performed⟩ := Database.performed_of_answers answered
                obtain ⟨-, -, above, below⟩ := Database.created_of_perform wellFormed performed
                exact .inr ⟨⟨choice, rfl⟩, above, below⟩
        | _ => cases created

/-- Every account created so far has its own id, every name has one row, and no ticket is
forgotten. -/
structure Registered (platform : Platform) (pool : Pool) : Prop where
  sound : Sound platform pool
  differ : pool.state.UsernamesDiffer platform
  found : Service.Found 0 (Database.UsernamesDiffer platform) pool
  below : ∀ index : Nat, ∀ thread ∈ pool.threads[index]?, ∀ user ∈ createdUser? thread.past,
    user.id.toInt < pool.state.nextUserId
  apart : ∀ index other : Nat, index ≠ other → ∀ thread ∈ pool.threads[index]?,
    ∀ competitor ∈ pool.threads[other]?, ∀ user ∈ createdUser? thread.past,
    ∀ rival ∈ createdUser? competitor.past, rival.id ≠ user.id
  issued : ∀ index : Nat, ∀ thread ∈ pool.threads[index]?, ∀ occurrence ∈ thread.past,
    ∀ ticket ∈ occurrence.after.issued, ticket ∈ pool.state.issued

theorem registered_initially : Registered platform { state := {} } where
  sound := sound_initially
  differ := List.nodup_nil
  found _ _ _ there := by cases there
  below _ _ there := by cases there
  apart _ _ _ _ there := by cases there
  issued _ _ there := by cases there

theorem Registered.step {label : Label} (registered : Registered platform pool)
    (taken : (service platform).step pool label = some next) : Registered platform next where
  sound := registered.sound.step taken
  differ := by
    apply Service.state_of_step _ _ registered.differ taken
    · intro state made outcome answer left differ answered
      exact differ.effect (Database.effect_of_answers answered)
    · intro state event left differ changed
      exact differ.changes changed
  found := registered.found.step registered.differ taken
  below index thread there user created := by
    have wellFormed := registered.sound.wellFormed
    have grows : pool.state.nextUserId ≤ next.state.nextUserId := nextUserId_le_of_step taken
    rcases created_cases wellFormed taken there created with
      ⟨earlier, before, sofar⟩ | ⟨-, -, below⟩
    · exact Int.lt_of_lt_of_le (registered.below index earlier before user sofar) grows
    · exact below
  apart index other different thread there competitor isThere user created rival isCreated same := by
    have wellFormed := registered.sound.wellFormed
    rcases created_cases wellFormed taken there created with
      ⟨earlier, before, sofar⟩ | ⟨⟨choice, advances⟩, above, -⟩
    · rcases created_cases wellFormed taken isThere isCreated with
        ⟨predecessor, isBefore, rivalSofar⟩ | ⟨-, above, -⟩
      · exact registered.apart index other different earlier before predecessor isBefore user sofar
          rival rivalSofar same
      · have below := registered.below index earlier before user sofar
        rw [same] at above
        omega
    · rcases created_cases wellFormed taken isThere isCreated with
        ⟨predecessor, isBefore, rivalSofar⟩ | ⟨⟨again, advancesOther⟩, -, -⟩
      · have below := registered.below other predecessor isBefore rival rivalSofar
        rw [same] at below
        omega
      · rw [advances] at advancesOther
        cases advancesOther
        exact different rfl
  issued index thread there occurrence member ticket isIssued := by
    obtain earlier | ⟨request, -, -, rfl⟩ | ⟨earlier, choice, made, andThen, answer, -, before, -, -,
      rfl⟩ := Service.thread_cases taken there
    · exact issued_of_step taken
        (registered.issued index thread earlier occurrence member ticket isIssued)
    · cases member
    · rcases List.mem_append.mp member with past | now
      · exact issued_of_step taken
          (registered.issued index earlier before occurrence past ticket isIssued)
      · rw [List.mem_singleton.mp now] at isIssued
        exact isIssued

/-- A row that is there at the end was there for every request since. -/
theorem found_user {labels : List Label} {returned : Pool} {user : User}
    (run : Runs platform returned labels pool) (registered : Registered platform returned)
    (known : user.id.toInt < returned.state.nextUserId) (member : user ∈ pool.state.users) :
    Service.Found returned.threads.length (fun state => user ∈ state.users) pool := by
  let invariant (pool : Pool) : Prop :=
    Registered platform pool ∧ user.id.toInt < pool.state.nextUserId
  refine Service.found_of_lasting invariant ?_ ?_ run ⟨registered, known⟩ member
  · intro before label after soFar taken
    exact ⟨soFar.1.step taken, Int.lt_of_lt_of_le soFar.2 (nextUserId_le_of_step taken)⟩
  · intro before label after soFar taken isThere
    obtain ⟨request, -, rfl⟩ | ⟨index, choice, thread, made, andThen, answer, state, -, -, -, answered,
      rfl⟩ | ⟨event, state, -, changed, rfl⟩ := Service.step_cases taken
    · exact isThere
    · exact (Database.effect_of_answers answered).mem_users soFar.1.sound.wellFormed soFar.2 isThere
    · cases event with
      | expire key =>
          cases changed
          exact isThere

theorem thread_of_done {labels : List Label} {returned : Pool} {index : Nat} {thread : Thread}
    {response : Response} (run : Runs platform returned labels pool)
    (there : returned.threads[index]? = some thread) (isDone : thread.rest = .done response) :
    pool.threads[index]? = some thread := by
  refine run.preserves (fun pool => pool.threads[index]? = some thread) ?_ there
  intro before label after isThere taken
  obtain ⟨request, -, rfl⟩ | ⟨advanced, choice, other, made, andThen, answer, state, -, otherThere, waits, -,
    rfl⟩ | ⟨event, state, -, -, rfl⟩ := Service.step_cases taken
  · rwa [Service.start, List.getElem?_append_left (List.getElem?_eq_some_iff.mp isThere).1]
  · have different : advanced ≠ index := by
      rintro rfl
      rw [isThere] at otherThere
      cases otherThere
      rw [isDone] at waits
      cases waits
    rwa [List.getElem?_set_ne different]
  · exact isThere

/-! ## What the two actions answer -/

theorem register_returns {request : LoginRequestDto} {past : List Occurrence} {result : ActionResult}
    (wellFormed : ∀ occurrence ∈ past, occurrence.before.WellFormed)
    (returns : (register request).Returns platform past result)
    (success : result.value.success = true) :
    ∃ user, createdUser? past = some user ∧ user.username = request.username ∧
      platform.verify request.password user.passwordHash = true := by
  obtain ⟨first, lookup, existingUser, afterLookup, later, rfl, -, thenReturns⟩ :=
    returns_perform_bind_iff.mp returns
  split at thenReturns
  · obtain ⟨-, rfl⟩ := returns_pure_iff.mp thenReturns
    cases success
  · obtain ⟨second, hashed, passwordHash, afterHash, rest, rfl, hashes, creates⟩ :=
      returns_perform_bind_iff.mp thenReturns
    obtain ⟨third, created, user, afterCreated, last, rfl, inserted, -⟩ :=
      returns_perform_bind_iff.mp creates
    refine ⟨user, rfl, ?_⟩
    have atInsert : third.WellFormed :=
      wellFormed _ (List.mem_cons_of_mem _ (List.mem_cons_of_mem _ List.mem_cons_self))
    obtain ⟨username, hash, -, -⟩ := Database.created_of_perform atInsert inserted
    refine ⟨username, ?_⟩
    simp only [Database.perform] at hashes
    split at hashes
    · next verifies =>
        cases hashes
        rwa [hash]
    · cases hashes

/-- `Login` looks for the name. It answers with a ticket for the user it has found if the password
fits, and otherwise refuses. -/
theorem login_returns {request : LoginRequestDto} {past : List Occurrence} {result : ActionResult}
    (returns : (login platform request).Returns platform past result) :
    ∃ lookup ∈ past,
      (lookup.before.users.find? fun user =>
        platform.collate user.username = platform.collate request.username).filter
          (fun user => platform.verify request.password user.passwordHash) = none ∧
        result.value.success = false ∨
      ∃ user, (lookup.before.users.find? fun user =>
        platform.collate user.username = platform.collate request.username).filter
          (fun user => platform.verify request.password user.passwordHash) = some user ∧
        ∃ issue ∈ past, ∃ sessionTicket, (sessionTicket, user.id) ∈ issue.after.issued ∧
          result = ok (.login
            { success := true, sessionTicket := some sessionTicket
              message := "Login successful." }) := by
  obtain ⟨first, lookup, found, afterLookup, later, rfl, looked, thenReturns⟩ :=
    returns_perform_bind_iff.mp returns
  simp only [Database.perform, Option.some.injEq, Prod.mk.injEq] at looked
  obtain ⟨rfl, -⟩ := looked
  refine ⟨_, List.mem_cons_self, ?_⟩
  split at thenReturns
  · next user fits =>
      obtain ⟨second, drawn, sessionTicket, afterIssue, rest, rfl, issues, last⟩ :=
        returns_perform_bind_iff.mp thenReturns
      obtain ⟨-, rfl⟩ := returns_pure_iff.mp last
      refine .inr ⟨user, fits, _, List.mem_cons_of_mem _ List.mem_cons_self, sessionTicket, ?_, rfl⟩
      simp only [Database.perform] at issues
      split at issues
      · cases issues
      · cases issues
        exact List.mem_cons_self
  · next refused =>
      obtain ⟨-, rfl⟩ := returns_pure_iff.mp thenReturns
      exact .inl ⟨Option.eq_none_iff_forall_ne_some.mpr refused, rfl⟩

/-! ## The account -/

/-- What the row of an account means for the requests that come after its registration. -/
structure Serves (platform : Platform) (user : User) (registration : Nat) (returned pool : Pool) :
    Prop where
  /-- The password logs in under the name, unless a store fails. -/
  admits : ∀ index thread request response, returned.threads.length ≤ index →
    pool.threads[index]? = some thread → thread.request = .login request →
    thread.rest = .done response → request.valid = true →
    platform.collate user.username = platform.collate request.username →
    platform.verify request.password user.passwordHash = true →
    response = .problem 500 ∨ ∃ sessionTicket, (sessionTicket, user.id) ∈ pool.state.issued ∧
      response = .result (ok (.login
        { success := true, sessionTicket := some sessionTicket, message := "Login successful." }))
  /-- Another password does not. -/
  refuses : ∀ index thread request response, returned.threads.length ≤ index →
    pool.threads[index]? = some thread → thread.request = .login request →
    thread.rest = .done response →
    platform.collate user.username = platform.collate request.username →
    platform.verify request.password user.passwordHash = false → response.success = false
  /-- Of all registrations of the name, earlier, later and at the same time, those that succeeded
  have lost their accounts. -/
  alone : ∀ index thread request response, index ≠ registration →
    pool.threads[index]? = some thread → thread.request = .register request →
    thread.rest = .done response → response.success = true →
    platform.collate user.username = platform.collate request.username →
    ∃ rival, createdUser? thread.past = some rival ∧ rival ∉ pool.state.users

/-- The calls of a registration that has succeeded. -/
theorem Registered.registration {index : Nat} {thread : Thread} {request : LoginRequestDto}
    {response : Response} (registered : Registered platform pool)
    (there : pool.threads[index]? = some thread) (asks : thread.request = .register request)
    (isDone : thread.rest = .done response) (success : response.success = true) :
    ∃ user, createdUser? thread.past = some user ∧ user.username = request.username ∧
      platform.verify request.password user.passwordHash = true := by
  have follows := registered.sound.followed index thread there
  rw [asks, isDone] at follows
  change (validated request.valid (register request)).Follows _ _ _ at follows
  cases valid : request.valid with
  | false =>
      rw [valid] at follows
      obtain ⟨-, same⟩ := Program.follows_done_iff.mp follows
      cases same
      cases success
  | true =>
      rw [valid] at follows
      obtain ⟨result, returns, rfl⟩ := returns_of_respond (by rintro rfl; cases success) follows
      exact register_returns
        (fun occurrence member => registered.sound.found index (Nat.zero_le _) thread there occurrence member)
        returns success

theorem Registered.login {index : Nat} {thread : Thread} {request : LoginRequestDto}
    {response : Response} {user : User} (registered : Registered platform pool)
    (there : pool.threads[index]? = some thread) (asks : thread.request = .login request)
    (isDone : thread.rest = .done response)
    (found : ∀ occurrence ∈ thread.past, user ∈ occurrence.before.users)
    (same : platform.collate user.username = platform.collate request.username) :
    response.success = false ∧ (response = .problem 500 ∨ request.valid = false ∨
      platform.verify request.password user.passwordHash = false) ∨
    platform.verify request.password user.passwordHash = true ∧
      ∃ sessionTicket, (sessionTicket, user.id) ∈ pool.state.issued ∧
        response = .result (ok (.login
          { success := true, sessionTicket := some sessionTicket
            message := "Login successful." })) := by
  have follows := registered.sound.followed index thread there
  rw [asks, isDone] at follows
  change (validated request.valid (Auth.login platform request)).Follows _ _ _ at follows
  cases valid : request.valid with
  | false =>
      rw [valid] at follows
      obtain ⟨-, same⟩ := Program.follows_done_iff.mp follows
      cases same
      exact .inl ⟨rfl, .inr (.inl rfl)⟩
  | true =>
      rw [valid] at follows
      by_cases fails : response = .problem 500
      · exact .inl ⟨by rw [fails]; rfl, .inl fails⟩
      · obtain ⟨result, returns, rfl⟩ := returns_of_respond fails follows
        obtain ⟨lookup, isLookup, answers⟩ := login_returns returns
        have differ := registered.found index (Nat.zero_le _) thread there lookup isLookup
        rw [differ.finds (found lookup isLookup) same] at answers
        rcases answers with ⟨unfit, failure⟩ | ⟨other, fits, issue, isIssue, sessionTicket, issued, rfl⟩
        · refine .inl ⟨failure, .inr (.inr ?_)⟩
          simpa [Option.filter] using unfit
        · obtain ⟨isUser, verifies⟩ := Option.filter_eq_some_iff.mp fits
          cases isUser
          exact .inr ⟨verifies, sessionTicket,
            registered.issued index thread there issue isIssue _ issued, rfl⟩

theorem account_access {labels : List Label} {returned : Pool} {index : Nat} {thread : Thread}
    {request : LoginRequestDto} {response : Response}
    (run : Runs platform { state := {} } labels returned)
    (there : returned.threads[index]? = some thread) (asks : thread.request = .register request)
    (isDone : thread.rest = .done response) (success : response.success = true) :
    ∃ user, user.username = request.username ∧
      platform.verify request.password user.passwordHash = true ∧
      createdUser? thread.past = some user ∧
      ∀ laterLabels pool, Runs platform returned laterLabels pool → user ∈ pool.state.users →
        Serves platform user index returned pool := by
  have registered : Registered platform returned :=
    run.preserves (Registered platform) Registered.step registered_initially
  obtain ⟨user, created, username, verifies⟩ := registered.registration there asks isDone success
  refine ⟨user, username, verifies, created, ?_⟩
  intro laterLabels pool laterRun member
  have known := registered.below index thread there user created
  have later : Registered platform pool :=
    laterRun.preserves (Registered platform) Registered.step registered
  have found := found_user laterRun registered known member
  refine ⟨?_, ?_, ?_⟩
  · intro place other login answer since isThere asksLogin answered valid same fits
    rcases later.login isThere asksLogin answered (found place since other isThere) same with
      ⟨-, fails | invalid | unfit⟩ | ⟨-, logsIn⟩
    · exact .inl fails
    · rw [valid] at invalid
      cases invalid
    · rw [fits] at unfit
      cases unfit
    · exact .inr logsIn
  · intro place other login answer since isThere asksLogin answered same unfit
    rcases later.login isThere asksLogin answered (found place since other isThere) same with
      ⟨failure, -⟩ | ⟨fits, -⟩
    · exact failure
    · rw [unfit] at fits
      cases fits
  · intro place other registration answer different isThere asksAgain answered succeeded same
    obtain ⟨rival, isCreated, itsName, -⟩ := later.registration isThere asksAgain answered succeeded
    refine ⟨rival, isCreated, fun isRival => ?_⟩
    have apart := later.apart index place (Ne.symm different) thread
      (thread_of_done laterRun there isDone) other isThere user created rival isCreated
    have oneRow : rival = user :=
      later.differ.eq_of_same member isRival (by rw [itsName, same])
    exact apart (by rw [oneRow])

/-- An account registers and logs in. -/
theorem account_access_of_login :
    ∃ returned pool thread response user, Runs samplePlatform { state := {} } (registers 0 "alice" 1 5) returned ∧
      returned.threads[0]? = some thread ∧ thread.rest = .done response ∧ response.success = true ∧
      Runs samplePlatform returned (logsIn 1 "alice" 6) pool ∧ user ∈ pool.state.users ∧
      ((pool.threads[1]?.bind fun login => login.rest.result?).map Response.success) = some true ∧
      Serves samplePlatform user 0 returned pool := by
  obtain ⟨start, pool, created, run, isUser, loggedIn⟩ :=
    exists_run_of_execute (service samplePlatform).step (some { state := {} })
      (registers 0 "alice" 1 5 ++ logsIn 1 "alice" 6)
      (fun pool : Pool => (pool.threads[0]?.bind fun thread => createdUser? thread.past).all
          (fun user => user ∈ pool.state.users) = true ∧
        ((pool.threads[1]?.bind fun login => login.rest.result?).map Response.success) = some true)
      (by decide +kernel)
  cases created
  obtain ⟨returned, first, second⟩ := run.split
  obtain ⟨again, other, createdAgain, firstAgain, thread, there, response, isResponse, asks, success⟩ :=
    exists_run_of_execute (service samplePlatform).step (some { state := {} }) (registers 0 "alice" 1 5)
      (fun pool => ∃ thread ∈ pool.threads[0]?, ∃ response ∈ thread.rest.result?,
        thread.request = .register { username := "alice", password := samplePassword } ∧
        response.success = true) (by decide +kernel)
  cases createdAgain
  cases first.deterministic firstAgain
  have isDone := Program.result?_eq_some_iff.mp isResponse
  obtain ⟨user, -, -, hasCreated, serves⟩ := account_access first there asks isDone success
  have member : user ∈ pool.state.users := by
    rw [thread_of_done second there isDone, Option.bind_some, hasCreated] at isUser
    exact of_decide_eq_true isUser
  exact ⟨returned, pool, thread, response, user, first, there, isDone, success, second, member, loggedIn,
    serves _ pool second member⟩

end CppMMO.Auth
