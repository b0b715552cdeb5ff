import CppMMO.Auth.AccountAccessProperties

/-! How long a ticket is good: from its issue on as long as Redis holds it, and never again once it
has been logged out, deleted or has expired. -/

set_option autoImplicit false

namespace CppMMO.Auth

open CppMMO.Lib

variable {platform : Platform} {pool next : Pool} {sessionTicket : String} {userId : Int32}

/-! ## What the stores keep -/

namespace Database

variable {database after : Database}

theorem WellFormed.holds_iff (wellFormed : database.WellFormed)
    (issued : (sessionTicket, userId) ∈ database.issued) :
    database.redis (sessionKey sessionTicket) ≠ none ↔
      database.redis (sessionKey sessionTicket) = some (toString userId.toInt) := by
  constructor
  · intro held
    obtain ⟨value, holds⟩ := Option.ne_none_iff_exists'.mp held
    obtain ⟨ticket, isIssued, sameKey, rfl⟩ := wellFormed.tickets.held _ _ holds
    have same : ticket = (sessionTicket, userId) :=
      List.inj_on_of_nodup_map wellFormed.tickets.nodup isIssued issued (sessionKey_injective sameKey).symm
    rw [holds, same]
  · intro holds
    rw [holds]
    exact Option.some_ne_none _

theorem held_of_erased {redis : String → Option String} {key erased : String}
    (held : Function.update redis erased none key ≠ none) : redis key ≠ none := by
  by_cases same : key = erased
  · rw [same, Function.update_self] at held
    exact absurd rfl held
  · rwa [Function.update_of_ne same] at held

/-- A key is set once, when its ticket is issued. -/
theorem Effect.held {made : Call} (effect : Effect platform database made after)
    (issued : (sessionTicket, userId) ∈ database.issued)
    (held : after.redis (sessionKey sessionTicket) ≠ none) :
    database.redis (sessionKey sessionTicket) ≠ none := by
  cases effect with
  | @stringSet owner guid fresh =>
      have different : sessionKey sessionTicket ≠ sessionKey (DotNet.guidText guid) :=
        fun same => fresh _ issued (sessionKey_injective same)
      change Function.update _ _ _ _ ≠ _ at held
      rwa [Function.update_of_ne different] at held
  | keyDelete => exact held_of_erased held
  | _ => exact held

theorem Effect.nextPlayerId_le {made : Call} (effect : Effect platform database made after) :
    database.nextPlayerId ≤ after.nextPlayerId := by
  cases effect with
  | createPlayer _ above =>
      change database.nextPlayerId ≤ _ + 1
      omega
  | _ => exact Int.le_refl _

/-- A character that is there and whose id was given out before was there before. -/
theorem Effect.mem_players {made : Call} {player : Player}
    (effect : Effect platform database made after) (wellFormed : database.WellFormed)
    (known : player.playerId.toInt < database.nextPlayerId) (member : player ∈ after.players) :
    player ∈ database.players := by
  cases effect with
  | createPlayer _ above inRange =>
      rcases List.mem_append.mp member with earlier | new
      · exact earlier
      · have positive := wellFormed.players.next_pos
        rw [List.mem_singleton.mp new, Int64.toInt_ofInt_of_le (by omega) inRange] at known
        omega
  | deletePlayersByUserId => exact List.mem_of_mem_filter member
  | deleteUser => exact List.mem_of_mem_filter member
  | _ => exact member

end Database

theorem held_of_step {label : Label} (taken : (service platform).step pool label = some next)
    (issued : (sessionTicket, userId) ∈ pool.state.issued)
    (held : next.state.redis (sessionKey sessionTicket) ≠ none) :
    pool.state.redis (sessionKey sessionTicket) ≠ none := by
  obtain ⟨request, -, rfl⟩ | ⟨index, choice, thread, made, andThen, answer, state, -, -, -, answered,
    rfl⟩ | ⟨event, state, -, changed, rfl⟩ := Service.step_cases taken
  · exact held
  · exact (Database.effect_of_answers answered).held issued held
  · cases event with
    | expire key =>
        cases changed
        exact Database.held_of_erased held

/-- A ticket that is held at the end was held for every request since. -/
theorem found_held {labels : List Label} {before : Pool} (run : Runs platform before labels pool)
    (issued : (sessionTicket, userId) ∈ before.state.issued)
    (held : pool.state.redis (sessionKey sessionTicket) ≠ none) :
    Service.Found before.threads.length
      (fun state => state.redis (sessionKey sessionTicket) ≠ none) pool := by
  refine Service.found_of_lasting (fun pool => (sessionTicket, userId) ∈ pool.state.issued) ?_ ?_ run
    issued held
  · intro before label after soFar taken
    exact issued_of_step taken soFar
  · intro before label after soFar taken heldAfter
    exact held_of_step taken soFar heldAfter

/-- What a request since then has found: the ticket is issued, and once it has ended it is not held
again. -/
theorem found_issued {labels : List Label} {before : Pool} (run : Runs platform before labels pool)
    (issued : (sessionTicket, userId) ∈ before.state.issued) :
    Service.Found before.threads.length (fun state => (sessionTicket, userId) ∈ state.issued ∧
      (before.state.redis (sessionKey sessionTicket) = none →
        state.redis (sessionKey sessionTicket) = none)) pool := by
  let property (state : Database) : Prop := (sessionTicket, userId) ∈ state.issued ∧
    (before.state.redis (sessionKey sessionTicket) = none →
      state.redis (sessionKey sessionTicket) = none)
  have reached : property pool.state ∧ Service.Found before.threads.length property pool := by
    refine run.preserves (fun pool => property pool.state ∧
      Service.Found before.threads.length property pool) ?_ ⟨⟨issued, id⟩, ?_⟩
    · intro earlier label after ⟨holds, found⟩ taken
      refine ⟨⟨issued_of_step taken holds.1, fun ended => ?_⟩, found.step holds taken⟩
      exact not_not.mp fun held => held_of_step taken holds.1 held (holds.2 ended)
    · intro index beyond thread there
      rw [List.getElem?_eq_none beyond] at there
      cases there
  exact reached.2

/-- A character that is there at the end was there for every request since. -/
theorem found_player {labels : List Label} {before : Pool} {player : Player}
    (run : Runs platform before labels pool) (sound : Sound platform before)
    (known : player.playerId.toInt < before.state.nextPlayerId) (member : player ∈ pool.state.players) :
    Service.Found before.threads.length (fun state => player ∈ state.players) pool := by
  let invariant (pool : Pool) : Prop :=
    Sound platform pool ∧ player.playerId.toInt < pool.state.nextPlayerId
  refine Service.found_of_lasting invariant ?_ ?_ run ⟨sound, known⟩ member
  · intro before label after soFar taken
    refine ⟨soFar.1.step taken, Int.lt_of_lt_of_le soFar.2 ?_⟩
    obtain ⟨request, -, rfl⟩ | ⟨index, choice, thread, made, andThen, answer, state, -, -, -, answered,
      rfl⟩ | ⟨event, state, -, changed, rfl⟩ := Service.step_cases taken
    · exact Int.le_refl _
    · exact (Database.effect_of_answers answered).nextPlayerId_le
    · cases event with
      | expire key =>
          cases changed
          exact Int.le_refl _
  · intro before label after soFar taken isThere
    obtain ⟨request, -, rfl⟩ | ⟨index, choice, thread, made, andThen, answer, state, -, -, -, answered,
      rfl⟩ | ⟨event, state, -, changed, rfl⟩ := Service.step_cases taken
    · exact isThere
    · exact (Database.effect_of_answers answered).mem_players soFar.1.wellFormed soFar.2 isThere
    · cases event with
      | expire key =>
          cases changed
          exact isThere

/-! ## Requests with a live ticket -/

section Live

variable {past : List Occurrence} {result : ActionResult}

theorem verify_admits {request : VerifyRequestDto} {player : Player}
    (returns : (verify request).Returns platform past result)
    (wellFormed : ∀ occurrence ∈ past, occurrence.before.WellFormed)
    (nonempty : request.sessionTicket ≠ "") (positive : ¬ request.playerId ≤ 0)
    (held : ∀ occurrence ∈ past,
      occurrence.before.redis (sessionKey request.sessionTicket) = some (toString userId.toInt))
    (member : ∀ occurrence ∈ past, player ∈ occurrence.before.players)
    (same : player.playerId = request.playerId) (own : player.userId = userId) :
    result = ok (.verify
      { success := true, playerInfo := some (.ofPlayer player)
        message := "Session and player verification successful." }) := by
  rw [verify, if_neg nonempty, if_neg positive] at returns
  obtain ⟨atRedis, draw, userIdString, afterRedis, later, rfl, read, thenReturns⟩ :=
    returns_perform_bind_iff.mp returns
  simp only [Database.perform, Option.some.injEq, Prod.mk.injEq] at read
  obtain ⟨rfl, -⟩ := read
  have holds : atRedis.redis (sessionKey request.sessionTicket) = some (toString userId.toInt) :=
    held _ List.mem_cons_self
  rw [holds, Option.bind_some, DotNet.intTryParse_toString] at thenReturns
  obtain ⟨atMySql, rows, found, afterMySql, rest, rfl, looked, lastReturns⟩ :=
    returns_perform_bind_iff.mp thenReturns
  simp only [Database.perform, Option.some.injEq, Prod.mk.injEq] at looked
  obtain ⟨rfl, -⟩ := looked
  have atLookup : atMySql.WellFormed := wellFormed _ (List.mem_cons_of_mem _ List.mem_cons_self)
  have isThere : player ∈ atMySql.players := member _ (List.mem_cons_of_mem _ List.mem_cons_self)
  rw [atLookup.finds_iff.mpr ⟨isThere, same⟩] at lastReturns
  simp only [own, ne_eq, not_true_eq_false, if_false] at lastReturns
  exact (returns_pure_iff.mp lastReturns).2.symm

/-- The list is what MySQL had at the second call. -/
theorem getCharacters_admits (returns : (getCharacters sessionTicket).Returns platform past result)
    (nonempty : sessionTicket ≠ "")
    (held : ∀ occurrence ∈ past,
      occurrence.before.redis (sessionKey sessionTicket) = some (toString userId.toInt)) :
    ∃ lookup ∈ past, ∃ rows : List Player, rows.Perm (lookup.before.playersOf userId) ∧
      result = ok (.characterList
        { success := true, characters := rows.map .ofPlayer
          message := "Characters retrieved successfully." }) := by
  rw [getCharacters, if_neg nonempty] at returns
  obtain ⟨atRedis, draw, userIdString, afterRedis, later, rfl, read, thenReturns⟩ :=
    returns_perform_bind_iff.mp returns
  simp only [Database.perform, Option.some.injEq, Prod.mk.injEq] at read
  obtain ⟨rfl, -⟩ := read
  have holds : atRedis.redis (sessionKey sessionTicket) = some (toString userId.toInt) :=
    held _ List.mem_cons_self
  rw [holds, Option.bind_some, DotNet.intTryParse_toString] at thenReturns
  obtain ⟨atMySql, drawn, rows, afterMySql, rest, rfl, listed, lastReturns⟩ :=
    returns_perform_bind_iff.mp thenReturns
  refine ⟨_, List.mem_cons_of_mem _ List.mem_cons_self, rows, ?_,
    (returns_pure_iff.mp lastReturns).2.symm⟩
  simp only [Database.perform] at listed
  split at listed
  · next accepted =>
      cases listed
      exact accepted.1
  · cases listed

end Live

/-! ## Requests that end a ticket -/

theorem logout_returns {request : LogoutRequestDto} {past : List Occurrence}
    (returns : (logout request).Returns platform past (ok (.message "Logged out successfully."))) :
    ∃ deletion ∈ past, deletedKey? deletion = some (sessionKey (request.sessionTicket.getD "")) ∧
      deletion.before.redis (sessionKey (request.sessionTicket.getD "")) ≠ none := by
  obtain ⟨before, draw, deleted, after, later, rfl, performed, thenReturns⟩ :=
    returns_perform_bind_iff.mp returns
  refine ⟨_, List.mem_cons_self, rfl, ?_⟩
  simp only [Database.perform, Option.some.injEq, Prod.mk.injEq] at performed
  cases deleted with
  | true => exact Option.isSome_iff_ne_none.mp performed.1
  | false =>
      have same := (returns_pure_iff.mp thenReturns).2
      cases same

theorem issued_of_mem {index : Nat} {thread : Thread} {occurrence : Occurrence} {ticket : String × Int32}
    (registered : Registered platform pool) (there : pool.threads[index]? = some thread)
    (member : occurrence ∈ thread.past) (issued : ticket ∈ occurrence.before.issued) :
    ticket ∈ pool.state.issued := by
  have answered := (registered.sound.followed index thread there).answered occurrence member
  exact registered.issued index thread there occurrence member ticket
    ((Database.effect_of_answers answered).mem_issued issued)

/-- A key that a request has deleted stays deleted, if it was a ticket's. -/
def Erased (sessionTicket : String) (userId : Int32) (pool : Pool) : Prop :=
  ∀ index : Nat, ∀ thread ∈ pool.threads[index]?, ∀ occurrence ∈ thread.past,
    deletedKey? occurrence = some (sessionKey sessionTicket) →
      (sessionTicket, userId) ∈ occurrence.before.issued →
      (sessionTicket, userId) ∈ pool.state.issued ∧ pool.state.redis (sessionKey sessionTicket) = none

theorem Erased.step {label : Label} (erased : Erased sessionTicket userId pool)
    (taken : (service platform).step pool label = some next) : Erased sessionTicket userId next := by
  intro index thread there occurrence member isDeletion issued
  obtain earlier | ⟨request, -, -, rfl⟩ | ⟨earlier, choice, made, andThen, answer, -, before, -, answered,
    rfl⟩ := Service.thread_cases taken there
  · obtain ⟨stillIssued, gone⟩ := erased index thread earlier occurrence member isDeletion issued
    exact ⟨issued_of_step taken stillIssued, not_not.mp fun held => held_of_step taken stillIssued held gone⟩
  · cases member
  · rcases List.mem_append.mp member with past | now
    · obtain ⟨stillIssued, gone⟩ := erased index earlier before occurrence past isDeletion issued
      exact ⟨issued_of_step taken stillIssued,
        not_not.mp fun held => held_of_step taken stillIssued held gone⟩
    · obtain rfl := List.mem_singleton.mp now
      refine ⟨issued_of_step taken issued, ?_⟩
      obtain ⟨found, outcome, existed, left, same⟩ := deletedKey?_eq_some isDeletion
      cases same
      obtain ⟨draw, -, performed⟩ := Database.performed_of_answers answered
      simp only [Database.perform, Option.some.injEq, Prod.mk.injEq] at performed
      rw [← performed.2]
      exact Function.update_self ..

/-! ## The ticket -/

/-- What becomes of a ticket that was issued before. -/
structure TicketLifetime (sessionTicket : String) (userId : Int32) (before pool : Pool) : Prop where
  /-- While it is held, the user's characters verify, unless a store fails. -/
  verifies : pool.state.redis (sessionKey sessionTicket) ≠ none →
    ∀ index thread request response player, before.threads.length ≤ index →
      pool.threads[index]? = some thread → thread.request = .verify request →
      request.sessionTicket = sessionTicket → thread.rest = .done response →
      player ∈ before.state.players → player ∈ pool.state.players → player.userId = userId →
      player.playerId = request.playerId →
      response = .problem 500 ∨ response = .result (ok (.verify
        { success := true, playerInfo := some (.ofPlayer player)
          message := "Session and player verification successful." }))
  /-- While it is held, the list of characters is the user's, and leaves none out that stays. -/
  lists : pool.state.redis (sessionKey sessionTicket) ≠ none →
    ∀ index thread response, before.threads.length ≤ index → pool.threads[index]? = some thread →
      thread.request = .getCharacters sessionTicket → thread.rest = .done response →
      response = .problem 500 ∨ ∃ rows : List Player, response = .result (ok (.characterList
          { success := true, characters := rows.map .ofPlayer
            message := "Characters retrieved successfully." })) ∧
        (∀ row ∈ rows, row.userId = userId) ∧
        ∀ player ∈ before.state.players, player ∈ pool.state.players → player.userId = userId →
          player ∈ rows
  /-- A `Logout` that succeeds with it ends it. -/
  ends : ∀ (index : Nat) (thread : Thread) request, pool.threads[index]? = some thread →
    thread.request = .logout request → request.sessionTicket = some sessionTicket →
    thread.rest = .done (.result (ok (.message "Logged out successfully."))) →
    pool.state.redis (sessionKey sessionTicket) = none
  /-- Once it has ended, no request is successful with it. The answers to `Logout` have no
  `Success` to tell by. -/
  refuses : before.state.redis (sessionKey sessionTicket) = none →
    ∀ index thread response, before.threads.length ≤ index → pool.threads[index]? = some thread →
      thread.request.sessionTicket? = some sessionTicket → thread.rest = .done response →
      response.success = false ∧ ∀ request, thread.request = .logout request →
        response ≠ .result (ok (.message "Logged out successfully."))

/-- What holds of every ticket in every state. -/
structure Ticketed (platform : Platform) (sessionTicket : String) (userId : Int32) (pool : Pool) :
    Prop where
  registered : Registered platform pool
  erased : Erased sessionTicket userId pool

theorem Ticketed.of_run {labels : List Label} (run : Runs platform { state := {} } labels pool) :
    Ticketed platform sessionTicket userId pool := by
  refine run.preserves (Ticketed platform sessionTicket userId) ?_ ⟨registered_initially, ?_⟩
  · intro before label after ticketed taken
    exact ⟨ticketed.registered.step taken, ticketed.erased.step taken⟩
  · intro index thread there
    cases there

section Later

variable {labels : List Label} {before : Pool} {index : Nat} {thread : Thread} {response : Response}

/-- What a request has read since, while the ticket was held. -/
theorem reads_of_held (sound : Sound platform pool) (run : Runs platform before labels pool)
    (issued : (sessionTicket, userId) ∈ before.state.issued)
    (held : pool.state.redis (sessionKey sessionTicket) ≠ none) (since : before.threads.length ≤ index)
    (there : pool.threads[index]? = some thread) :
    ∀ occurrence ∈ thread.past,
      occurrence.before.redis (sessionKey sessionTicket) = some (toString userId.toInt) := by
  intro occurrence member
  have wellFormed := sound.found index (Nat.zero_le _) thread there occurrence member
  have issuedThen := found_issued run issued index since thread there occurrence member
  exact (wellFormed.holds_iff issuedThen.1).mp
    (found_held run issued held index since thread there occurrence member)

theorem verifies_of_held {request : VerifyRequestDto} {player : Player} (soundBefore : Sound platform before)
    (sound : Sound platform pool) (run : Runs platform before labels pool)
    (issued : (sessionTicket, userId) ∈ before.state.issued)
    (held : pool.state.redis (sessionKey sessionTicket) = some (toString userId.toInt))
    (since : before.threads.length ≤ index) (there : pool.threads[index]? = some thread)
    (asks : thread.request = .verify request) (presents : request.sessionTicket = sessionTicket)
    (isDone : thread.rest = .done response) (was : player ∈ before.state.players)
    (stays : player ∈ pool.state.players) (own : player.userId = userId)
    (same : player.playerId = request.playerId) :
    response = .problem 500 ∨ response = .result (ok (.verify
      { success := true, playerInfo := some (.ofPlayer player)
        message := "Session and player verification successful." })) := by
  have follows := sound.followed index thread there
  rw [asks, isDone] at follows
  have nonblank := sound.wellFormed.not_isNullOrWhiteSpace held
  have valid : request.valid = true := by rw [VerifyRequestDto.valid, presents, nonblank]; rfl
  change (validated request.valid (verify request)).Follows _ _ _ at follows
  rw [valid] at follows
  by_cases fails : response = .problem 500
  · exact .inl fails
  · obtain ⟨result, returns, rfl⟩ := returns_of_respond fails follows
    subst presents
    have known := soundBefore.wellFormed.players.bounds player was
    have found := found_player run soundBefore known.2 stays index since thread there
    have reads := reads_of_held sound run issued (by simp [held]) since there
    right
    rw [verify_admits returns (sound.found index (Nat.zero_le _) thread there) ?_ ?_ reads found same own]
    · rintro empty
      rw [empty] at nonblank
      cases nonblank
    · intro notPositive
      have bound := Int64.le_iff_toInt_le.mp notPositive
      rw [← same, Int64.toInt_zero] at bound
      omega

theorem lists_of_held (soundBefore : Sound platform before) (sound : Sound platform pool)
    (run : Runs platform before labels pool) (issued : (sessionTicket, userId) ∈ before.state.issued)
    (held : pool.state.redis (sessionKey sessionTicket) = some (toString userId.toInt))
    (since : before.threads.length ≤ index) (there : pool.threads[index]? = some thread)
    (asks : thread.request = .getCharacters sessionTicket) (isDone : thread.rest = .done response) :
    response = .problem 500 ∨ ∃ rows : List Player, response = .result (ok (.characterList
        { success := true, characters := rows.map .ofPlayer
          message := "Characters retrieved successfully." })) ∧
      (∀ row ∈ rows, row.userId = userId) ∧
      ∀ player ∈ before.state.players, player ∈ pool.state.players → player.userId = userId →
        player ∈ rows := by
  have follows := sound.followed index thread there
  rw [asks, isDone] at follows
  have nonblank := sound.wellFormed.not_isNullOrWhiteSpace held
  change (validated (!DotNet.isNullOrWhiteSpace sessionTicket) (getCharacters sessionTicket)).Follows
    _ _ _ at follows
  rw [nonblank] at follows
  by_cases fails : response = .problem 500
  · exact .inl fails
  · obtain ⟨result, returns, rfl⟩ := returns_of_respond fails follows
    have nonempty : sessionTicket ≠ "" := by
      rintro rfl
      cases nonblank
    have reads := reads_of_held sound run issued (by simp [held]) since there
    obtain ⟨lookup, isLookup, rows, listed, rfl⟩ := getCharacters_admits returns nonempty reads
    refine .inr ⟨rows, rfl, ?_, ?_⟩
    · intro row member
      simpa using (List.mem_filter.mp (listed.mem_iff.mp member)).2
    · intro player was stays own
      have known := soundBefore.wellFormed.players.bounds player was
      have found := found_player run soundBefore known.2 stays index since thread there lookup isLookup
      exact listed.mem_iff.mpr (List.mem_filter.mpr ⟨found, by simpa using own⟩)

/-- The key that a successful `Logout` has deleted was a ticket's, so it was this ticket's. -/
theorem Ticketed.ends {request : LogoutRequestDto}
    (ticketed : Ticketed platform sessionTicket userId pool)
    (issued : (sessionTicket, userId) ∈ pool.state.issued) (there : pool.threads[index]? = some thread)
    (asks : thread.request = .logout request) (presents : request.sessionTicket = some sessionTicket)
    (isDone : thread.rest = .done (.result (ok (.message "Logged out successfully.")))) :
    pool.state.redis (sessionKey sessionTicket) = none := by
  have sound := ticketed.registered.sound
  have follows := sound.followed index thread there
  rw [asks, isDone] at follows
  obtain ⟨result, returns, same⟩ := returns_of_respond (by rintro ⟨⟩) follows
  cases same
  obtain ⟨deletion, isDeletion, deletes, held⟩ := logout_returns returns
  rw [presents, Option.getD_some] at deletes held
  have wellFormed := sound.found index (Nat.zero_le _) thread there deletion isDeletion
  obtain ⟨value, holds⟩ := Option.ne_none_iff_exists'.mp held
  obtain ⟨ticket, isIssued, sameKey, -⟩ := wellFormed.tickets.held _ _ holds
  have sameTicket : ticket = (sessionTicket, userId) :=
    List.inj_on_of_nodup_map sound.wellFormed.tickets.nodup
      (issued_of_mem ticketed.registered there isDeletion isIssued) issued
      (sessionKey_injective sameKey).symm
  exact (ticketed.erased index thread there deletion isDeletion deletes (sameTicket ▸ isIssued)).2

end Later

theorem ticket_lifetime {labels laterLabels : List Label} {before : Pool}
    (run : Runs platform { state := {} } labels before)
    (issued : (sessionTicket, userId) ∈ before.state.issued)
    (laterRun : Runs platform before laterLabels pool) :
    TicketLifetime sessionTicket userId before pool := by
  have soundBefore : Sound platform before := run.preserves (Sound platform) Sound.step sound_initially
  have ticketed : Ticketed platform sessionTicket userId pool := .of_run (run.append laterRun)
  have sound := ticketed.registered.sound
  have stillIssued : (sessionTicket, userId) ∈ pool.state.issued :=
    laterRun.preserves (fun pool => (sessionTicket, userId) ∈ pool.state.issued)
      (fun soFar taken => issued_of_step taken soFar) issued
  refine ⟨?_, ?_, ?_, ?_⟩
  · intro held index thread request response player since there asks presents isDone
    exact verifies_of_held soundBefore sound laterRun issued
      ((sound.wellFormed.holds_iff stillIssued).mp held) since there asks presents isDone
  · intro held index thread response since there asks isDone
    exact lists_of_held soundBefore sound laterRun issued
      ((sound.wellFormed.holds_iff stillIssued).mp held) since there asks isDone
  · intro index thread request there asks presents isDone
    exact ticketed.ends stillIssued there asks presents isDone
  · intro ended index thread response since there presents isDone
    have follows := sound.followed index thread there
    rw [isDone] at follows
    have dead : ∀ occurrence ∈ thread.past,
        occurrence.before.redis (sessionKey sessionTicket) = none := by
      intro occurrence member
      exact (found_issued laterRun issued index since thread there occurrence member).2 ended
    refine ⟨unsuccessful_of_dead_ticket presents dead follows, ?_⟩
    rintro request asks rfl
    rw [asks] at presents follows
    cases presents
    obtain ⟨result, returns, same⟩ := returns_of_respond (by rintro ⟨⟩) follows
    cases same
    obtain ⟨deletion, isDeletion, -, held⟩ := logout_returns returns
    exact held (dead deletion isDeletion)

def verifiesAndLogsOut : List Label :=
  [.start (.verify { sessionTicket := DotNet.guidText 5, playerId := 1 }), .advance 2 (.answers {}),
    .advance 2 (.answers {}), .start (.logout { sessionTicket := some (DotNet.guidText 5) }),
    .advance 3 (.answers {})]

def presentsAgain : List Label :=
  [.start (.getCharacters (DotNet.guidText 5)), .advance 4 (.answers {}),
    .start (.logout { sessionTicket := some (DotNet.guidText 5) }), .advance 5 (.answers {})]

/-- A character that verifies, a logout, then the list and a second logout, which are refused. -/
theorem ticket_lifetime_of_logout :
    ∃ labels before ended pool, Runs samplePlatform { state := {} } labels before ∧
      (DotNet.guidText 5, 1) ∈ before.state.issued ∧
      Runs samplePlatform before verifiesAndLogsOut ended ∧
      ((ended.threads[2]?.bind fun thread => thread.rest.result?).map Response.success) = some true ∧
      ended.state.redis (sessionKey (DotNet.guidText 5)) = none ∧
      Runs samplePlatform ended presentsAgain pool ∧
      (∀ index ∈ [4, 5], ((pool.threads[index]?.bind fun thread => thread.rest.result?).map
        Response.success) = some false) ∧
      TicketLifetime (DotNet.guidText 5) 1 before ended ∧ TicketLifetime (DotNet.guidText 5) 1 ended pool := by
  let labels := registers 0 "alice" 1 5 ++ createsCharacter 1 5 "alice" [] 1
  obtain ⟨start, pool, created, run, refused⟩ :=
    exists_run_of_execute (service samplePlatform).step (some { state := {} })
      (labels ++ (verifiesAndLogsOut ++ presentsAgain))
      (fun pool : Pool => ∀ index ∈ [4, 5], ((pool.threads[index]?.bind fun thread =>
        thread.rest.result?).map Response.success) = some false) (by decide +kernel)
  cases created
  obtain ⟨before, first, rest⟩ := run.split
  obtain ⟨ended, second, third⟩ := rest.split
  obtain ⟨again, other, createdAgain, firstAgain, issued⟩ :=
    exists_run_of_execute (service samplePlatform).step (some { state := {} }) labels
      (fun pool : Pool => (DotNet.guidText 5, 1) ∈ pool.state.issued) (by decide +kernel)
  cases createdAgain
  cases first.deterministic firstAgain
  obtain ⟨again, other, createdAgain, upToLogout, verified, gone, stillIssued⟩ :=
    exists_run_of_execute (service samplePlatform).step (some { state := {} })
      (labels ++ verifiesAndLogsOut) (fun pool : Pool =>
        ((pool.threads[2]?.bind fun thread => thread.rest.result?).map Response.success) = some true ∧
          pool.state.redis (sessionKey (DotNet.guidText 5)) = none ∧
          (DotNet.guidText 5, 1) ∈ pool.state.issued) (by decide +kernel)
  cases createdAgain
  cases (first.append second).deterministic upToLogout
  exact ⟨labels, before, ended, pool, first, issued, second, verified, gone, third, refused,
    ticket_lifetime first issued second,
    ticket_lifetime (first.append second) stillIssued third⟩

end CppMMO.Auth
