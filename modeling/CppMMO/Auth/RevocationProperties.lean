import CppMMO.Auth.AccountDeletionProperties

/-! What is left of a deleted account: its rows are gone for good, but a ticket lives on unless it
is the one that was presented. -/

set_option autoImplicit false

namespace CppMMO.Auth

open CppMMO.Lib

variable {platform : Platform} {pool : Pool}

/-! ## Users that are gone -/

/-- The user has no row, and its id is not given out again. -/
structure Departed (userId : Int32) (database : Database) : Prop where
  noRow : ∀ user ∈ database.users, user.id ≠ userId
  used : userId.toInt < database.nextUserId

def Call.issuesTo (userId : Int32) : Call → Bool
  | .stringSet owner => owner = userId
  | _ => false

/-- No key but the spared one holds the user's id. -/
def HeldOnlyBy (userId : Int32) (spared? : Option String) (redis : String → Option String) : Prop :=
  ∀ key, redis key = some (toString userId.toInt) → spared? = some key

/-- The user has departed, at most one of its tickets is left, and no request is about to issue
another. -/
structure Gone (userId : Int32) (spared? : Option String) (pool : Pool) : Prop where
  departed : Departed userId pool.state
  held : HeldOnlyBy userId spared? pool.state.redis
  noIssue : ∀ thread ∈ pool.threads, thread.rest.next?.any (Call.issuesTo userId) = false

section Gone

variable {before after : Database} {userId : Int32} {spared? : Option String} {made : Call}

theorem Departed.effect (departed : Departed userId before) (wellFormed : before.WellFormed)
    (effect : Database.Effect platform before made after) : Departed userId after := by
  cases effect with
  | @createUser username passwordHash id _ next inRange =>
      have positive := wellFormed.users.next_pos
      have used := departed.used
      have kept : (Int32.ofInt id).toInt = id := Int32.toInt_ofInt_of_le (by omega) inRange
      constructor
      · intro user member
        rcases List.mem_append.mp member with earlier | new
        · exact departed.noRow user earlier
        · rw [List.mem_singleton.mp new]
          intro same
          rw [← same, kept] at used
          omega
      · change userId.toInt < id + 1
        omega
  | deleteUser =>
      exact ⟨fun user member => departed.noRow user (List.mem_of_mem_filter member), departed.used⟩
  | _ => exact ⟨departed.noRow, departed.used⟩

theorem toString_toInt_injective {userId other : Int32}
    (same : toString userId.toInt = toString other.toInt) : userId = other := by
  have reads := DotNet.intTryParse_toString userId
  rw [same, DotNet.intTryParse_toString] at reads
  exact (Option.some.inj reads).symm

section Held

variable {redis : String → Option String}

theorem HeldOnlyBy.erase (held : HeldOnlyBy userId spared? redis) (erased : String) :
    HeldOnlyBy userId spared? (Function.update redis erased none) := by
  intro key holds
  by_cases same : key = erased
  · simp [same] at holds
  · rw [Function.update_of_ne same] at holds
    exact held key holds

theorem HeldOnlyBy.erase_spared {spared : String} (held : HeldOnlyBy userId (some spared) redis) :
    HeldOnlyBy userId none (Function.update redis spared none) := by
  intro key holds
  have same : spared = key := Option.some.inj (held.erase spared key holds)
  simp [same] at holds

theorem HeldOnlyBy.issue {owner : Int32} (held : HeldOnlyBy userId spared? redis)
    (different : owner ≠ userId) (issued : String) :
    HeldOnlyBy userId spared? (Function.update redis issued (some (toString owner.toInt))) := by
  intro key holds
  by_cases same : key = issued
  · rw [same, Function.update_self] at holds
    exact absurd (toString_toInt_injective (Option.some.inj holds)) different
  · rw [Function.update_of_ne same] at holds
    exact held key holds

end Held

theorem HeldOnlyBy.effect (held : HeldOnlyBy userId spared? before.redis)
    (notIssuing : made.issuesTo userId = false) (effect : Database.Effect platform before made after) :
    HeldOnlyBy userId spared? after.redis := by
  cases effect with
  | @stringSet owner guid fresh =>
      have different : owner ≠ userId := by simpa [Call.issuesTo] using notIssuing
      exact held.issue different _
  | keyDelete => exact held.erase _
  | _ => exact held

/-- Nobody is told about a user who has departed. -/
theorem Departed.not_namesUser {choice : Outcome} {answer : made.Answer} (departed : Departed userId before)
    (wellFormed : before.WellFormed)
    (answered : before.answers platform made choice = some (answer, after)) :
    ¬ NamesUser made answer userId := by
  intro names
  cases made with
  | getUserByUsername username =>
      cases answer with
      | none => cases names
      | some found =>
          cases found with
          | none => cases names
          | some user =>
              obtain ⟨draw, -, performed⟩ := Database.performed_of_answers answered
              simp only [Database.perform, Option.some.injEq, Prod.mk.injEq] at performed
              exact departed.noRow user (List.mem_of_find?_eq_some performed.1) names
  | createUser username passwordHash =>
      cases answer with
      | none => cases names
      | some user =>
          obtain ⟨draw, -, performed⟩ := Database.performed_of_answers answered
          simp only [Database.perform, Database.createUser] at performed
          split at performed
          · cases performed
          · split at performed
            · next drawn =>
                cases performed
                have positive := wellFormed.users.next_pos
                have used := departed.used
                rw [← names, Int32.toInt_ofInt_of_le (by omega) drawn.2] at used
                omega
            · cases performed
  | _ => cases names

end Gone

variable {next : Pool} {userId : Int32} {spared? : Option String}

theorem Gone.notIssuing {index : Nat} {thread : Thread} {made : Call}
    {andThen : made.Answer → Program Call Call.Answer Response} (gone : Gone userId spared? pool)
    (there : pool.threads[index]? = some thread) (waits : thread.rest = .call made andThen) :
    made.issuesTo userId = false := by
  have none := gone.noIssue thread (List.mem_of_getElem? there)
  rwa [waits, Program.next?, Option.any_some] at none

theorem Gone.step {label : Label} (gone : Gone userId spared? pool) (sound : Sound platform pool)
    (taken : (service platform).step pool label = some next) : Gone userId spared? next := by
  obtain ⟨request, -, rfl⟩ | ⟨index, choice, thread, made, andThen, answer, state, -, there, waits, answered,
    rfl⟩ | ⟨event, state, -, changed, rfl⟩ := Service.step_cases taken
  · refine ⟨gone.departed, gone.held, ?_⟩
    intro thread member
    rcases List.mem_append.mp member with earlier | new
    · exact gone.noIssue thread earlier
    · rw [List.mem_singleton.mp new]
      cases first : (serve platform request).next? with
      | none => simp [service, first]
      | some made =>
          have initial := (guarded_serve platform request).next? made first
          cases made with
          | stringSet => cases initial
          | _ => simp [service, first, Call.issuesTo]
  · have effect := Database.effect_of_answers answered
    refine ⟨gone.departed.effect sound.wellFormed effect,
      gone.held.effect (gone.notIssuing there waits) effect, ?_⟩
    intro other member
    rcases List.mem_or_eq_of_mem_set member with earlier | rfl
    · exact gone.noIssue other earlier
    · rw [Option.any_eq_false]
      intro later comes
      cases later with
      | stringSet owner =>
          have names : NamesUser made answer owner := sound.allowed there waits comes
          have different : owner ≠ userId := fun same =>
            gone.departed.not_namesUser sound.wellFormed answered (same ▸ names)
          simp [Call.issuesTo, different]
      | _ => simp [Call.issuesTo]
  · cases event with
    | expire key =>
        cases changed
        exact ⟨⟨gone.departed.noRow, gone.departed.used⟩, gone.held.erase key, gone.noIssue⟩

/-- A request is told that it has deleted a user's row, and another ticket of the user is live, or
about to be issued. -/
def leavesTickets (pool : Pool) : Label → Bool
  | .advance index (.answers _) =>
      match pool.threads[index]? with
      | none => false
      | some thread =>
          match thread.rest.next? with
          | some (.deleteUser userId) =>
              pool.state.users.any (·.id = userId) &&
                ((pool.state.issued.any fun ticket =>
                  ticket.2 = userId && thread.request.sessionTicket? ≠ some ticket.1 &&
                    (pool.state.redis (sessionKey ticket.1)).isSome) ||
                  pool.threads.any fun other => other.rest.next?.any (Call.issuesTo userId))
          | _ => false
  | _ => false

def revokingStep (platform : Platform) (pool : Pool) (label : Label) : Option Pool :=
  if leavesTickets pool label then none else (service platform).step pool label

theorem step_of_revokingStep {label : Label} (taken : revokingStep platform pool label = some next) :
    leavesTickets pool label = false ∧ (service platform).step pool label = some next := by
  unfold revokingStep at taken
  split at taken
  · cases taken
  · next clean => exact ⟨by simpa using clean, taken⟩

/-- The user that the call found and deleted. -/
def deletedUser? : Occurrence → Option Int32
  | ⟨_, .deleteUser userId, _, some true, _⟩ => some userId
  | _ => none

def deletedKey? : Occurrence → Option String
  | ⟨_, .keyDelete key, _, some _, _⟩ => some key
  | _ => none

theorem deletedUser?_eq_some {occurrence : Occurrence} (deleted : deletedUser? occurrence = some userId) :
    ∃ before choice after, occurrence = ⟨before, .deleteUser userId, choice, some true, after⟩ := by
  obtain ⟨before, made, choice, answer, after⟩ := occurrence
  cases made with
  | deleteUser owner =>
      cases answer with
      | none => cases deleted
      | some existed =>
          cases existed with
          | false => cases deleted
          | true =>
              cases deleted
              exact ⟨before, choice, after, rfl⟩
  | _ => cases deleted

theorem deletedKey?_eq_some {occurrence : Occurrence} {key : String}
    (deleted : deletedKey? occurrence = some key) :
    ∃ before choice existed after, occurrence = ⟨before, .keyDelete key, choice, some existed, after⟩ := by
  obtain ⟨before, made, choice, answer, after⟩ := occurrence
  cases made with
  | keyDelete erased =>
      cases answer with
      | none => cases deleted
      | some existed =>
          cases deleted
          exact ⟨before, choice, existed, after, rfl⟩
  | _ => cases deleted

/-- Where the last ticket of a user is the presented one, its deletion leaves only that. -/
theorem gone_of_deletion {index : Nat} {thread : Thread} {choice : Outcome}
    {andThen : Option Bool → Program Call Call.Answer Response}
    (sound : Sound platform pool) (there : pool.threads[index]? = some thread)
    (waits : thread.rest = .call (.deleteUser userId) andThen)
    (answered : pool.state.answers platform (.deleteUser userId) choice = some (some true, next.state))
    (taken : (service platform).step pool (.advance index choice) = some next)
    (clean : leavesTickets pool (.advance index choice) = false) :
    Gone userId thread.request.key? next := by
  obtain ⟨draw, rfl, performed⟩ := Database.performed_of_answers answered
  simp only [Database.perform, Option.some.injEq, Prod.mk.injEq] at performed
  obtain ⟨hasRow, state⟩ := performed
  have comesTo : thread.rest.next? = some (.deleteUser userId) := by rw [waits]; rfl
  simp only [leavesTickets, there, comesTo, hasRow, Bool.true_and, Bool.or_eq_false_iff,
    List.any_eq_false] at clean
  obtain ⟨user, isUser, own⟩ := List.any_eq_true.mp hasRow
  refine ⟨⟨?_, ?_⟩, ?_, ?_⟩
  · intro remaining member
    rw [← state] at member
    simpa using (List.mem_filter.mp member).2
  · have used := sound.wellFormed.users.lt_next user isUser
    rw [of_decide_eq_true own] at used
    rw [← state]
    exact used
  · intro key holds
    have heldBefore : pool.state.redis key = some (toString userId.toInt) := by
      rw [← state] at holds
      exact holds
    obtain ⟨ticket, isIssued, rfl, value⟩ := sound.wellFormed.tickets.held key _ heldBefore
    have isOwn : ticket.2 = userId := (toString_toInt_injective value).symm
    have presented : thread.request.sessionTicket? = some ticket.1 := by
      simpa [isOwn, heldBefore] using clean.1 ticket isIssued
    rw [Request.key?, presented, Option.map_some]
  · intro remaining member
    obtain ⟨place, isThere⟩ := List.getElem?_of_mem member
    obtain earlier | ⟨request, starts, -⟩ | ⟨earlier, _, made, goesOn, answer, same, earlierThere, earlierWaits,
      -, rfl⟩ := Service.thread_cases taken isThere
    · simpa using clean.2 remaining (List.mem_of_getElem? earlier)
    · cases starts
    · cases same
      cases there.symm.trans earlierThere
      cases waits.symm.trans earlierWaits
      rw [Option.any_eq_false]
      intro later comes
      cases later with
      | stringSet owner =>
          cases answer with
          | none => exact False.elim (sound.allowed there waits comes)
          | some deleted => exact False.elim (sound.allowed there waits comes)
      | _ => simp [Call.issuesTo]

/-- Each user that a request has deleted is gone, and so is the presented ticket once the request
has deleted that too. -/
structure Revoked (pool : Pool) : Prop where
  user : ∀ index : Nat, ∀ thread ∈ pool.threads[index]?, ∀ front last userId,
    thread.past = front ++ [last] → deletedUser? last = some userId → Gone userId thread.request.key? pool
  ticket : ∀ index : Nat, ∀ thread ∈ pool.threads[index]?, ∀ front deletion last userId key,
    thread.past = front ++ [deletion] ++ [last] → deletedUser? deletion = some userId →
    deletedKey? last = some key → Gone userId none pool

theorem Revoked.step {label : Label} (revoked : Revoked pool) (sound : Sound platform pool)
    (taken : revokingStep platform pool label = some next) : Revoked next := by
  obtain ⟨clean, stepTaken⟩ := step_of_revokingStep taken
  constructor
  · intro index thread there front last userId isPast deleted
    obtain earlier | ⟨request, -, -, rfl⟩ | ⟨earlier, choice, made, andThen, answer, rfl, before, waits,
      answered, rfl⟩ := Service.thread_cases stepTaken there
    · exact (revoked.user index thread earlier front last userId isPast deleted).step sound stepTaken
    · simp at isPast
    · obtain ⟨-, same⟩ := List.append_inj' isPast rfl
      cases same
      obtain ⟨found, outcome, left, same⟩ := deletedUser?_eq_some deleted
      cases same
      have gone := gone_of_deletion sound before waits answered stepTaken clean
      exact gone
  · intro index thread there front deletion last userId key isPast deleted deletedKey
    obtain earlier | ⟨request, -, -, rfl⟩ | ⟨earlier, choice, made, andThen, answer, rfl, before, waits,
      answered, rfl⟩ := Service.thread_cases stepTaken there
    · exact (revoked.ticket index thread earlier front deletion last userId key isPast deleted
        deletedKey).step sound stepTaken
    · simp at isPast
    · obtain ⟨isEarlier, same⟩ := List.append_inj' isPast rfl
      cases same
      obtain ⟨found, outcome, existed, left, same⟩ := deletedKey?_eq_some deletedKey
      cases same
      have gone := revoked.user index earlier before front deletion userId isEarlier deleted
      have follows := (sound.step stepTaken).followed index _ there
      have presented : earlier.request.key? = some key :=
        (within_of_follows follows _ (List.mem_append_right _ List.mem_cons_self)).key key rfl
      obtain ⟨draw, -, performed⟩ := Database.performed_of_answers answered
      simp only [Database.perform, Option.some.injEq, Prod.mk.injEq] at performed
      have later := gone.step sound stepTaken
      refine ⟨later.departed, ?_, later.noIssue⟩
      rw [← performed.2]
      rw [presented] at gone
      exact gone.held.erase_spared

/-- A successful deletion ends with the user's row and the presented ticket deleted. -/
theorem deleted_of_follows {sessionTicket : String} {past : List Occurrence} {result : ActionResult}
    (follows : (deleteAccount sessionTicket userId).run.Follows (Database.answers platform) past
      (.done (some result)))
    (success : result.value.success = true) :
    ∃ front deletion last, past = front ++ [deletion] ++ [last] ∧
      deletedUser? deletion = some userId ∧ deletedKey? last = some (sessionKey sessionTicket) := by
  obtain ⟨before, draw, count, after, later, rfl, -, thenUser⟩ := returns_perform_bind_iff.mp follows
  obtain ⟨found, userDraw, deleted, left, last, rfl, -, thenTicket⟩ := returns_perform_bind_iff.mp thenUser
  cases deleted with
  | false =>
      obtain ⟨-, rfl⟩ := returns_pure_iff.mp thenTicket
      cases success
  | true =>
      obtain ⟨atRedis, ticketDraw, existed, afterTicket, rest, rfl, -, returned⟩ :=
        returns_perform_bind_iff.mp thenTicket
      obtain ⟨rfl, -⟩ := returns_pure_iff.mp returned
      exact ⟨[_], _, _, rfl, rfl, rfl⟩

theorem gone_of_success {index : Nat} {thread : Thread} {request : DeleteUserRequestDto}
    {response : Response} (sound : Sound platform pool) (revoked : Revoked pool)
    (there : pool.threads[index]? = some thread) (asks : thread.request = .deleteUser request)
    (isDone : thread.rest = .done response) (success : response.success = true) :
    ∃ userId, servedUser thread.request thread.past = some userId ∧ Gone userId none pool := by
  have follows := sound.followed index thread there
  rw [asks, isDone] at follows
  obtain ⟨outcome, actionFollows, rfl⟩ := follows_respond_iff.mp follows
  cases outcome with
  | none => cases success
  | some result =>
      obtain ⟨-, failed⟩ | ⟨userId, atRedis, redisChoice, userIdString, redisAfter, atMySql, choice, user,
        mySqlAfter, back, deletion, isPast, parsed, -, deletes, returned⟩ := deletion_cases actionFollows
      · exact absurd (failed result rfl) (by simpa [Response.success] using success)
      · rcases returned with ⟨-, rfl⟩ | ⟨-, failed⟩
        · obtain ⟨front, deletion, last, rfl, deleted, deletedKey⟩ := deleted_of_follows deletes success
          refine ⟨userId, ?_, ?_⟩
          · simpa [servedUser, asks, Request.key?, Request.sessionTicket?, isPast] using parsed
          exact revoked.ticket index thread there (_ :: _ :: front) deletion last userId _
            isPast deleted deletedKey
        · exact absurd (failed result rfl) (by simpa [Response.success] using success)

/-! ## Requests with a dead ticket -/

/-- The program reads the ticket first, and fails if it finds nothing. -/
def Refuses (key : String) (program : Program Call Call.Answer Response) : Prop :=
  (∃ response, program = .done response ∧ response.success = false) ∨
    ∃ andThen, program = .call (.stringGet key) andThen ∧
      ∀ answer ∈ [none, some none], ∃ response, andThen answer = .done response ∧ response.success = false

theorem refuses_validated {valid : Bool} {action : Action ActionResult} {key : String}
    (refuses : Refuses key (respond action)) : Refuses key (validated valid action) := by
  cases valid with
  | false => exact .inl ⟨_, rfl, rfl⟩
  | true => exact refuses

theorem refuses_perform_bind {key : String} {andThen : Option String → Action ActionResult}
    {result : ActionResult} (fails : andThen none = pure result) (unsuccessful : result.value.success = false) :
    Refuses key (respond (perform (.stringGet key) >>= andThen)) := by
  refine .inr ⟨_, rfl, ?_⟩
  intro answer isUnread
  rcases List.mem_cons.mp isUnread with rfl | isNone
  · exact ⟨_, rfl, rfl⟩
  · rw [List.mem_singleton.mp isNone]
    refine ⟨.result result, ?_, unsuccessful⟩
    change respond (andThen none) = _
    rw [fails]
    rfl

/-- Every request that presents a ticket is refused when nothing is found under it. -/
theorem refuses_serve (platform : Platform) {request : Request} {sessionTicket : String}
    (presents : request.sessionTicket? = some sessionTicket) :
    Refuses (sessionKey sessionTicket) (serve platform request) ∨ ∃ logout, request = .logout logout := by
  cases request with
  | register | login | rejected => cases presents
  | logout request => exact .inr ⟨request, rfl⟩
  | verify request =>
      cases presents
      refine .inl (refuses_validated ?_)
      unfold verify
      split
      · exact .inl ⟨_, rfl, rfl⟩
      · split
        · exact .inl ⟨_, rfl, rfl⟩
        · exact refuses_perform_bind rfl rfl
  | getCharacters sessionTicket =>
      cases presents
      refine .inl (refuses_validated ?_)
      unfold getCharacters
      split
      · exact .inl ⟨_, rfl, rfl⟩
      · exact refuses_perform_bind rfl rfl
  | createCharacter sessionTicket request =>
      cases presents
      refine .inl (refuses_validated ?_)
      unfold createCharacter
      split
      · exact .inl ⟨_, rfl, rfl⟩
      · split
        · exact .inl ⟨_, rfl, rfl⟩
        · exact refuses_perform_bind rfl rfl
  | deleteUser request =>
      cases presents
      refine .inl ?_
      simp only [serve]
      unfold deleteUser
      split
      · exact .inl ⟨_, rfl, rfl⟩
      · exact refuses_perform_bind rfl rfl

theorem unsuccessful_of_dead_ticket {request : Request} {sessionTicket : String} {past : List Occurrence}
    {response : Response} (presents : request.sessionTicket? = some sessionTicket)
    (dead : ∀ occurrence ∈ past, occurrence.before.redis (sessionKey sessionTicket) = none)
    (follows : (serve platform request).Follows (Database.answers platform) past (.done response)) :
    response.success = false := by
  obtain (⟨failure, isDone, unsuccessful⟩ | ⟨andThen, isCall, refuses⟩) | ⟨request, rfl⟩ :=
    refuses_serve platform presents
  · rw [isDone] at follows
    obtain ⟨-, same⟩ := Program.follows_done_iff.mp follows
    cases same
    exact unsuccessful
  · rw [isCall] at follows
    obtain ⟨before, choice, answer, after, later, rfl, answered, rest⟩ := Program.follows_call_iff.mp follows
    have unread : answer ∈ [none, some none] := by
      cases answer with
      | none => simp
      | some userIdString =>
          obtain ⟨draw, -, performed⟩ := Database.performed_of_answers answered
          cases performed
          simpa using dead _ List.mem_cons_self
    obtain ⟨failure, isDone, unsuccessful⟩ := refuses answer unread
    rw [isDone] at rest
    obtain ⟨-, same⟩ := Program.follows_done_iff.mp rest
    cases same
    exact unsuccessful
  · obtain ⟨outcome, actionFollows, rfl⟩ := follows_respond_iff.mp follows
    obtain ⟨before, choice, after, ⟨-, rfl, -⟩ | ⟨deleted, later, -, -, rest⟩⟩ :=
      follows_perform_bind_iff.mp actionFollows
    · rfl
    · split at rest
      · obtain ⟨-, rfl⟩ := follows_pure_iff.mp rest
        rfl
      · obtain ⟨-, rfl⟩ := follows_pure_iff.mp rest
        rfl

theorem Database.Effect.mem_issued_iff {before after : Database} {made : Call} {sessionTicket : String}
    (notIssuing : made.issuesTo userId = false) (effect : Effect platform before made after) :
    (sessionTicket, userId) ∈ after.issued ↔ (sessionTicket, userId) ∈ before.issued := by
  cases effect with
  | @stringSet owner guid fresh =>
      have different : owner ≠ userId := by simpa [Call.issuesTo] using notIssuing
      simp [Ne.symm different]
  | _ => exact Iff.rfl

/-- Nobody is issued a ticket in the name of a user who is gone. -/
theorem Gone.mem_issued_iff {label : Label} {sessionTicket : String} (gone : Gone userId spared? pool)
    (taken : (service platform).step pool label = some next) :
    (sessionTicket, userId) ∈ next.state.issued ↔ (sessionTicket, userId) ∈ pool.state.issued := by
  obtain ⟨request, -, rfl⟩ | ⟨index, choice, thread, made, andThen, answer, state, -, there, waits, answered,
    rfl⟩ | ⟨event, state, -, changed, rfl⟩ := Service.step_cases taken
  · exact Iff.rfl
  · exact (Database.effect_of_answers answered).mem_issued_iff (gone.notIssuing there waits)
  · cases event with
    | expire key =>
        cases changed
        exact Iff.rfl

/-- A ticket issued to a user no key holds is dead. -/
theorem dead_of_heldOnlyBy {database : Database} {sessionTicket : String} (wellFormed : database.WellFormed)
    (held : HeldOnlyBy userId none database.redis) (issued : (sessionTicket, userId) ∈ database.issued) :
    database.redis (sessionKey sessionTicket) = none := by
  rw [Option.eq_none_iff_forall_ne_some]
  intro value holds
  obtain ⟨ticket, isIssued, sameKey, rfl⟩ := wellFormed.tickets.held _ _ holds
  have same : ticket = (sessionTicket, userId) :=
    List.inj_on_of_nodup_map wellFormed.tickets.nodup isIssued issued (sessionKey_injective sameKey).symm
  rw [same] at holds
  cases held _ holds

/-- What a request that comes after a deletion can find: no key for the user, and the same tickets
of the user as ever. -/
structure FoundGone (userId : Int32) (sessionTicket : String) (returned pool : Pool) : Prop where
  gone : Gone userId none pool
  issued : (sessionTicket, userId) ∈ pool.state.issued ↔ (sessionTicket, userId) ∈ returned.state.issued
  found : Service.Found returned.threads.length (fun state => HeldOnlyBy userId none state.redis ∧
    ((sessionTicket, userId) ∈ state.issued ↔ (sessionTicket, userId) ∈ returned.state.issued)) pool

theorem FoundGone.step {label : Label} {sessionTicket : String} {returned : Pool}
    (foundGone : FoundGone userId sessionTicket returned pool) (sound : Sound platform pool)
    (taken : (service platform).step pool label = some next) :
    FoundGone userId sessionTicket returned next where
  gone := foundGone.gone.step sound taken
  issued := (foundGone.gone.mem_issued_iff taken).trans foundGone.issued
  found := foundGone.found.step ⟨foundGone.gone.held, foundGone.issued⟩ taken

theorem deletion_revokes_access {labels : List Label} {returned : Pool} {index : Nat} {thread : Thread}
    {request : DeleteUserRequestDto} {response : Response}
    (run : Run (Taken (revokingStep platform)) { state := {} } labels returned)
    (there : returned.threads[index]? = some thread) (asks : thread.request = .deleteUser request)
    (isDone : thread.rest = .done response) (success : response.success = true) :
    ∃ userId, servedUser thread.request thread.past = some userId ∧
      ∀ laterLabels pool place later sessionTicket answer, Runs platform returned laterLabels pool →
        returned.threads.length ≤ place → pool.threads[place]? = some later →
        later.request.sessionTicket? = some sessionTicket →
        (sessionTicket, userId) ∈ pool.state.issued → later.rest = .done answer →
        answer.success = false := by
  have reached : Sound platform returned ∧ Revoked returned := by
    refine run.preserves (fun pool => Sound platform pool ∧ Revoked pool) ?_
      ⟨sound_initially, ⟨by simp, by simp⟩⟩
    intro before label after ⟨sound, revoked⟩ taken
    exact ⟨sound.step (step_of_revokingStep taken).2, revoked.step sound taken⟩
  obtain ⟨userId, served, gone⟩ := gone_of_success reached.1 reached.2 there asks isDone success
  refine ⟨userId, served, ?_⟩
  intro laterLabels pool place later sessionTicket answer laterRun isLater laterThere presents issued laterDone
  have none : FoundGone userId sessionTicket returned returned := by
    refine ⟨gone, Iff.rfl, ?_⟩
    intro place beyond thread there
    rw [List.getElem?_eq_none beyond] at there
    cases there
  have reachedLater : Sound platform pool ∧ FoundGone userId sessionTicket returned pool := by
    refine laterRun.preserves
      (fun pool => Sound platform pool ∧ FoundGone userId sessionTicket returned pool) ?_
      ⟨reached.1, none⟩
    intro before label after ⟨sound, foundGone⟩ taken
    exact ⟨sound.step taken, foundGone.step sound taken⟩
  obtain ⟨sound, foundGone⟩ := reachedLater
  have follows := sound.followed place later laterThere
  rw [laterDone] at follows
  refine unsuccessful_of_dead_ticket presents ?_ follows
  intro occurrence member
  obtain ⟨held, issuedThen⟩ := foundGone.found place isLater later laterThere occurrence member
  exact dead_of_heldOnlyBy (sound.found place (Nat.zero_le _) later laterThere occurrence member) held
    (issuedThen.mpr (foundGone.issued.mp issued))

def listsCharacters (thread : Nat) (guid : BitVec 128) (outcomes : List Outcome) : List Label :=
  .start (.getCharacters (DotNet.guidText guid)) :: outcomes.map (.advance thread)

/-- The last request has deleted the account of user 1. -/
def DeletedBy (index : Nat) (pool : Pool) : Prop :=
  pool.threads.length = index + 1 ∧ ∃ thread ∈ pool.threads[index]?, ∃ response ∈ thread.rest.result?,
    thread.request = .deleteUser sampleDeletion ∧ response.success = true ∧
    servedUser thread.request thread.past = some 1

instance (index : Nat) (pool : Pool) : Decidable (DeletedBy index pool) :=
  inferInstanceAs (Decidable (_ ∧ ∃ thread ∈ pool.threads[index]?, ∃ response ∈ thread.rest.result?, _))

/-- The presented ticket is the only one: it is refused afterwards. -/
theorem deletion_revokes_access_only_ticket :
    ∃ returned pool thread later response answer,
      Run (Taken (revokingStep samplePlatform)) { state := {} } (registers 0 "alice" 1 5 ++ deletesUser 1 5)
        returned ∧
      returned.threads[1]? = some thread ∧ thread.rest = .done response ∧ response.success = true ∧
      Runs samplePlatform returned (listsCharacters 2 5 [.answers {}]) pool ∧
      pool.threads[2]? = some later ∧ (DotNet.guidText 5, 1) ∈ pool.state.issued ∧
      later.rest = .done answer ∧ answer.success = false := by
  obtain ⟨start, pool, created, run, later, laterThere, answer, isAnswer, presents, issued⟩ :=
    exists_run_of_execute (revokingStep samplePlatform) (some { state := {} })
      (registers 0 "alice" 1 5 ++ deletesUser 1 5 ++ listsCharacters 2 5 [.answers {}])
      (fun pool => ∃ later ∈ pool.threads[2]?, ∃ answer ∈ later.rest.result?,
        later.request.sessionTicket? = some (DotNet.guidText 5) ∧ (DotNet.guidText 5, 1) ∈ pool.state.issued)
      (by decide +kernel)
  cases created
  obtain ⟨returned, first, second⟩ := run.split
  obtain ⟨again, other, createdAgain, firstAgain, length, thread, there, response, isResponse, asks, success,
    served⟩ :=
    exists_run_of_execute (revokingStep samplePlatform) (some { state := {} })
      (registers 0 "alice" 1 5 ++ deletesUser 1 5) (DeletedBy 1) (by decide +kernel)
  cases createdAgain
  cases first.deterministic firstAgain
  have isDone := Program.result?_eq_some_iff.mp isResponse
  have laterDone := Program.result?_eq_some_iff.mp isAnswer
  have laterRun : Runs samplePlatform returned (listsCharacters 2 5 [.answers {}]) pool :=
    second.mono fun taken => (step_of_revokingStep taken).2
  obtain ⟨userId, isServed, refused⟩ := deletion_revokes_access first there asks isDone success
  cases served.symm.trans isServed
  exact ⟨returned, pool, thread, later, response, answer, first, there, isDone, success, laterRun, laterThere,
    issued, laterDone, refused _ pool 2 later _ answer laterRun (by omega) laterThere presents issued laterDone⟩

/-- A second ticket of the deleted user still lists characters. -/
theorem deletion_leaves_other_ticket :
    ∃ returned pool thread later response answer,
      Runs samplePlatform { state := {} } (registers 0 "alice" 1 5 ++ logsIn 1 "alice" 6 ++ deletesUser 2 5)
        returned ∧
      returned.threads[2]? = some thread ∧ thread.request = .deleteUser sampleDeletion ∧
      thread.rest = .done response ∧ response.success = true ∧
      servedUser thread.request thread.past = some 1 ∧
      Runs samplePlatform returned (listsCharacters 3 6 [.answers {}, .answers {}]) pool ∧
      returned.threads.length ≤ 3 ∧ pool.threads[3]? = some later ∧
      later.request = .getCharacters (DotNet.guidText 6) ∧ (DotNet.guidText 6, 1) ∈ pool.state.issued ∧
      later.rest = .done answer ∧ answer.success = true := by
  obtain ⟨start, pool, created, run, later, laterThere, answer, isAnswer, presents, issued, successful⟩ :=
    exists_run_of_execute (service samplePlatform).step (some { state := {} })
      (registers 0 "alice" 1 5 ++ logsIn 1 "alice" 6 ++ deletesUser 2 5 ++
        listsCharacters 3 6 [.answers {}, .answers {}])
      (fun pool => ∃ later ∈ pool.threads[3]?, ∃ answer ∈ later.rest.result?,
        later.request = .getCharacters (DotNet.guidText 6) ∧
        (DotNet.guidText 6, 1) ∈ pool.state.issued ∧ answer.success = true)
      (by decide +kernel)
  cases created
  obtain ⟨returned, first, second⟩ := run.split
  obtain ⟨again, other, createdAgain, firstAgain, length, thread, there, response, isResponse, asks, success,
    served⟩ :=
    exists_run_of_execute (service samplePlatform).step (some { state := {} })
      (registers 0 "alice" 1 5 ++ logsIn 1 "alice" 6 ++ deletesUser 2 5) (DeletedBy 2) (by decide +kernel)
  cases createdAgain
  cases first.deterministic firstAgain
  exact ⟨returned, pool, thread, later, response, answer, first, there, asks,
    Program.result?_eq_some_iff.mp isResponse, success, served, second, by omega, laterThere, presents, issued,
    Program.result?_eq_some_iff.mp isAnswer, successful⟩

end CppMMO.Auth
