import Mathlib.Data.List.Nodup
import CppMMO.Auth.Database

/-! What a call can do to the stores, said once, and what holds of the stores in every state
they reach from the empty one. -/

set_option autoImplicit false

namespace CppMMO.Auth

open CppMMO.Lib

namespace Database

/-- What a call may leave behind: the stores as they were, or its one change. -/
inductive Effect (platform : Platform) (database : Database) : Call → Database → Prop where
  | unchanged {made : Call} : Effect platform database made database
  | createUser {username passwordHash : String} {id : Int} :
      database.usernameTaken platform username = false → database.nextUserId ≤ id → id < 2 ^ 31 →
      Effect platform database (.createUser username passwordHash)
        { database with
          users := database.users ++ [{ id := Int32.ofInt id, username, passwordHash }]
          nextUserId := id + 1 }
  | createPlayer {userId : Int32} {name : String} {id : Int} {createdAt : Nat} :
      (∃ user ∈ database.users, user.id = userId) → database.nextPlayerId ≤ id → id < 2 ^ 63 →
      Effect platform database (.createPlayer userId name)
        { database with
          players := database.players ++
            [{ playerId := Int64.ofInt id, userId, name, posX := 0, posY := 0, hp := 100, maxHp := 100
               createdAt }]
          nextPlayerId := id + 1 }
  | deletePlayersByUserId {userId : Int32} :
      Effect platform database (.deletePlayersByUserId userId) (database.withoutPlayersOf userId)
  | deleteUser {userId : Int32} :
      Effect platform database (.deleteUser userId) (database.deleteUser userId)
  | stringSet {userId : Int32} {guid : BitVec 128} :
      (∀ ticket ∈ database.issued, ticket.1 ≠ DotNet.guidText guid) →
      Effect platform database (.stringSet userId)
        { database with
          redis := Function.update database.redis (sessionKey (DotNet.guidText guid))
            (some (toString userId.toInt))
          issued := (DotNet.guidText guid, userId) :: database.issued }
  | keyDelete {key : String} :
      Effect platform database (.keyDelete key)
        { database with redis := Function.update database.redis key none }

variable {platform : Platform} {database after : Database} {draw : Draw}

theorem effect_of_createUser {username passwordHash : String} {answer : Option User}
    (created : database.createUser platform username passwordHash draw = some (answer, after)) :
    Effect platform database (.createUser username passwordHash) after := by
  simp only [Database.createUser] at created
  split at created
  · cases created
    exact .unchanged
  · next free =>
      split at created
      · next drawn =>
          cases created
          exact .createUser (by simpa using free) drawn.1 drawn.2
      · cases created

theorem effect_of_createPlayer {userId : Int32} {name : String} {answer : Option Player}
    (created : database.createPlayer platform userId name draw = some (answer, after)) :
    Effect platform database (.createPlayer userId name) after := by
  simp only [Database.createPlayer] at created
  split at created
  · cases created
    exact .unchanged
  · next accepted =>
      split at created
      · next drawn =>
          cases created
          have owner : ∃ user ∈ database.users, user.id = userId := by
            simpa using (not_or.mp accepted).1
          exact .createPlayer owner drawn.1 drawn.2
      · cases created

theorem effect_of_perform {made : Call} {answer : Option made.Result}
    (performed : database.perform platform draw made = some (answer, after)) :
    Effect platform database made after := by
  cases made with
  | getUserByUsername | getUserById | getPlayerById | isPlayerNameExists | stringGet =>
      cases performed
      exact .unchanged
  | createUser => exact effect_of_createUser performed
  | createPlayer => exact effect_of_createPlayer performed
  | deleteUser userId =>
      cases performed
      exact .deleteUser
  | deletePlayersByUserId userId =>
      cases performed
      exact .deletePlayersByUserId
  | keyDelete key =>
      cases performed
      exact .keyDelete
  | getPlayersByUserId | hashPassword =>
      simp only [Database.perform] at performed
      split at performed
      · cases performed
        exact .unchanged
      · cases performed
  | stringSet userId =>
      simp only [Database.perform] at performed
      split at performed
      · cases performed
      · next fresh =>
          cases performed
          refine .stringSet fun ticket member same => fresh ?_
          exact List.any_eq_true.mpr ⟨ticket, member, by simpa using same⟩

/-- A call to a store changes nothing, or is carried out. -/
theorem answers_cases {made : Call} {choice : Outcome} {answer : made.Answer}
    (answered : database.answers platform made choice = some (answer, after)) :
    choice = .fails ∧ after = database ∨
      choice ≠ .fails ∧ ∃ draw result, database.perform platform draw made = some (result, after) := by
  cases choice with
  | answers draw => exact .inr ⟨by simp, draw, answer, answered⟩
  | answerLost draw =>
      simp only [Database.answers] at answered
      split at answered
      · obtain ⟨⟨result, next⟩, performed, same⟩ := Option.map_eq_some_iff.mp answered
        cases same
        exact .inr ⟨by simp, draw, result, performed⟩
      · cases answered
  | fails =>
      simp only [Database.answers] at answered
      split at answered
      · cases answered
        exact .inl ⟨rfl, rfl⟩
      · cases answered

theorem effect_of_answers {made : Call} {outcome : Outcome} {answer : made.Answer}
    (answered : database.answers platform made outcome = some (answer, after)) :
    Effect platform database made after := by
  rcases answers_cases answered with ⟨-, rfl⟩ | ⟨-, draw, result, performed⟩
  · exact .unchanged
  · exact effect_of_perform performed

/-- A call that is answered without an exception was carried out. -/
theorem performed_of_answers {made : Call} {outcome : Outcome} {result : made.Result}
    (answered : database.answers platform made outcome = some (some result, after)) :
    ∃ draw, outcome = .answers draw ∧ database.perform platform draw made = some (some result, after) := by
  cases outcome with
  | answers draw => exact ⟨draw, rfl, answered⟩
  | answerLost draw => simp [Database.answers] at answered
  | fails => simp [Database.answers] at answered

/-! ## Reachable stores -/

/-- User ids are different and below the next one. -/
structure UsersWellFormed (users : List User) (nextUserId : Int) : Prop where
  next_pos : 0 < nextUserId
  lt_next : ∀ user ∈ users, user.id.toInt < nextUserId
  nodup : (users.map (·.id)).Nodup

/-- Player ids are positive, different and below the next one, and players have users. -/
structure PlayersWellFormed (users : List User) (players : List Player) (nextPlayerId : Int) : Prop where
  next_pos : 0 < nextPlayerId
  bounds : ∀ player ∈ players, 0 < player.playerId.toInt ∧ player.playerId.toInt < nextPlayerId
  nodup : (players.map (·.playerId)).Nodup
  owned : ∀ player ∈ players, ∃ user ∈ users, user.id = player.userId

/-- Tickets are different GUIDs, and Redis holds nothing but tickets with their users. -/
structure TicketsWellFormed (redis : String → Option String) (issued : List (String × Int32)) : Prop where
  guids : ∀ ticket ∈ issued, ∃ guid, ticket.1 = DotNet.guidText guid
  nodup : (issued.map (·.1)).Nodup
  held : ∀ key value, redis key = some value →
    ∃ ticket ∈ issued, key = sessionKey ticket.1 ∧ value = toString ticket.2.toInt

structure WellFormed (database : Database) : Prop where
  users : UsersWellFormed database.users database.nextUserId
  players : PlayersWellFormed database.users database.players database.nextPlayerId
  tickets : TicketsWellFormed database.redis database.issued

theorem wellFormed_empty : WellFormed {} where
  users := ⟨by decide, by simp, List.nodup_nil⟩
  players := ⟨by decide, by simp, List.nodup_nil, by simp⟩
  tickets := ⟨by simp, List.nodup_nil, by simp⟩

/-- A row whose id is above all others goes to the end. -/
theorem nodup_concat_of_lt {Row Id : Type} {rows : List Row} {new : Row} {id : Row → Id}
    {toInt : Id → Int} {next : Int} (nodup : (rows.map id).Nodup)
    (below : ∀ row ∈ rows, toInt (id row) < next) (above : next ≤ toInt (id new)) :
    ((rows ++ [new]).map id).Nodup := by
  rw [List.map_append, List.nodup_append]
  refine ⟨nodup, by simp, ?_⟩
  intro earlier isEarlier last isLast same
  obtain ⟨row, member, rfl⟩ := List.mem_map.mp isEarlier
  have bound := below row member
  rw [same, List.mem_singleton.mp isLast] at bound
  omega

section

variable {users : List User} {players : List Player} {nextUserId nextPlayerId : Int}
  {redis : String → Option String} {issued : List (String × Int32)}

theorem UsersWellFormed.concat {user : User} {id : Int} (wellFormed : UsersWellFormed users nextUserId)
    (drawn : user.id = Int32.ofInt id) (next : nextUserId ≤ id) (inRange : id < 2 ^ 31) :
    UsersWellFormed (users ++ [user]) (id + 1) := by
  have positive := wellFormed.next_pos
  have kept : user.id.toInt = id := by
    rw [drawn]
    exact Int32.toInt_ofInt_of_le (by omega) inRange
  constructor
  · omega
  · intro other member
    rcases List.mem_append.mp member with earlier | new
    · have bound := wellFormed.lt_next other earlier
      omega
    · rw [List.mem_singleton.mp new, kept]
      omega
  · exact nodup_concat_of_lt wellFormed.nodup wellFormed.lt_next (by rw [kept]; exact next)

theorem PlayersWellFormed.concat {player : Player} {id : Int}
    (wellFormed : PlayersWellFormed users players nextPlayerId)
    (drawn : player.playerId = Int64.ofInt id) (owner : ∃ user ∈ users, user.id = player.userId)
    (next : nextPlayerId ≤ id) (inRange : id < 2 ^ 63) :
    PlayersWellFormed users (players ++ [player]) (id + 1) := by
  have positive := wellFormed.next_pos
  have kept : player.playerId.toInt = id := by
    rw [drawn]
    exact Int64.toInt_ofInt_of_le (by omega) inRange
  constructor
  · omega
  · intro other member
    rcases List.mem_append.mp member with earlier | new
    · have bounds := wellFormed.bounds other earlier
      omega
    · rw [List.mem_singleton.mp new, kept]
      omega
  · exact nodup_concat_of_lt wellFormed.nodup
      (fun other member => (wellFormed.bounds other member).2) (by rw [kept]; exact next)
  · intro other member
    rcases List.mem_append.mp member with earlier | new
    · exact wellFormed.owned other earlier
    · rw [List.mem_singleton.mp new]
      exact owner

theorem PlayersWellFormed.filter (wellFormed : PlayersWellFormed users players nextPlayerId)
    {remaining : List User} (kept : Player → Bool)
    (owned : ∀ player ∈ players, kept player = true → ∀ user ∈ users, user.id = player.userId →
      user ∈ remaining) :
    PlayersWellFormed remaining (players.filter kept) nextPlayerId where
  next_pos := wellFormed.next_pos
  bounds player member := wellFormed.bounds player (List.mem_of_mem_filter member)
  nodup := wellFormed.nodup.sublist (List.filter_sublist.map _)
  owned player member := by
    obtain ⟨isPlayer, isKept⟩ := List.mem_filter.mp member
    obtain ⟨user, isUser, same⟩ := wellFormed.owned player isPlayer
    exact ⟨user, owned player isPlayer isKept user isUser same, same⟩

theorem TicketsWellFormed.erase (wellFormed : TicketsWellFormed redis issued) (key : String) :
    TicketsWellFormed (Function.update redis key none) issued where
  guids := wellFormed.guids
  nodup := wellFormed.nodup
  held other value holds := by
    by_cases same : other = key
    · subst same
      simp at holds
    · rw [Function.update_of_ne same] at holds
      exact wellFormed.held other value holds

theorem TicketsWellFormed.issue {userId : Int32} {guid : BitVec 128}
    (wellFormed : TicketsWellFormed redis issued)
    (fresh : ∀ ticket ∈ issued, ticket.1 ≠ DotNet.guidText guid) :
    TicketsWellFormed
      (Function.update redis (sessionKey (DotNet.guidText guid)) (some (toString userId.toInt)))
      ((DotNet.guidText guid, userId) :: issued) where
  guids ticket member := by
    rcases List.mem_cons.mp member with rfl | earlier
    · exact ⟨guid, rfl⟩
    · exact wellFormed.guids ticket earlier
  nodup := by
    refine List.nodup_cons.mpr ⟨?_, wellFormed.nodup⟩
    intro member
    obtain ⟨ticket, earlier, same⟩ := List.mem_map.mp member
    exact fresh ticket earlier same
  held key value holds := by
    by_cases same : key = sessionKey (DotNet.guidText guid)
    · subst same
      rw [Function.update_self] at holds
      exact ⟨_, List.mem_cons_self, rfl, (Option.some.inj holds).symm⟩
    · rw [Function.update_of_ne same] at holds
      obtain ⟨ticket, member, matching⟩ := wellFormed.held key value holds
      exact ⟨ticket, List.mem_cons_of_mem _ member, matching⟩

end

theorem WellFormed.effect {made : Call} (wellFormed : database.WellFormed)
    (effect : Effect platform database made after) : after.WellFormed := by
  obtain ⟨users, players, tickets⟩ := wellFormed
  cases effect with
  | unchanged => exact ⟨users, players, tickets⟩
  | createUser _ next inRange =>
      refine ⟨users.concat rfl next inRange, ⟨players.next_pos, players.bounds, players.nodup, ?_⟩, tickets⟩
      intro player member
      obtain ⟨user, isUser, same⟩ := players.owned player member
      exact ⟨user, List.mem_append_left _ isUser, same⟩
  | createPlayer owner next inRange => exact ⟨users, players.concat rfl owner next inRange, tickets⟩
  | deletePlayersByUserId =>
      exact ⟨users, players.filter _ fun _ _ _ _ isUser _ => isUser, tickets⟩
  | deleteUser =>
      refine ⟨⟨users.next_pos, fun user member => users.lt_next user (List.mem_of_mem_filter member),
        users.nodup.sublist (List.filter_sublist.map _)⟩, players.filter _ ?_, tickets⟩
      intro player _ isKept user isUser same
      refine List.mem_filter.mpr ⟨isUser, ?_⟩
      rw [same]
      exact isKept
  | stringSet fresh => exact ⟨users, players, tickets.issue fresh⟩
  | keyDelete => exact ⟨users, players, tickets.erase _⟩

theorem WellFormed.changes {event : Event} (wellFormed : database.WellFormed)
    (changed : database.changes event = some after) : after.WellFormed := by
  cases event with
  | expire key =>
      cases changed
      exact ⟨wellFormed.users, wellFormed.players, wellFormed.tickets.erase key⟩

end Database

end CppMMO.Auth
