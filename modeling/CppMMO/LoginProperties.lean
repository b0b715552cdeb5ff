import CppMMO.Auth.AuthControllerProperties
import CppMMO.Deployment
import CppMMO.Game.Services.AuthServiceProperties

/-! A login gives a session the player id it asks for exactly when the auth server finds the
ticket's user to own that player. -/

set_option autoImplicit false

namespace CppMMO

open CppMMO.Lib CppMMO.Auth CppMMO.Protocol CppMMO.Game CppMMO.Game.Services CppMMO.Utils

/-! ## The contract of the two servers -/

namespace Game.Services.HttpRequestSession

variable {codec : Codec}

theorem onRead_of_ok {result : ActionResult} (isOk : result.statusCode = 200)
    (readBack : codec.parse (codec.serialize result.value.toJson) = .ok result.value.toJson) :
    onRead codec (send codec (.result result)) = readVerdict result.value.toJson := by
  simp only [onRead, send, isOk, if_pos, readBack]

private theorem camelCase_success : DotNet.camelCase "Success" = "success" := by decide +kernel

private theorem camelCase_playerInfo : DotNet.camelCase "PlayerInfo" = "playerInfo" := by decide +kernel

private theorem camelCase_playerId : DotNet.camelCase "PlayerId" = "playerId" := by decide +kernel

private theorem camelCase_message : DotNet.camelCase "Message" = "message" := by decide +kernel

private theorem camelCase_name : DotNet.camelCase "Name" = "name" := by decide +kernel

private theorem readVerdict_of_fields {json : Json} (info : Json) {playerId : PlayerId} {username : String}
    (success : (json.field? "success").bind Json.asBool? = some true)
    (playerInfo : (json.field? "playerInfo").bind Json.asObject? = some info)
    (id : (info.field? "playerId").bind Json.asUnsigned? = some playerId)
    (name : (info.field? "name").bind Json.asString? = some username) :
    readVerdict json = { success := true, playerId, username } := by
  unfold readVerdict
  rw [success, playerInfo]
  simp only [Option.bind_some, id, name, Option.getD_some]

/-- The game server finds the player's id and name under the names the auth server gives
them, and the id is an unsigned number for it. -/
theorem readVerdict_verified {player : Player} {playerId : PlayerId} {message : String}
    (same : player.playerId.toInt = playerId.toNat) :
    readVerdict (ResponseDto.verify
      { success := true, playerInfo := some (.ofPlayer player), message }).toJson =
      { success := true, playerId, username := player.name } := by
  have json : (ResponseDto.verify
      { success := true, playerInfo := some (.ofPlayer player), message }).toJson =
      .object [("success", .bool true), ("playerInfo", (PlayerInfoDto.ofPlayer player).toJson),
        ("message", .string message)] := by
    simp only [ResponseDto.toJson, named, nullable, List.map_cons, List.map_nil, Option.elim_some,
      camelCase_success, camelCase_playerInfo, camelCase_message]
  have id : (PlayerInfoDto.ofPlayer player).toJson.field? "playerId" =
      some (.integer playerId.toNat) := by
    simp [PlayerInfoDto.toJson, PlayerInfoDto.ofPlayer, named, camelCase_playerId, same]
  have name : (PlayerInfoDto.ofPlayer player).toJson.field? "name" = some (.string player.name) := by
    simp [PlayerInfoDto.toJson, PlayerInfoDto.ofPlayer, named, camelCase_playerId, camelCase_name]
  have isObject : (PlayerInfoDto.ofPlayer player).toJson.asObject? =
      some (PlayerInfoDto.ofPlayer player).toJson := rfl
  rw [json]
  apply readVerdict_of_fields (PlayerInfoDto.ofPlayer player).toJson
  · simp [Json.asBool?]
  · simp [isObject]
  · rw [id, Option.bind_some, Json.asUnsigned?_toNat]
  · rw [name, Option.bind_some, Json.asString?]

/-- The names of the request match those of the DTO but for case; a player id that is no
`long` cannot be bound. -/
theorem ofJson_requestBody (sessionTicket : String) (playerId : PlayerId) :
    VerifyRequestDto.ofJson (requestBody sessionTicket playerId) =
      if playerId.toNat < 2 ^ 63 then some { sessionTicket, playerId := Int64.ofInt playerId.toNat }
      else none := by
  have readId : ∀ request : VerifyRequestDto,
      request.readProperty ("PlayerId", .integer playerId.toNat) =
        if playerId.toNat < 2 ^ 63 then some { request with playerId := Int64.ofInt playerId.toNat }
        else none := by
    intro request
    have bound : (-2 ^ 63 ≤ (playerId.toNat : Int) ∧ (playerId.toNat : Int) < 2 ^ 63) ↔
        playerId.toNat < 2 ^ 63 := by omega
    have other : DotNet.sameIgnoringCase "PlayerId" "SessionTicket" = false := by decide
    have own : DotNet.sameIgnoringCase "PlayerId" "PlayerId" = true := by decide
    simp only [VerifyRequestDto.readProperty, other, own, Bool.false_eq_true, if_false, if_true,
      Json.asInt64?, bound]
    by_cases inRange : playerId.toNat < 2 ^ 63
    · simp only [if_pos inRange, Option.orElse_eq_orElse, Option.orElse_some, Option.map_some]
    · simp only [if_neg inRange]
      rfl
  have readTicket : ∀ request : VerifyRequestDto,
      request.readProperty ("SessionTicket", .string sessionTicket) =
        some { request with sessionTicket } := by
    intro request
    have own : DotNet.sameIgnoringCase "SessionTicket" "SessionTicket" = true := by decide
    simp only [VerifyRequestDto.readProperty, own, if_true, Json.asString?, Option.map_some]
  simp only [VerifyRequestDto.ofJson, requestBody, List.foldlM_cons, List.foldlM_nil, readId]
  split
  · simp [readTicket]
  · rfl

private theorem receive_of_routed {request : HttpRequest}
    (target : DotNet.sameIgnoringCase request.target verifyRoute = true) (method : request.method = .post)
    (contentType : request.contentType = "application/json") :
    receive codec request =
      (((codec.deserialize request.body).bind VerifyRequestDto.ofJson).map Request.verify).getD
        (.rejected 400) := by
  rw [receive, if_neg (by simp [target]), if_neg (not_not.mpr method), if_neg (not_not.mpr contentType)]
  cases (codec.deserialize request.body).bind VerifyRequestDto.ofJson <;> rfl

theorem receive_run {sessionTicket : Bytes} {text : String} {playerId : PlayerId} {request : HttpRequest}
    (decoded : decodeUtf8 sessionTicket = some text) (posted : run codec sessionTicket playerId = some request)
    (readBack : codec.deserialize (codec.dump (requestBody text playerId)) =
      some (requestBody text playerId)) :
    receive codec request =
      if playerId.toNat < 2 ^ 63 then
        .verify { sessionTicket := text, playerId := Int64.ofInt playerId.toNat }
      else .rejected 400 := by
  rw [run, decoded, Option.map_some] at posted
  have request_eq := (Option.some.inj posted).symm
  have target : request.target = "/api/auth/verify" := by rw [request_eq]
  have routed : DotNet.sameIgnoringCase request.target verifyRoute = true := by
    rw [target]
    decide
  have method : request.method = .post := by rw [request_eq]
  have contentType : request.contentType = "application/json" := by rw [request_eq]
  have body : request.body = codec.dump (requestBody text playerId) := by rw [request_eq]
  rw [receive_of_routed routed method contentType, body, readBack, Option.bind_some,
    ofJson_requestBody]
  by_cases inRange : playerId.toNat < 2 ^ 63
  · rw [if_pos inRange, if_pos inRange, Option.map_some, Option.getD_some]
  · rw [if_neg inRange, if_neg inRange, Option.map_none, Option.getD_none]

end Game.Services.HttpRequestSession

open HttpRequestSession

/-- What `Verify` found where it read: the ticket's user at Redis, and at MySQL the player as
that user's. -/
def Agreed (sessionTicket : Bytes) (playerId : PlayerId) : List Database → Prop
  | [atRedis, atMySql] =>
      ∃ userId, atRedis.Holds sessionTicket userId ∧ atMySql.Owns playerId userId
  | _ => False

/-- What the JSON libraries are relied on for: each reads back what the other has written, the
request of a login and the response to it. -/
structure Carries (codec : Codec) (sessionTicket : Bytes) (playerId : PlayerId) (response : Response) :
    Prop where
  request : ∀ text, decodeUtf8 sessionTicket = some text →
    codec.deserialize (codec.dump (requestBody text playerId)) = some (requestBody text playerId)
  response : ∀ result, response = .result result →
    codec.parse (codec.serialize result.value.toJson) = .ok result.value.toJson

section Verdict

variable {sessionTicket : Bytes} {text : String} {playerId : PlayerId}

theorem Agreed.read {found : List Database} (agreed : Agreed sessionTicket playerId found) :
    ∃ atRedis atMySql, found = [atRedis, atMySql] := by
  cases found with
  | nil => cases agreed
  | cons atRedis rest =>
      cases rest with
      | nil => cases agreed
      | cons atMySql rest =>
          cases rest with
          | nil => exact ⟨atRedis, atMySql, rfl⟩
          | cons third rest => cases agreed

theorem toInt_ofInt_toNat (inRange : playerId.toNat < 2 ^ 63) :
    (Int64.ofInt playerId.toNat).toInt = playerId.toNat :=
  Int64.toInt_ofInt_of_le (by omega) (by omega)

theorem agreed_iff {atRedis atMySql : Database} (decoded : decodeUtf8 sessionTicket = some text)
    (inRange : playerId.toNat < 2 ^ 63) (redisWellFormed : atRedis.WellFormed)
    (mySqlWellFormed : atMySql.WellFormed) :
    Agreed sessionTicket playerId [atRedis, atMySql] ↔
      ∃ userId player,
        (atRedis.redis (sessionKey text)).bind DotNet.intTryParse = some userId ∧
        atMySql.players.find? (·.playerId = Int64.ofInt playerId.toNat) = some player ∧
        player.userId = userId := by
  have same : ∀ player : Player, player.playerId = Int64.ofInt playerId.toNat ↔
      player.playerId.toInt = playerId.toNat := by
    intro player
    rw [← Int64.toInt_inj, toInt_ofInt_toNat inRange]
  simp only [Agreed, Database.Holds, decoded, Option.some.injEq, exists_eq_left', Database.Owns,
    redisWellFormed.parses_iff, mySqlWellFormed.finds_iff]
  simp only [same]
  constructor
  · rintro ⟨userId, held, player, member, id, owner⟩
    exact ⟨userId, player, held, ⟨member, id⟩, owner⟩
  · rintro ⟨userId, player, held, ⟨member, id⟩, owner⟩
    exact ⟨userId, held, player, member, id, owner⟩

/-- No reachable state of the stores lets the ticket's user own the player. -/
def NeverAgrees (sessionTicket : Bytes) (playerId : PlayerId) : Prop :=
  ∀ database : Database, database.WellFormed → ∀ userId,
    ¬ (database.Holds sessionTicket userId ∧ database.Owns playerId userId)

theorem neverAgrees_of_undecodable (undecodable : decodeUtf8 sessionTicket = none) :
    NeverAgrees sessionTicket playerId := by
  rintro database - userId ⟨⟨text, decoded, -⟩, -⟩
  rw [undecodable] at decoded
  cases decoded

theorem neverAgrees_of_blank (decoded : decodeUtf8 sessionTicket = some text)
    (blank : DotNet.isNullOrWhiteSpace text = true) : NeverAgrees sessionTicket playerId := by
  rintro database wellFormed userId ⟨⟨other, otherDecoded, held⟩, -⟩
  cases decoded.symm.trans otherDecoded
  rw [wellFormed.not_isNullOrWhiteSpace held] at blank
  cases blank

theorem neverAgrees_of_out_of_range (outside : playerId.toNat = 0 ∨ 2 ^ 63 ≤ playerId.toNat) :
    NeverAgrees sessionTicket playerId := by
  rintro database wellFormed userId ⟨-, player, member, same, -⟩
  have positive := (wellFormed.players.bounds player member).1
  have small := player.playerId.toInt_lt
  omega

/-- The game server's verdict on a login whose `Verify` found the given states. -/
structure Verdict (sessionTicket : Bytes) (playerId : PlayerId) (found : List Database)
    (reply : VerifyTicketResponse) : Prop where
  accepts : Agreed sessionTicket playerId found → reply.success = true ∧ reply.playerId = playerId
  rejects : ¬ Agreed sessionTicket playerId found → reply.success = false
  unread : found = [] → NeverAgrees sessionTicket playerId

variable {platform : Platform} {codec : Codec} {past : List Occurrence}

theorem verdict_of_problem {statusCode : Nat} (isError : statusCode ≠ 200)
    (never : NeverAgrees sessionTicket playerId) :
    Verdict sessionTicket playerId [] (onRead codec (send codec (.problem statusCode))) where
  accepts := False.elim
  rejects _ := onRead_of_statusCode_ne isError
  unread _ := never

theorem verdict_of_returns {result : ActionResult} (decoded : decodeUtf8 sessionTicket = some text)
    (inRange : playerId.toNat < 2 ^ 63)
    (wellFormed : ∀ occurrence ∈ past, occurrence.before.WellFormed)
    (returns : (verify { sessionTicket := text, playerId := Int64.ofInt playerId.toNat }).Returns
      platform past result)
    (readBack : codec.parse (codec.serialize result.value.toJson) = .ok result.value.toJson) :
    Verdict sessionTicket playerId (past.map (·.before)) (onRead codec (send codec (.result result))) := by
  have reads : ∀ {atRedis atMySql : Database}, past.map (·.before) = [atRedis, atMySql] →
      (Agreed sessionTicket playerId (past.map (·.before)) ↔
        ∃ userId player,
          (atRedis.redis (sessionKey text)).bind DotNet.intTryParse = some userId ∧
          atMySql.players.find? (·.playerId = Int64.ofInt playerId.toNat) = some player ∧
          player.userId = userId) := by
    intro atRedis atMySql read
    have states : ∀ state ∈ past.map (·.before), state.WellFormed := by simpa using wellFormed
    rw [read] at states ⊢
    exact agreed_iff decoded inRange (states _ (by simp)) (states _ (by simp))
  rcases verify_returns returns with
    ⟨atRedis, atMySql, userId, player, read, parsed, there, owner, rfl⟩ | ⟨isError, nothing, disagrees⟩
  · have agreed := (reads read).mpr ⟨userId, player, parsed, there, owner⟩
    have same : player.playerId.toInt = playerId.toNat := by
      have found : player.playerId = Int64.ofInt playerId.toNat := by
        simpa using List.find?_some there
      rw [found, toInt_ofInt_toNat inRange]
    have reply : onRead codec (send codec (.result (ok (.verify
        { success := true, playerInfo := some (.ofPlayer player)
          message := "Session and player verification successful." })))) =
        { success := true, playerId, username := player.name } := by
      rw [onRead_of_ok rfl readBack, ok, readVerdict_verified same]
    rw [reply]
    refine ⟨fun _ => ⟨rfl, rfl⟩, fun disagreed => absurd agreed disagreed, ?_⟩
    intro unread
    rw [read] at unread
    cases unread
  · constructor
    · intro agreed
      obtain ⟨atRedis, atMySql, read⟩ := agreed.read
      obtain ⟨userId, player, parsed, there, owner⟩ := (reads read).mp agreed
      exact absurd owner (disagrees atRedis atMySql userId player read parsed there)
    · intro _
      exact onRead_of_statusCode_ne isError
    · intro unread
      rcases nothing (List.map_eq_nil_iff.mp unread) with empty | notPositive
      · exact neverAgrees_of_blank decoded (by rw [show text = "" from empty]; rfl)
      · apply neverAgrees_of_out_of_range
        have bound := Int64.le_iff_toInt_le.mp notPositive
        rw [toInt_ofInt_toNat inRange, Int64.toInt_zero] at bound
        omega

/-- What the game server makes of the response to a login, from what `Verify` found. -/
theorem verdict_of_follows {request : HttpRequest} {response : Response}
    (posted : run codec sessionTicket playerId = some request)
    (follows : (serve platform (receive codec request)).Follows (Database.answers platform) past
      (.done response))
    (wellFormed : ∀ occurrence ∈ past, occurrence.before.WellFormed) (answered : response ≠ .problem 500)
    (carries : Carries codec sessionTicket playerId response) :
    Verdict sessionTicket playerId (past.map (·.before)) (onRead codec (send codec response)) := by
  obtain ⟨text, decoded, -⟩ := Option.map_eq_some_iff.mp posted
  rw [receive_run decoded posted (carries.request text decoded)] at follows
  by_cases inRange : playerId.toNat < 2 ^ 63
  · rw [if_pos inRange] at follows
    simp only [serve, validated] at follows
    split at follows
    · obtain ⟨result, returns, rfl⟩ := returns_of_respond answered follows
      exact verdict_of_returns decoded inRange wellFormed returns (carries.response result rfl)
    · next invalid =>
        obtain ⟨rfl, same⟩ := Program.follows_done_iff.mp follows
        cases same
        refine verdict_of_problem (by decide) (neverAgrees_of_blank decoded ?_)
        simpa [VerifyRequestDto.valid] using invalid
  · rw [if_neg inRange] at follows
    obtain ⟨rfl, same⟩ := Program.follows_done_iff.mp follows
    cases same
    exact verdict_of_problem (by decide) (neverAgrees_of_out_of_range (.inr (by omega)))

end Verdict

/-! ## Runs of both servers -/

namespace Deployment

variable {platform : Platform} {codec : Codec} {before after : Deployment}

theorem post_cases {deployment : Deployment} {login : Option (SessionId × Bytes × PlayerId × Int)} :
    (post platform codec deployment login).auth = deployment.auth ∨
      ∃ request, (post platform codec deployment login).auth =
        (service platform).start deployment.auth request := by
  unfold post
  split
  · exact .inl rfl
  · split
    · exact .inl rfl
    · exact .inr ⟨_, rfl⟩

theorem answer_cases {exchange : Exchange} {response : VerifyTicketResponse}
    (taken : before.answer exchange response = some after) :
    exchange ∈ before.exchanges ∧ ∃ server,
      before.server.step (.verifySessionTicket exchange.session exchange.playerId exchange.commandId
        response) = some server ∧
      after = { before with server, exchanges := before.exchanges.erase exchange } := by
  unfold answer at taken
  split at taken
  · next pending =>
      obtain ⟨server, serverTaken, rfl⟩ := Option.map_eq_some_iff.mp taken
      exact ⟨pending, server, serverTaken, rfl⟩
  · cases taken

/-- A step of the game server other than the callback of an exchange. -/
theorem game_cases {label : Server.Label} (taken : step platform codec before (.game label) = some after) :
    ∃ server, before.server.step label = some server ∧
      after = post platform codec { before with server } (login? before.server label) := by
  cases label with
  | verifySessionTicket => cases taken
  | _ =>
      obtain ⟨server, serverTaken, rfl⟩ := Option.map_eq_some_iff.mp taken
      exact ⟨server, serverTaken, rfl⟩

/-- The auth server takes its own steps, or takes up a request, or does nothing. -/
theorem auth_cases {label : Label} (taken : step platform codec before label = some after) :
    after.auth = before.auth ∨ ∃ label, (service platform).step before.auth label = some after.auth := by
  cases label with
  | game label =>
      obtain ⟨server, -, rfl⟩ := game_cases taken
      rcases post_cases with same | ⟨request, started⟩
      · exact .inl same
      · exact .inr ⟨.start request, by rw [started]; rfl⟩
  | auth label =>
      obtain ⟨auth, authTaken, rfl⟩ := Option.map_eq_some_iff.mp taken
      exact .inr ⟨label, authTaken⟩
  | respond exchange =>
      obtain ⟨response, -, answered⟩ := Option.bind_eq_some_iff.mp taken
      obtain ⟨-, server, -, rfl⟩ := answer_cases answered
      exact .inl rfl
  | endOfStream exchange =>
      obtain ⟨-, server, -, rfl⟩ := answer_cases taken
      exact .inl rfl
  | fail exchange failure message =>
      obtain ⟨-, server, -, rfl⟩ := answer_cases taken
      exact .inl rfl

theorem sound_of_run {config : Managers.GameConfig} {start finish : Deployment} {labels : List Label}
    (created : create? config = some start) (run : Runs platform codec start labels finish) :
    Sound platform finish.auth := by
  obtain ⟨server, -, rfl⟩ := Option.map_eq_some_iff.mp created
  refine run.preserves (fun deployment => Sound platform deployment.auth) ?_ sound_initially
  intro before label after sound taken
  rcases auth_cases taken with same | ⟨authLabel, authTaken⟩
  · rw [same]
    exact sound
  · exact sound.step authTaken

/-- A posted request keeps its place at the auth server. -/
theorem request_of_run {start finish : Deployment} {labels : List Label} {place : Nat} {request : Request}
    (run : Runs platform codec start labels finish)
    (placed : start.auth.threads[place]?.map (·.request) = some request) :
    finish.auth.threads[place]?.map (·.request) = some request := by
  refine run.preserves
    (fun deployment => deployment.auth.threads[place]?.map (·.request) = some request) ?_ placed
  intro before label after placedBefore taken
  rcases auth_cases taken with same | ⟨authLabel, authTaken⟩
  · rw [same]
    exact placedBefore
  · exact Service.request_of_step authTaken placedBefore

/-! ## A login from its packet to the session's player id -/

section Login

variable {session : SessionId} {packet : UnifiedPacket} {sessionTicket : Bytes} {playerId : PlayerId}
  {commandId : Int}

theorem handleJob_login (session : SessionId) (current : PlayerId) (kind : packet.id = .cLogin)
    (carried : packet.data.bind (·.asLogin) = some { sessionTicket, playerId, commandId }) :
    handleJob { session, packet } current true =
      some (.verifySessionTicket sessionTicket playerId commandId) := by
  simp [handleJob, processJobPacket, kind, loginPacketHandler, carried]

/-- A login that is handled is with the auth server, or was dropped since its ticket cannot
be put into a request. -/
theorem login_cases (kind : packet.id = .cLogin)
    (carried : packet.data.bind (·.asLogin) = some { sessionTicket, playerId, commandId })
    (taken : step platform codec before (.game (.processJob { session, packet } true)) = some after) :
    after.server.sessions = before.server.sessions ∧
    (decodeUtf8 sessionTicket = none → after.exchanges = before.exchanges) ∧
    ∀ request, run codec sessionTicket playerId = some request →
      after.auth.threads[before.auth.threads.length]?.map (·.request) = some (receive codec request) ∧
      { session, sessionTicket, playerId, commandId, request := before.auth.threads.length } ∈
        after.exchanges := by
  obtain ⟨server, serverTaken, rfl⟩ := game_cases taken
  obtain ⟨-, rfl⟩ := Server.step_eq_some_iff.mp serverTaken
  have handled := handleJob_login session (before.server.sessions session).playerId kind carried
  have asked : login? before.server (.processJob { session, packet } true) =
      some (session, sessionTicket, playerId, commandId) := by
    simp only [login?, handled]
  have sessions : (before.server.effect (.processJob { session, packet } true)).sessions =
      before.server.sessions := by
    simp only [Server.effect, handled, Server.takeUp]
  rw [asked, post]
  cases posted : run codec sessionTicket playerId with
  | none =>
      refine ⟨sessions, fun _ => rfl, ?_⟩
      intro request isPosted
      cases isPosted
  | some request =>
      refine ⟨sessions, ?_, ?_⟩
      · intro undecodable
        rw [run, undecodable] at posted
        cases posted
      · intro _ same
        cases same
        exact ⟨by simp [Service.start, service], List.mem_cons_self⟩

/-- How a reply to a login is settled, in any state where it is due: it is dropped unless the
session is connected, and then sets the session's player id exactly when it was agreed. -/
structure Settles (platform : Platform) (codec : Codec) (session : SessionId) (playerId : PlayerId)
    (commandId : Int) (reply : VerifyTicketResponse) (agreed : Prop) : Prop where
  checks : ∀ deployment : Deployment, .replied session commandId reply ∈ deployment.server.logins →
    ∃ next, step platform codec deployment (.game (.checkConnected session commandId reply)) = some next ∧
      next.server.sessions = deployment.server.sessions ∧
      ((deployment.server.sessions session).connected = true →
        .checked session commandId reply ∈ next.server.logins)
  sets : ∀ deployment : Deployment, .checked session commandId reply ∈ deployment.server.logins →
    ∃ next, step platform codec deployment (.game (.setPlayerId session commandId reply)) = some next ∧
      (agreed → next.server.sessions = Function.update deployment.server.sessions session
        { deployment.server.sessions session with playerId }) ∧
      (¬ agreed → next.server.sessions = deployment.server.sessions)

theorem settles_of_verdict {found : List Database} {reply : VerifyTicketResponse}
    (verdict : Verdict sessionTicket playerId found reply) :
    Settles platform codec session playerId commandId reply (Agreed sessionTicket playerId found) where
  checks deployment due := by
    refine ⟨{ deployment with
      server := deployment.server.effect (.checkConnected session commandId reply) }, ?_, ?_, ?_⟩
    · have taken := Server.step_eq_some_iff.mpr
        ⟨(show deployment.server.Enabled (.checkConnected session commandId reply) from due), rfl⟩
      rw [step, taken]
      · rfl
      · simp
    · simp only [Server.effect]
      split <;> rfl
    · intro connected
      simp only [Server.effect, connected, if_true]
      exact List.mem_cons_self
  sets deployment due := by
    refine ⟨{ deployment with
      server := deployment.server.effect (.setPlayerId session commandId reply) }, ?_, ?_, ?_⟩
    · have taken := Server.step_eq_some_iff.mpr
        ⟨(show deployment.server.Enabled (.setPlayerId session commandId reply) from due), rfl⟩
      rw [step, taken]
      · rfl
      · simp
    · intro agreed
      obtain ⟨success, same⟩ := verdict.accepts agreed
      simp only [Server.effect, success, if_true, Server.modifySession, same]
    · intro disagreed
      simp only [Server.effect, verdict.rejects disagreed, Bool.false_eq_true, if_false]

theorem response?_eq_some_iff {exchange : Exchange} {response : Response} :
    before.response? exchange = some response ↔
      ∃ thread, before.auth.threads[exchange.request]? = some thread ∧ thread.rest = .done response := by
  simp only [response?, Option.bind_eq_some_iff, Program.result?_eq_some_iff]

/-- The game server's callback on the response to a login. -/
theorem respond_cases {exchange : Exchange} {response : Response}
    (taken : step platform codec before (.respond exchange) = some after)
    (responded : before.response? exchange = some response) :
    .replied exchange.session exchange.commandId (onRead codec (send codec response)) ∈
        after.server.logins ∧
      after.server.sessions = before.server.sessions := by
  simp only [step, responded, Option.bind_some] at taken
  obtain ⟨-, server, serverTaken, rfl⟩ := answer_cases taken
  obtain ⟨-, rfl⟩ := Server.step_eq_some_iff.mp serverTaken
  exact ⟨List.mem_cons_self, rfl⟩

theorem login_sets_playerId_iff_agreed {config : Managers.GameConfig} {start before sent : Deployment}
    {labels : List Label} (created : create? config = some start)
    (ran : Runs platform codec start labels before) (kind : packet.id = .cLogin)
    (carried : packet.data.bind (·.asLogin) = some { sessionTicket, playerId, commandId })
    (handled : step platform codec before (.game (.processJob { session, packet } true)) = some sent) :
    let exchange : Exchange :=
      { session, sessionTicket, playerId, commandId, request := before.auth.threads.length }
    sent.server.sessions = before.server.sessions ∧
    (decodeUtf8 sessionTicket = none →
      sent.exchanges = before.exchanges ∧ NeverAgrees sessionTicket playerId) ∧
    (decodeUtf8 sessionTicket ≠ none → exchange ∈ sent.exchanges ∧
      ∀ later asked answered thread response, Runs platform codec sent later asked →
        asked.auth.threads[exchange.request]? = some thread → thread.rest = .done response →
        response ≠ .problem 500 → Carries codec sessionTicket playerId response →
        step platform codec asked (.respond exchange) = some answered →
        ∃ reply, .replied session commandId reply ∈ answered.server.logins ∧
          answered.server.sessions = asked.server.sessions ∧
          (thread.past = [] → NeverAgrees sessionTicket playerId) ∧
          Settles platform codec session playerId commandId reply
            (Agreed sessionTicket playerId (thread.past.map (·.before)))) := by
  obtain ⟨sessions, dropped, posted⟩ := login_cases kind carried handled
  refine ⟨sessions, fun undecodable => ⟨dropped undecodable, neverAgrees_of_undecodable undecodable⟩, ?_⟩
  intro decodable
  obtain ⟨text, decoded⟩ := Option.ne_none_iff_exists'.mp decodable
  obtain ⟨request, isPosted⟩ : ∃ request, run codec sessionTicket playerId = some request := by
    rw [run, decoded]
    exact ⟨_, rfl⟩
  obtain ⟨placed, pending⟩ := posted request isPosted
  refine ⟨pending, ?_⟩
  intro later asked answered thread response ranLater there isDone isResponse carries responds
  have sound := sound_of_run created ((ran.snoc handled).append ranLater)
  have asks := request_of_run ranLater placed
  rw [there, Option.map_some, Option.some.injEq] at asks
  have follows := sound.followed _ thread there
  rw [isDone] at follows
  have verdict := verdict_of_follows isPosted (asks ▸ follows)
    (sound.found _ (Nat.zero_le _) thread there) isResponse carries
  obtain ⟨replied, unchanged⟩ := respond_cases responds (response?_eq_some_iff.mpr ⟨thread, there, isDone⟩)
  exact ⟨_, replied, unchanged, fun unread => verdict.unread (by simp [unread]), settles_of_verdict verdict⟩

end Login

/-! A user registers, creates the character `alice` and logs in with it. -/

def utf8 (text : String) : Bytes := text.toUTF8.toList

def sampleTicket : String := DotNet.guidText 5

def sampleResult : ActionResult := ok (.verify
  { success := true, playerInfo := some (.ofPlayer (sampleRow 1 "alice"))
    message := "Session and player verification successful." })

def sampleRequestText : Bytes :=
  utf8 "\x7b\"PlayerId\":1,\"SessionTicket\":\"00000000-0000-0000-0000-000000000005\"\x7d"

def sampleResponseText : Bytes :=
  utf8 ("\x7b\"success\":true,\"playerInfo\":\x7b\"playerId\":1,\"name\":\"alice\",\"posX\":0," ++
    "\"posY\":0,\"hp\":100,\"maxHp\":100\x7d," ++
    "\"message\":\"Session and player verification successful.\"\x7d")

/-- The libraries on the texts of this one exchange. -/
def sampleCodec : Codec where
  dump _ := sampleRequestText
  deserialize body := if body = sampleRequestText then some (requestBody sampleTicket 1) else none
  serialize _ := sampleResponseText
  parse body :=
    if body = sampleResponseText then .ok sampleResult.value.toJson
    else .error "[json.exception.parse_error.101]"
  problemDetails _ := []

def samplePacket : UnifiedPacket :=
  { id := .cLogin
    data := some { asLogin := some { sessionTicket := utf8 sampleTicket, playerId := 1, commandId := 3 } } }

def sampleExchange : Exchange :=
  { session := 0, sessionTicket := utf8 sampleTicket, playerId := 1, commandId := 3, request := 2 }

/-- Everything before the login is handled. -/
def sampleSetUp : List Label :=
  (Server.connects 0).map .game ++ (registers 0 "alice" 1 5).map .auth ++
    (createsCharacter 1 5 "alice" [] 1).map .auth ++
    [.game (.receive 0 (some samplePacket)), .game (.popJob { session := 0, packet := samplePacket })]

/-- `Verify` reads the ticket and the player. -/
def sampleVerify : List Label := [.auth (.advance 2 (.answers {})), .auth (.advance 2 (.answers {}))]

private theorem decodeUtf8_sampleTicket : decodeUtf8 (utf8 sampleTicket) = some sampleTicket := by
  decide +kernel

theorem carries_sample : Carries sampleCodec (utf8 sampleTicket) 1 (.result sampleResult) where
  request text decoded := by
    cases decodeUtf8_sampleTicket.symm.trans decoded
    simp [sampleCodec]
  response result same := by
    cases same
    simp [sampleCodec]

theorem login_sets_playerId_iff_agreed_alice :
    ∃ start before sent asked answered thread reply, create? {} = some start ∧
      Runs samplePlatform sampleCodec start sampleSetUp before ∧
      step samplePlatform sampleCodec before
        (.game (.processJob { session := 0, packet := samplePacket } true)) = some sent ∧
      Runs samplePlatform sampleCodec sent sampleVerify asked ∧
      asked.auth.threads[2]? = some thread ∧ thread.rest = .done (.result sampleResult) ∧
      step samplePlatform sampleCodec asked (.respond sampleExchange) = some answered ∧
      .replied 0 3 reply ∈ answered.server.logins ∧
      Settles samplePlatform sampleCodec 0 1 3 reply
        (Agreed (utf8 sampleTicket) 1 (thread.past.map (·.before))) := by
  obtain ⟨start, asked, created, run, responded, responds⟩ :=
    exists_run_of_execute (step samplePlatform sampleCodec) (create? {})
      (sampleSetUp ++ .game (.processJob { session := 0, packet := samplePacket } true) :: sampleVerify)
      (fun deployment => deployment.response? sampleExchange = some (.result sampleResult) ∧
        (step samplePlatform sampleCodec deployment (.respond sampleExchange)).isSome = true)
      (by decide +kernel)
  obtain ⟨before, sent, ran, handled, later⟩ := run.split_at
  obtain ⟨again, other, createdAgain, ranAgain, two⟩ :=
    exists_run_of_execute (step samplePlatform sampleCodec) (create? {}) sampleSetUp
      (fun deployment => deployment.auth.threads.length = 2) (by decide +kernel)
  cases created.symm.trans createdAgain
  cases ran.deterministic ranAgain
  obtain ⟨answered, isAnswered⟩ := Option.isSome_iff_exists.mp responds
  obtain ⟨thread, there, isDone⟩ := response?_eq_some_iff.mp responded
  have same : ({ sampleExchange with request := before.auth.threads.length } : Exchange) = sampleExchange := by
    rw [two]
    rfl
  obtain ⟨-, -, settled⟩ := login_sets_playerId_iff_agreed created ran rfl rfl handled
  obtain ⟨-, settles⟩ := settled (by rw [decodeUtf8_sampleTicket]; simp)
  obtain ⟨reply, replied, -, -, settlesSo⟩ := settles sampleVerify asked answered thread (.result sampleResult)
    later (by rw [two]; exact there) isDone (by simp) carries_sample (by rw [← isAnswered, ← same]; rfl)
  exact ⟨start, before, sent, asked, answered, thread, reply, created, ran, handled, later, there, isDone,
    isAnswered, replied, settlesSo⟩

end Deployment

end CppMMO
