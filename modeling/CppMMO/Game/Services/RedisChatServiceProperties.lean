import CppMMO.Game.Managers.ChatManagerProperties
import CppMMO.Game.Services.RedisChatService

/-! Chat over all servers: what a session is sent of the messages that Redis hands to its server,
and what `Disconnect` waits for. -/

set_option autoImplicit false

namespace CppMMO.Game.Services

open CppMMO.Lib CppMMO.Protocol CppMMO.Game CppMMO.Game.Managers

namespace ChatServer

/-- What holds of every server. -/
structure Sound (chatServer : ChatServer) : Prop where
  nodup : chatServer.connectedSessions.Nodup
  subscribed : chatServer.subscribeThread ≠ .notStarted → chatServer.redis = true
  started : chatServer.running = true → chatServer.subscribeThread ≠ .notStarted
  stopped : chatServer.disconnecting ≠ .notCalled →
    chatServer.running = false ∧ chatServer.subscribeThread ≠ .notStarted
  joined : chatServer.disconnecting = .returned → chatServer.subscribeThread = .finished

end ChatServer

namespace ChatCluster

theorem step_cases {cluster after : ChatCluster} {label : Label}
    (taken : cluster.step label = some after) :
    ∀ server, (label.server? ≠ some server ∧ after.servers server = cluster.servers server) ∨
      label.server? = some server ∧
        stepServer (cluster.servers server) label = some (after.servers server) := by
  intro server
  simp only [step] at taken
  split at taken
  · next nobody =>
      cases taken
      exact .inl ⟨by simp [nobody], rfl⟩
  · next owner isOwner =>
      obtain ⟨chatServer, stepped, rfl⟩ := Option.map_eq_some_iff.mp taken
      by_cases same : owner = server
      · subst same
        exact .inr ⟨isOwner, by simpa using stepped⟩
      · refine .inl ⟨by simpa [isOwner] using same, ?_⟩
        simp [Function.update_of_ne (Ne.symm same)]

/-- Everything a server can do in one step. -/
inductive StepOutcome (chatServer : ChatServer) : Label → ChatServer → Prop where
  | subscribes {server : ServerId} (fresh : chatServer.redis = false) :
      StepOutcome chatServer (.connect server true true)
        { chatServer with redis := true, running := true, subscribeThread := .testRunning }
  | fails {server : ServerId} {redis subscriber : Bool} (fresh : chatServer.redis = false) :
      StepOutcome chatServer (.connect server redis subscriber) { chatServer with redis }
  | publish {server : ServerId} {playerId : PlayerId} {chatMessage : Bytes} {accepted : Bool} :
      StepOutcome chatServer (.publish server playerId chatMessage accepted) chatServer
  | publishElsewhere {message : Bytes} :
      StepOutcome chatServer (.publishElsewhere message) chatServer
  | testRunning {server : ServerId} (tests : chatServer.subscribeThread = .testRunning) :
      StepOutcome chatServer (.testRunning server) { chatServer with
        subscribeThread := if chatServer.running then .consume else .finished }
  | consumeReply {server : ServerId} (consumes : chatServer.subscribeThread = .consume) :
      StepOutcome chatServer (.consumeReply server)
        { chatServer with subscribeThread := .testRunning }
  | consume {server : ServerId} (message : Bytes)
      (consumes : chatServer.subscribeThread = .consume) :
      StepOutcome chatServer (.consume server message) { chatServer with
        subscribeThread := .testRunning
        sent := chatServer.sent ++ handleRedisChatMessage chatServer.connectedSessions message }
  | consumeThrows {server : ServerId} (consumes : chatServer.subscribeThread = .consume) :
      StepOutcome chatServer (.consumeThrows server) { chatServer with subscribeThread := .finished }
  | onSessionConnected {server : ServerId} (session : SessionId) :
      StepOutcome chatServer (.onSessionConnected server session)
        { chatServer with connectedSessions := chatServer.connectedSessions.insert session }
  | onSessionDisconnected {server : ServerId} (session : SessionId) :
      StepOutcome chatServer (.onSessionDisconnected server session) { chatServer with
        connectedSessions := chatServer.connectedSessions.filter (· ≠ session) }
  | disconnect {server : ServerId} (running : chatServer.running = true) :
      StepOutcome chatServer (.disconnect server)
        { chatServer with running := false, disconnecting := .join }
  | notRunning {server : ServerId} : StepOutcome chatServer (.disconnect server) chatServer
  | join {server : ServerId} (joins : chatServer.disconnecting = .join)
      (finished : chatServer.subscribeThread = .finished) :
      StepOutcome chatServer (.join server) { chatServer with disconnecting := .returned }

theorem stepServer_outcome {chatServer after : ChatServer} {label : Label}
    (taken : stepServer chatServer label = some after) : StepOutcome chatServer label after := by
  cases label with
  | connect server redis subscriber =>
      simp only [stepServer] at taken
      split at taken
      · cases taken
      · next fresh =>
          have isFresh : chatServer.redis = false := by simpa using fresh
          split at taken
          · next both =>
              cases taken
              obtain ⟨rfl, rfl⟩ := Bool.and_eq_true_iff.mp both
              exact .subscribes isFresh
          · cases taken
            exact .fails isFresh
  | publish =>
      simp only [stepServer] at taken
      split at taken <;> cases taken
      exact .publish
  | publishElsewhere =>
      cases taken
      exact .publishElsewhere
  | testRunning =>
      obtain ⟨tests, same⟩ := Option.ite_none_right_eq_some.mp taken
      cases same
      exact .testRunning tests
  | consumeReply =>
      obtain ⟨consumes, same⟩ := Option.ite_none_right_eq_some.mp taken
      cases same
      exact .consumeReply consumes
  | consume server message =>
      obtain ⟨consumes, same⟩ := Option.ite_none_right_eq_some.mp taken
      cases same
      exact .consume message consumes
  | consumeThrows =>
      obtain ⟨consumes, same⟩ := Option.ite_none_right_eq_some.mp taken
      cases same
      exact .consumeThrows consumes
  | onSessionConnected server session =>
      cases taken
      exact .onSessionConnected session
  | onSessionDisconnected server session =>
      cases taken
      exact .onSessionDisconnected session
  | disconnect =>
      simp only [stepServer, Option.some.injEq] at taken
      split at taken
      · next running =>
          cases taken
          exact .disconnect running
      · cases taken
        exact .notRunning
  | join =>
      obtain ⟨⟨joins, finished⟩, same⟩ := Option.ite_none_right_eq_some.mp taken
      cases same
      exact .join joins finished

theorem sound_stepServer {chatServer after : ChatServer} {label : Label}
    (sound : chatServer.Sound) (taken : stepServer chatServer label = some after) :
    after.Sound := by
  have notCalled : chatServer.redis = false → chatServer.disconnecting = .notCalled := by
    intro fresh
    by_contra called
    exact absurd (sound.subscribed (sound.stopped called).2) (by simp [fresh])
  have notReturned : ∀ thread, chatServer.subscribeThread = thread → thread ≠ .finished →
      chatServer.disconnecting ≠ .returned := by
    rintro thread rfl goesOn returned
    exact goesOn (sound.joined returned)
  cases stepServer_outcome taken with
  | subscribes fresh =>
      have quiet := notCalled fresh
      exact ⟨sound.nodup, fun _ => rfl, fun _ => by simp, fun called => absurd quiet called,
        fun returned => absurd (quiet.symm.trans returned) (by simp)⟩
  | fails fresh =>
      have notStarted : chatServer.subscribeThread = .notStarted := by
        by_contra started
        exact absurd (sound.subscribed started) (by simp [fresh])
      exact ⟨sound.nodup, fun started => absurd notStarted started, sound.started, sound.stopped,
        sound.joined⟩
  | publish | publishElsewhere | notRunning => exact sound
  | testRunning tests =>
      have connected := sound.subscribed (by simp [tests])
      refine ⟨sound.nodup, fun _ => connected, fun _ => by split <;> simp, fun called => ?_,
        fun returned => ?_⟩
      · exact ⟨(sound.stopped called).1, by split <;> simp⟩
      · exact absurd returned (notReturned _ tests (by simp))
  | consumeReply consumes | consume message consumes | consumeThrows consumes =>
      have connected := sound.subscribed (by simp [consumes])
      refine ⟨sound.nodup, fun _ => connected, fun _ => by simp, fun called => ?_,
        fun returned => ?_⟩
      · exact ⟨(sound.stopped called).1, by simp⟩
      · exact absurd returned (notReturned _ consumes (by simp))
  | onSessionConnected => exact { sound with nodup := sound.nodup.insert }
  | onSessionDisconnected => exact { sound with nodup := sound.nodup.filter _ }
  | disconnect running =>
      exact ⟨sound.nodup, sound.subscribed, fun runs => by simp at runs,
        fun _ => ⟨rfl, sound.started running⟩, fun returned => by simp at returned⟩
  | join joins finished =>
      exact ⟨sound.nodup, sound.subscribed, sound.started,
        fun _ => sound.stopped (by simp [joins]), fun _ => finished⟩

def Sound (cluster : ChatCluster) : Prop := ∀ server, (cluster.servers server).Sound

theorem Sound.step {cluster after : ChatCluster} {label : Label} (sound : cluster.Sound)
    (taken : cluster.step label = some after) : after.Sound := by
  intro server
  rcases step_cases taken server with ⟨-, same⟩ | ⟨-, stepped⟩
  · rw [same]
    exact sound server
  · exact sound_stepServer (sound server) stepped

theorem Sound.of_run {labels : List Label} {cluster : ChatCluster}
    (run : Runs {} labels cluster) : cluster.Sound := by
  refine run.preserves Sound (fun sound taken => sound.step taken) fun server => ?_
  refine ⟨List.nodup_nil, fun started => ?_, fun running => ?_, fun called => ?_,
    fun returned => ?_⟩
  · exact absurd rfl started
  · cases running
  · exact absurd rfl called
  · cases returned

/-! ## What a session is sent -/

theorem handleRedisChatMessage_for {connectedSessions : List SessionId}
    (nodup : connectedSessions.Nodup) (session : SessionId) (message : Bytes) :
    ((handleRedisChatMessage connectedSessions message).filter (·.1 = session)).map (·.2) =
      if session ∈ connectedSessions then (chatPacket? message).toList else [] := by
  unfold handleRedisChatMessage
  cases chatPacket? message with
  | none => simp
  | some packet =>
      have only : connectedSessions.filter (· = session) =
          if session ∈ connectedSessions then [session] else [] := by
        rw [List.filter_eq, nodup.count]
        split <;> rfl
      rw [List.filter_map, List.map_map]
      change (connectedSessions.filter (· = session)).map _ = _
      rw [only]
      split <;> rfl

/-- The message that a step hands to a server. -/
def Label.messageFor? (server : ServerId) : Label → Option Bytes
  | .consume owner message => if owner = server then some message else none
  | _ => none

theorem givenTo_snoc (server : ServerId) (labels : List Label) (label : Label) :
    chatChannel.givenTo server (labels ++ [label]) =
      chatChannel.givenTo server labels ++ (label.messageFor? server).toList := by
  cases label with
  | consume owner message =>
      by_cases same : owner = server
      · subst same
        rw [SharedLog.givenTo_snoc_of_given rfl]
        simp [Label.messageFor?]
      · rw [SharedLog.givenTo_snoc_of_not_given fun entry given => same (by cases given; rfl)]
        simp [Label.messageFor?, same]
  | _ =>
      rw [SharedLog.givenTo_snoc_of_not_given fun entry given => by cases given]
      exact (List.append_nil _).symm

theorem messageFor?_eq_none {server : ServerId} {label : Label}
    (other : label.server? ≠ some server) : label.messageFor? server = none := by
  cases label with
  | consume owner message =>
      have isOther : owner ≠ server := fun same => other (by rw [← same]; rfl)
      simp [Label.messageFor?, isOther]
  | _ => rfl

theorem sent_stepServer {chatServer after : ChatServer} {server : ServerId} {label : Label}
    (mine : label.server? = some server) (taken : stepServer chatServer label = some after) :
    after.sent = chatServer.sent ++ (label.messageFor? server).toList.flatMap
      (handleRedisChatMessage chatServer.connectedSessions) := by
  cases stepServer_outcome taken with
  | consume message consumes =>
      cases mine
      simp [Label.messageFor?]
  | _ => exact (List.append_nil _).symm

theorem sent_step {cluster after : ChatCluster} {label : Label}
    (taken : cluster.step label = some after) (server : ServerId) :
    (after.servers server).sent = (cluster.servers server).sent ++
      (label.messageFor? server).toList.flatMap
        (handleRedisChatMessage (cluster.servers server).connectedSessions) := by
  rcases step_cases taken server with ⟨other, same⟩ | ⟨mine, stepped⟩
  · rw [same, messageFor?_eq_none other]
    exact (List.append_nil _).symm
  · exact sent_stepServer mine stepped

theorem mem_connectedSessions_stepServer {chatServer after : ChatServer}
    {server : ServerId} {label : Label} (mine : label.server? = some server)
    (taken : stepServer chatServer label = some after) (session : SessionId) :
    session ∈ after.connectedSessions ↔ label = .onSessionConnected server session ∨
      session ∈ chatServer.connectedSessions ∧ label ≠ .onSessionDisconnected server session := by
  cases stepServer_outcome taken with
  | onSessionConnected other =>
      cases mine
      simp [eq_comm]
  | onSessionDisconnected other =>
      cases mine
      simp [List.mem_filter, @eq_comm _ other]
  | _ => simp

theorem mem_connectedSessions_step {cluster after : ChatCluster} {label : Label}
    (taken : cluster.step label = some after) (server : ServerId) (session : SessionId) :
    session ∈ (after.servers server).connectedSessions ↔
      label = .onSessionConnected server session ∨
        session ∈ (cluster.servers server).connectedSessions ∧
          label ≠ .onSessionDisconnected server session := by
  rcases step_cases taken server with ⟨other, same⟩ | ⟨mine, stepped⟩
  · have notConnected : label ≠ .onSessionConnected server session := by
      rintro rfl
      exact other rfl
    have notDisconnected : label ≠ .onSessionDisconnected server session := by
      rintro rfl
      exact other rfl
    simp [same, notConnected, notDisconnected]
  · exact mem_connectedSessions_stepServer mine stepped session

/-- What one step does to the chat of a session. -/
theorem received_step {cluster after : ChatCluster} {label : Label} (sound : cluster.Sound)
    (taken : cluster.step label = some after) (server : ServerId) (session : SessionId) :
    after.received server session = cluster.received server session ++
      if session ∈ (cluster.servers server).connectedSessions then
        (label.messageFor? server).toList.filterMap chatPacket?
      else [] := by
  rw [received, sent_step taken, List.filter_append, List.map_append]
  cases handed : label.messageFor? server with
  | none => simp [received]
  | some message =>
      rw [Option.toList_some, List.flatMap_singleton,
        handleRedisChatMessage_for (sound server).nodup]
      cases made : chatPacket? message <;> simp [received, made]

/-- What Redis says of the subscribers of a channel: each is handed what is published from its
subscription on, in that order and without a gap for as long as it is handed anything. -/
abbrev DeliversInOrder (labels : List Label) : Prop := chatChannel.InOrder labels

/-- What the sessions of all servers are sent over a stretch of a run. -/
structure FollowsChannel (past : List Label) (before : ChatCluster) (labels : List Label)
    (finish : ChatCluster) : Prop where
  /-- Whatever its server is handed, a session that stays registered is sent the chat of it: in
  order and each message once. -/
  registered : ∀ server session, session ∈ (before.servers server).connectedSessions →
    .onSessionDisconnected server session ∉ labels →
    finish.received server session = before.received server session ++
      (chatChannel.givenTo server labels).filterMap chatPacket?
  /-- Otherwise it is sent none. -/
  unregistered : ∀ server session, session ∉ (before.servers server).connectedSessions →
    .onSessionConnected server session ∉ labels →
    finish.received server session = before.received server session
  /-- With deliveries in order, what each server is handed is one stretch of all that is published,
  which goes on where the server was. -/
  inOrder : DeliversInOrder (past ++ labels) → ∀ server first,
    first = chatChannel.joinedAt server (past ++ labels) +
      (chatChannel.givenTo server past).length →
    first + (chatChannel.givenTo server labels).length ≤
        (chatChannel.written (past ++ labels)).length ∧
      chatChannel.givenTo server labels = segment (chatChannel.written (past ++ labels)) first
        (first + (chatChannel.givenTo server labels).length)

theorem follows_channel {past labels : List Label} {before finish : ChatCluster}
    (reached : Runs {} past before) (run : Runs before labels finish) :
    FollowsChannel past before labels finish := by
  have sound := Sound.of_run reached
  refine ⟨?_, ?_, fun ordered server first here => ordered.givenTo_back_eq_segment server here⟩
  · intro server session member stays
    let invariant (soFar : List Label) (cluster : ChatCluster) : Prop := cluster.Sound ∧
      session ∈ (cluster.servers server).connectedSessions ∧
      cluster.received server session = before.received server session ++
        (chatChannel.givenTo server soFar).filterMap chatPacket?
    have nothingYet : invariant [] before := ⟨sound, member, (List.append_nil _).symm⟩
    have holds : invariant ([] ++ labels) finish := by
      refine (run.with_labels (· ≠ .onSessionDisconnected server session)
        fun label isLabel same => stays (same ▸ isLabel)).preserves_history invariant ?_ nothingYet
      intro soFar cluster label after holdsHere taken
      obtain ⟨soundHere, memberHere, same⟩ := holdsHere
      obtain ⟨stepped, remains⟩ := taken
      refine ⟨soundHere.step stepped,
        (mem_connectedSessions_step stepped server session).mpr (.inr ⟨memberHere, remains⟩), ?_⟩
      rw [received_step soundHere stepped, if_pos memberHere, same, givenTo_snoc,
        List.filterMap_append, List.append_assoc]
    exact holds.2.2
  · intro server session absent stays
    let invariant (cluster : ChatCluster) : Prop := cluster.Sound ∧
      session ∉ (cluster.servers server).connectedSessions ∧
      cluster.received server session = before.received server session
    have holds : invariant finish := by
      refine (run.with_labels (· ≠ .onSessionConnected server session)
        fun label isLabel same => stays (same ▸ isLabel)).preserves invariant ?_
        ⟨sound, absent, rfl⟩
      intro cluster label after holdsHere taken
      obtain ⟨soundHere, absentHere, same⟩ := holdsHere
      obtain ⟨stepped, remains⟩ := taken
      refine ⟨soundHere.step stepped, fun member => ?_, ?_⟩
      · rcases (mem_connectedSessions_step stepped server session).mp member with enters | ⟨was, -⟩
        · exact remains enters
        · exact absentHere was
      · rw [received_step soundHere stepped, if_neg absentHere, List.append_nil, same]
    exact holds.2.2

/-- A session hears a player of the other server and one of its own, and nothing of a line that
is no chat. -/
def twoServersChat : List Label :=
  [.publishElsewhere [120], .publish 1 6 [97] true, .testRunning 0, .consumeReply 0, .testRunning 0,
    .consume 0 [120], .publish 0 5 [98] true, .testRunning 0,
    .consume 0 (messageWithPlayer 6 [97]), .testRunning 0, .consume 0 (messageWithPlayer 5 [98])]

theorem follows_channel_of_two_servers :
    ∃ past before finish, Runs {} past before ∧ Runs before twoServersChat finish ∧
      DeliversInOrder (past ++ twoServersChat) ∧
      finish.received 0 7 = [.chat 6 [97], .chat 5 [98]] ∧
      FollowsChannel past before twoServersChat finish := by
  let past : List Label := [.connect 0 true true, .connect 1 true true, .onSessionConnected 0 7]
  obtain ⟨_, finish, created, run, heard⟩ := exists_run_of_execute step (some {})
    (past ++ twoServersChat) (fun finish => finish.received 0 7 = [.chat 6 [97], .chat 5 [98]])
    (by decide +kernel)
  cases created
  obtain ⟨before, reached, rest⟩ := run.split
  exact ⟨past, before, finish, reached, rest, by decide +kernel, heard,
    follows_channel reached rest⟩

/-! ## What `Disconnect` waits for -/

/-- The subscribe thread gets something from its connection, or an error. -/
def Label.consumes (server : ServerId) : Label → Bool
  | .consumeReply other | .consume other _ | .consumeThrows other => other = server
  | _ => false

/-- A thread that is inside `consume` takes one more message, although it is to stop. -/
def owed (chatServer : ChatServer) : Nat :=
  if chatServer.subscribeThread = .consume then 1 else 0

theorem owed_le_one (chatServer : ChatServer) : owed chatServer ≤ 1 := by
  unfold owed
  split <;> omega

/-- What a server can still do once `Disconnect` was called. -/
structure Stopping (server : ServerId) (chatServer : ChatServer) (label : Label)
    (after : ChatServer) : Prop where
  called : after.disconnecting ≠ .notCalled
  ends : (label.messageFor? server).toList.length + owed after ≤ owed chatServer
  returned : chatServer.disconnecting = .returned → after.disconnecting = .returned
  waits : label.consumes server = false →
    chatServer.disconnecting = .join → chatServer.subscribeThread = .consume →
    after.disconnecting = .join ∧ after.subscribeThread = .consume

theorem Stopping.of_idle {server : ServerId} {chatServer after : ChatServer} {label : Label}
    (called : chatServer.disconnecting ≠ .notCalled) (nothing : label.messageFor? server = none)
    (sameCall : after.disconnecting = chatServer.disconnecting)
    (sameThread : after.subscribeThread = chatServer.subscribeThread) :
    Stopping server chatServer label after := by
  refine ⟨sameCall ▸ called, ?_, fun returned => sameCall.trans returned,
    fun _ joins waits => ⟨sameCall.trans joins, sameThread.trans waits⟩⟩
  simp [nothing, owed, sameThread]

theorem stopping_stepServer {server : ServerId} {chatServer after : ChatServer} {label : Label}
    (sound : chatServer.Sound) (called : chatServer.disconnecting ≠ .notCalled)
    (mine : label.server? = some server) (taken : stepServer chatServer label = some after) :
    Stopping server chatServer label after := by
  obtain ⟨stopped, started⟩ := sound.stopped called
  have connected := sound.subscribed started
  cases stepServer_outcome taken with
  | subscribes fresh | fails fresh =>
      rw [connected] at fresh
      cases fresh
  | publish | publishElsewhere | onSessionConnected | onSessionDisconnected | notRunning =>
      exact .of_idle called rfl rfl rfl
  | testRunning tests =>
      refine ⟨called, ?_, id, fun _ _ consumes => ?_⟩
      · simp [Label.messageFor?, owed, stopped]
      · rw [tests] at consumes
        cases consumes
  | consumeReply consumes | consume message consumes | consumeThrows consumes =>
      cases mine
      refine ⟨called, ?_, id, fun silent => ?_⟩
      · simp [Label.messageFor?, owed, consumes]
      · simp [Label.consumes] at silent
  | disconnect running =>
      rw [stopped] at running
      cases running
  | join joins finished =>
      refine ⟨by simp, ?_, fun _ => rfl, fun _ _ consumes => ?_⟩
      · simp [Label.messageFor?, owed]
      · rw [finished] at consumes
        cases consumes

theorem stopping_step {cluster after : ChatCluster} {label : Label} (sound : cluster.Sound)
    (taken : cluster.step label = some after) (server : ServerId)
    (called : (cluster.servers server).disconnecting ≠ .notCalled) :
    Stopping server (cluster.servers server) label (after.servers server) := by
  rcases step_cases taken server with ⟨other, same⟩ | ⟨mine, stepped⟩
  · rw [same]
    exact .of_idle called (messageFor?_eq_none other) rfl rfl
  · exact stopping_stepServer (sound server) called mine stepped

/-- What becomes of a server whose `Disconnect` was called. -/
structure Retires (cluster : ChatCluster) (server : ServerId) : Prop where
  /-- The thread takes at most one more message, and broadcasts no other. -/
  ends : ∀ labels finish, Runs cluster labels finish →
    (chatChannel.givenTo server labels).length ≤ 1 ∧
      ∃ connectedSessions, (finish.servers server).sent = (cluster.servers server).sent ++
        (chatChannel.givenTo server labels).flatMap (handleRedisChatMessage connectedSessions)
  /-- Once the call has returned nothing is broadcast any more. -/
  silent : (cluster.servers server).disconnecting = .returned →
    ∀ labels finish, Runs cluster labels finish →
      (finish.servers server).sent = (cluster.servers server).sent
  /-- A call that finds the thread inside `consume` waits until the channel has something for it
  or its connection fails. -/
  waits : (cluster.servers server).disconnecting = .join →
    (cluster.servers server).subscribeThread = .consume →
    ∀ labels finish, Runs cluster labels finish →
      (∀ label ∈ labels, label.consumes server = false) →
      (finish.servers server).disconnecting = .join

theorem retires {past : List Label} {cluster : ChatCluster} (reached : Runs {} past cluster)
    {server : ServerId} (called : (cluster.servers server).disconnecting ≠ .notCalled) :
    cluster.Retires server := by
  have sound := Sound.of_run reached
  refine ⟨?_, ?_, ?_⟩
  · intro labels finish run
    let invariant (soFar : List Label) (state : ChatCluster) : Prop := state.Sound ∧
      (state.servers server).disconnecting ≠ .notCalled ∧
      (chatChannel.givenTo server soFar).length + owed (state.servers server) ≤ 1 ∧
      ∃ connectedSessions, (state.servers server).sent = (cluster.servers server).sent ++
        (chatChannel.givenTo server soFar).flatMap (handleRedisChatMessage connectedSessions)
    have nothingYet : invariant [] cluster :=
      ⟨sound, called, by simpa [SharedLog.givenTo] using owed_le_one _, [],
        (List.append_nil _).symm⟩
    have holds : invariant ([] ++ labels) finish := by
      refine run.preserves_history invariant ?_ nothingYet
      intro soFar before label after holdsHere taken
      obtain ⟨soundHere, calledHere, bound, connectedSessions, same⟩ := holdsHere
      have stopping := stopping_step soundHere taken server calledHere
      have fewer := stopping.ends
      refine ⟨soundHere.step taken, stopping.called, ?_, ?_⟩
      · rw [givenTo_snoc, List.length_append]
        omega
      · rw [givenTo_snoc, sent_step taken, same]
        cases handed : label.messageFor? server with
        | none => exact ⟨connectedSessions, by simp⟩
        | some message =>
            -- what is taken now is the only message
            have first : chatChannel.givenTo server soFar = [] := by
              rw [handed, Option.toList_some, List.length_singleton] at fewer
              exact List.eq_nil_of_length_eq_zero (by omega)
            exact ⟨(before.servers server).connectedSessions, by simp [first]⟩
    obtain ⟨-, -, bound, broadcast⟩ := holds
    exact ⟨(Nat.le_add_right _ _).trans bound, broadcast⟩
  · intro returned labels finish run
    let invariant (state : ChatCluster) : Prop := state.Sound ∧
      (state.servers server).disconnecting = .returned ∧
      (state.servers server).sent = (cluster.servers server).sent
    have holds : invariant finish := by
      refine run.preserves invariant ?_ ⟨sound, returned, rfl⟩
      intro before label after holdsHere taken
      obtain ⟨soundHere, returnedHere, same⟩ := holdsHere
      have stopping := stopping_step soundHere taken server (by simp [returnedHere])
      have idle : owed (before.servers server) = 0 := by
        simp [owed, (soundHere server).joined returnedHere]
      have nothing : label.messageFor? server = none := by
        have fewer := stopping.ends
        cases handed : label.messageFor? server with
        | none => rfl
        | some message =>
            rw [idle, handed, Option.toList_some, List.length_singleton] at fewer
            omega
      refine ⟨soundHere.step taken, stopping.returned returnedHere, ?_⟩
      rw [sent_step taken, nothing, same]
      exact List.append_nil _
    exact holds.2.2
  · intro joins consumes labels finish run nothing
    let invariant (state : ChatCluster) : Prop := state.Sound ∧
      (state.servers server).disconnecting = .join ∧
      (state.servers server).subscribeThread = .consume
    have holds : invariant finish := by
      refine (run.with_labels (·.consumes server = false) nothing).preserves invariant ?_
        ⟨sound, joins, consumes⟩
      intro before label after holdsHere taken
      obtain ⟨soundHere, joinsHere, consumesHere⟩ := holdsHere
      obtain ⟨stepped, notConsuming⟩ := taken
      have stopping := stopping_step soundHere stepped server (by simp [joinsHere])
      exact ⟨soundHere.step stepped, stopping.waits notConsuming joinsHere consumesHere⟩
    exact holds.2.1

/-- `Disconnect` is called while the thread is inside `consume`. -/
theorem retires_of_blocked_thread :
    ∃ past cluster, Runs {} past cluster ∧ (cluster.servers 0).disconnecting = .join ∧
      (cluster.servers 0).subscribeThread = .consume ∧ cluster.Retires 0 := by
  obtain ⟨_, cluster, created, run, joins, consumes⟩ := exists_run_of_execute step (some {})
    [.connect 0 true true, .testRunning 0, .consumeReply 0, .testRunning 0, .disconnect 0]
    (fun cluster => (cluster.servers 0).disconnecting = .join ∧
      (cluster.servers 0).subscribeThread = .consume) (by decide +kernel)
  cases created
  exact ⟨_, cluster, run, joins, consumes, retires run (by simp [joins])⟩

end ChatCluster

end CppMMO.Game.Services
