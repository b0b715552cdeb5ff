import CppMMO.Server

/-! The accept loop: what ends it, and whether the two session registries agree with the
sessions that are alive once it is done with a connection. -/

set_option autoImplicit false

namespace CppMMO

open CppMMO.Lib CppMMO.Protocol CppMMO.Game CppMMO.Game.Models CppMMO.Game.Managers CppMMO.Utils

namespace Server

theorem takeUp_activeSessions (server : Server) (session : SessionId) (handling : Handling) :
    (server.takeUp session handling).activeSessions = server.activeSessions := by
  cases handling <;> rfl

theorem takeUp_connectedSessions (server : Server) (session : SessionId) (handling : Handling) :
    (server.takeUp session handling).connectedSessions = server.connectedSessions := by
  cases handling <;> rfl

theorem takeUp_sessions (server : Server) (session : SessionId) (handling : Handling) :
    (server.takeUp session handling).sessions = server.sessions := by
  cases handling <;> rfl

/-! ## What ends the loop -/

/-- The set-up of a connection throws. -/
def Label.throws : Label → Bool
  | .rejectConnection endpointKnown => !endpointKnown
  | .setUpThrows _ | .onSessionConnectedThrows _ => true
  | _ => false

def Label.acceptThrows : Label → Bool
  | .acceptFails => true
  | _ => false

/-- The session a throwing set-up was for, if it got as far as one. -/
def Label.setUpOf? : Label → Option SessionId
  | .onSessionConnectedThrows session => some session
  | _ => none

/-- One bad connection does not stop the server: only a failing acceptor ends the loop, and
a set-up that throws leaves the registries without its session. -/
structure SurvivesBadConnections (start : Server) (labels : List Label) (finish : Server) :
    Prop where
  ends_on_accept : finish.accepting = .ended → ∃ label ∈ labels, label.acceptThrows = true
  registries : ∀ front label back before after, labels = front ++ label :: back →
    Runs start front before → before.step label = some after → label.throws = true →
    match label.setUpOf? with
    | none => after.activeSessions = before.activeSessions ∧
        after.connectedSessions = before.connectedSessions
    | some session => session ∉ after.activeSessions ∧ session ∉ after.connectedSessions

theorem accepting_effect {server : Server} {label : Label} (enabled : server.Enabled label) :
    ((server.effect label).accepting = .ended ↔
      server.accepting = .ended ∨ label.acceptThrows = true ∨ label.throws = true) ∧
      (label.acceptThrows = true ∨ label.throws = true → server.accepting ≠ .ended) := by
  cases accepts : label.accepts with
  | false =>
      have silent : label.acceptThrows = false ∧ label.throws = false := by
        cases label <;> first | exact ⟨rfl, rfl⟩ | cases accepts
      rw [(accepting_effect_of_other server accepts).1, silent.1, silent.2]
      simp
  | true =>
      cases label with
      | accept =>
          have idle : server.accepting = .idle := enabled.1
          simp [effect, Label.acceptThrows, Label.throws, idle]
      | acceptFails =>
          have idle : server.accepting = .idle := enabled
          simp [effect, Label.acceptThrows, idle]
      | rejectConnection endpointKnown =>
          have idle : server.accepting = .idle := enabled.1
          cases endpointKnown <;> simp [effect, Label.acceptThrows, Label.throws, idle]
      | setUpThrows constructed =>
          have idle : server.accepting = .idle := enabled.1
          simp [effect, Label.throws, idle]
      | addSession session =>
          have started : server.accepting = .started session := enabled
          simp [effect, Label.acceptThrows, Label.throws, started]
      | onSessionConnected session =>
          have added : server.accepting = .added session := enabled.1
          simp [effect, Label.acceptThrows, Label.throws, added]
      | onSessionConnectedThrows session =>
          have added : server.accepting = .added session := enabled
          simp [effect, Label.throws, added]
      | _ => cases accepts

/-- What has ended the loop, if anything has: the acceptor or a connection, not both. -/
structure EndedBy (past : List Label) (server : Server) : Prop where
  ended_iff : server.accepting = .ended ↔
    (∃ label ∈ past, label.acceptThrows = true) ∨ ∃ label ∈ past, label.throws = true
  exclusive : (∃ label ∈ past, label.acceptThrows = true) →
    ¬ ∃ label ∈ past, label.throws = true

theorem EndedBy.step {past : List Label} {server : Server} (endedBy : EndedBy past server)
    {label : Label} (enabled : server.Enabled label) :
    EndedBy (past ++ [label]) (server.effect label) := by
  obtain ⟨becomes, running⟩ := accepting_effect enabled
  have snoc : ∀ property : Label → Bool, (∃ other ∈ past ++ [label], property other = true) ↔
      (∃ other ∈ past, property other = true) ∨ property label = true := by
    intro property
    simp [or_and_right, exists_or]
  have apart : label.acceptThrows = true → label.throws = false := by
    cases label <;> simp [Label.acceptThrows, Label.throws]
  refine ⟨?_, ?_⟩
  · rw [becomes, endedBy.ended_iff, snoc, snoc]
    exact or_or_or_comm
  · rw [snoc, snoc]
    rintro (accepted | accepted) (thrown | thrown)
    · exact endedBy.exclusive accepted thrown
    · exact running (.inr thrown) (endedBy.ended_iff.mpr (.inl accepted))
    · exact running (.inl accepted) (endedBy.ended_iff.mpr (.inr thrown))
    · rw [apart accepted] at thrown
      cases thrown

theorem EndedBy.of_run {config : GameConfig} {start finish : Server} {labels : List Label}
    (created : create? config = some start) (run : Runs start labels finish) :
    EndedBy labels finish := by
  have initially : EndedBy [] start := by
    obtain ⟨manager, -, rfl⟩ := Option.map_eq_some_iff.mp created
    exact ⟨by simp, by simp⟩
  refine run.preserves_history EndedBy ?_ initially
  intro past before label after endedBy taken
  obtain ⟨enabled, rfl⟩ := step_eq_some_iff.mp taken
  exact endedBy.step enabled

theorem survivesBadConnections_iff {config : GameConfig} {start finish : Server}
    {labels : List Label} (created : create? config = some start)
    (run : Runs start labels finish) :
    SurvivesBadConnections start labels finish ↔ ∀ label ∈ labels, label.throws = false := by
  have endedBy := EndedBy.of_run created run
  constructor
  · intro survives
    by_contra some
    obtain ⟨label, member, throws⟩ : ∃ label ∈ labels, label.throws = true := by
      simpa using some
    have ended := endedBy.ended_iff.mpr (.inr ⟨label, member, throws⟩)
    exact endedBy.exclusive (survives.ends_on_accept ended) ⟨label, member, throws⟩
  · intro none
    refine ⟨fun ended => ?_, ?_⟩
    · rcases endedBy.ended_iff.mp ended with accepted | ⟨label, member, throws⟩
      · exact accepted
      · rw [none label member] at throws
        cases throws
    · intro front label back before after split _ _ throws
      rw [none label (by rw [split]; simp)] at throws
      cases throws

/-- Two connections are set up, and then the acceptor is closed. -/
theorem survivesBadConnections_of_two :
    ∃ start finish, create? {} = some start ∧
      Runs start (connects 0 ++ connects 1 ++ [.acceptFails]) finish ∧
      finish.accepting = .ended ∧
      SurvivesBadConnections start (connects 0 ++ connects 1 ++ [.acceptFails]) finish := by
  obtain ⟨start, finish, created, run, ended⟩ :=
    exists_run_of_execute step (create? {}) (connects 0 ++ connects 1 ++ [.acceptFails])
      (fun finish => finish.accepting = .ended) (by decide +kernel)
  exact ⟨start, finish, created, run, ended,
    (survivesBadConnections_iff created run).mpr (by decide)⟩

/-- The peer of the second connection is gone when its endpoint is logged: the loop ends,
with the session in both registries. -/
theorem loop_ended_by_one_connection :
    ∃ start labels finish, create? {} = some start ∧ Runs start labels finish ∧
      finish.accepting = .ended ∧ 1 ∈ finish.activeSessions ∧ 1 ∈ finish.connectedSessions ∧
      ¬ SurvivesBadConnections start labels finish := by
  obtain ⟨start, finish, created, run, ended, active, connected⟩ :=
    exists_run_of_execute step (create? {})
      (connects 0 ++ [.accept, .addSession 1, .onSessionConnectedThrows 1])
      (fun finish => finish.accepting = .ended ∧ 1 ∈ finish.activeSessions ∧
        1 ∈ finish.connectedSessions) (by decide +kernel)
  refine ⟨start, _, finish, created, run, ended, active, connected, fun survives => ?_⟩
  exact absurd (survives.ends_on_accept ended) (by decide)

/-! ## The registries -/

def Label.adds (session : SessionId) : Label → Bool
  | .addSession other => session = other
  | _ => false

def Label.removes (session : SessionId) : Label → Bool
  | .removeSession other => session = other
  | _ => false

/-- `OnSessionConnected` puts the session into the chat registry before it can throw. -/
def Label.addsToChat (session : SessionId) : Label → Bool
  | .onSessionConnected other | .onSessionConnectedThrows other => session = other
  | _ => false

def Label.removesFromChat (session : SessionId) : Label → Bool
  | .onSessionDisconnected other => session = other
  | _ => false

theorem mem_activeSessions_effect (server : Server) (label : Label) (session : SessionId) :
    session ∈ (server.effect label).activeSessions ↔ label.adds session = true ∨
      session ∈ server.activeSessions ∧ label.removes session = false := by
  cases label with
  | addSession other => simp [effect, Label.adds, Label.removes]
  | removeSession other =>
      simp only [effect, Label.adds, Label.removes, Bool.false_eq_true, false_or]
      split
      · simp
      · next absent =>
          have missing : other ∉ server.activeSessions := by simpa using absent
          constructor
          · intro active
            exact ⟨active, decide_eq_false fun same => missing (same ▸ active)⟩
          · exact fun both => both.1
  | processJob job endpointKnown =>
      simp only [effect]
      split <;> simp [takeUp_activeSessions, Label.adds, Label.removes]
  | checkConnected | setPlayerId | getPlayerId | isConnected | send =>
      simp only [effect]
      split <;> simp [Label.adds, Label.removes, modifySession]
  | _ => simp [effect, Label.adds, Label.removes, modifySession]

theorem mem_connectedSessions_effect (server : Server) (label : Label) (session : SessionId) :
    session ∈ (server.effect label).connectedSessions ↔ label.addsToChat session = true ∨
      session ∈ server.connectedSessions ∧ label.removesFromChat session = false := by
  cases label with
  | onSessionConnected other => simp [effect, Label.addsToChat, Label.removesFromChat]
  | onSessionConnectedThrows other =>
      simp [effect, Label.addsToChat, Label.removesFromChat]
  | onSessionDisconnected other =>
      simp [effect, Label.addsToChat, Label.removesFromChat]
  | processJob job endpointKnown =>
      simp only [effect]
      split <;> simp [takeUp_connectedSessions, Label.addsToChat, Label.removesFromChat]
  | checkConnected | setPlayerId | removeSession | getPlayerId | isConnected | send =>
      simp only [effect]
      split <;> simp [Label.addsToChat, Label.removesFromChat, modifySession]
  | _ => simp [effect, Label.addsToChat, Label.removesFromChat, modifySession]

def Label.disconnects (session : SessionId) : Label → Bool
  | .disconnect other => session = other
  | _ => false

theorem connected_effect (server : Server) (label : Label) (session : SessionId) :
    ((server.effect label).sessions session).connected =
      ((server.sessions session).connected && !label.disconnects session) := by
  cases label with
  | disconnect other =>
      simp only [effect, modifySession, Label.disconnects, Function.update_apply]
      split <;> simp_all
  | setPlayerId other commandId response =>
      simp only [effect, Label.disconnects]
      split
      · simp only [modifySession, Function.update_apply]
        split <;> simp_all
      · simp
  | processJob job endpointKnown =>
      simp only [effect]
      split <;> simp [takeUp_sessions, Label.disconnects]
  | checkConnected | removeSession | getPlayerId | isConnected | send =>
      simp only [effect]
      split <;> simp [Label.disconnects]
  | _ => simp [effect, Label.disconnects]

/-- A call of `Disconnect` is under way only for a session whose socket it has closed. -/
theorem disconnects_effect {server : Server} {label : Label} (enabled : server.Enabled label)
    {session : SessionId} {phase : Disconnecting}
    (underWay : (session, phase) ∈ (server.effect label).disconnects) :
    label.disconnects session = true ∨ ∃ earlier, (session, earlier) ∈ server.disconnects := by
  cases label with
  | disconnect other =>
      rcases List.mem_cons.mp underWay with same | earlier
      · cases same
        exact .inl (by simp [Label.disconnects])
      · exact .inr ⟨phase, earlier⟩
  | removeSession other | getPlayerId other =>
      simp only [effect] at underWay
      split at underWay
      all_goals
        rcases List.mem_cons.mp underWay with same | earlier
        · cases same
          exact .inr ⟨_, enabled⟩
        · exact .inr ⟨phase, List.mem_of_mem_erase earlier⟩
  | pushDisconnect other playerId =>
      rcases List.mem_cons.mp underWay with same | earlier
      · cases same
        exact .inr ⟨_, enabled⟩
      · exact .inr ⟨phase, List.mem_of_mem_erase earlier⟩
  | onSessionDisconnected other => exact .inr ⟨phase, List.mem_of_mem_erase underWay⟩
  | processJob job endpointKnown =>
      simp only [effect] at underWay
      split at underWay
      · exact .inr ⟨phase, underWay⟩
      · next handling _ => cases handling <;> exact .inr ⟨phase, underWay⟩
  | checkConnected | setPlayerId | isConnected | send =>
      simp only [effect] at underWay
      split at underWay <;> exact .inr ⟨phase, underWay⟩
  | _ => exact .inr ⟨phase, underWay⟩

/-- What the steps so far say of one session. -/
structure Followable (session : SessionId) (past : List Label) (server : Server) : Prop where
  connected_iff : (server.sessions session).connected = false ↔
    ∃ label ∈ past, label.disconnects session = true
  underWay : ∀ phase, (session, phase) ∈ server.disconnects →
    (server.sessions session).connected = false
  removed : ∀ label ∈ past, label.removes session = true ∨ label.removesFromChat session = true →
    (server.sessions session).connected = false
  added : server.accepting = .added session → ∃ label ∈ past, label.adds session = true
  chatAdded : (∃ label ∈ past, label.addsToChat session = true) →
    ∃ label ∈ past, label.adds session = true

theorem adds_of_accepting_added {server : Server} {label : Label} {session : SessionId}
    (added : (server.effect label).accepting = .added session) :
    label.adds session = true ∨ server.accepting = .added session := by
  cases accepts : label.accepts with
  | false => exact .inr ((accepting_effect_of_other server accepts).1 ▸ added)
  | true =>
      cases label with
      | addSession other =>
          cases added
          exact .inl (by simp [Label.adds])
      | accept | acceptFails | setUpThrows | onSessionConnected | onSessionConnectedThrows =>
          cases added
      | rejectConnection endpointKnown => cases endpointKnown <;> cases added
      | _ => cases accepts

/-- A label that takes the session out belongs to a call of `Disconnect` for it. -/
theorem underWay_of_removes {server : Server} {label : Label} (enabled : server.Enabled label)
    {session : SessionId}
    (removes : label.removes session = true ∨ label.removesFromChat session = true) :
    ∃ phase, (session, phase) ∈ server.disconnects := by
  cases label with
  | removeSession other =>
      obtain rfl : session = other := by simpa [Label.removes, Label.removesFromChat] using removes
      exact ⟨_, enabled⟩
  | onSessionDisconnected other =>
      obtain rfl : session = other := by simpa [Label.removes, Label.removesFromChat] using removes
      exact ⟨_, enabled⟩
  | _ => simp [Label.removes, Label.removesFromChat] at removes

theorem accepting_of_addsToChat {server : Server} {label : Label} (enabled : server.Enabled label)
    {session : SessionId} (adds : label.addsToChat session = true) :
    server.accepting = .added session := by
  cases label with
  | onSessionConnected other =>
      obtain rfl : session = other := by simpa [Label.addsToChat] using adds
      exact enabled.1
  | onSessionConnectedThrows other =>
      obtain rfl : session = other := by simpa [Label.addsToChat] using adds
      exact enabled
  | _ => simp [Label.addsToChat] at adds

namespace Followable

variable {session : SessionId} {past : List Label} {server : Server}

theorem step (followable : Followable session past server) {label : Label}
    (enabled : server.Enabled label) : Followable session (past ++ [label]) (server.effect label) := by
  have connected := connected_effect server label session
  have stays : (server.sessions session).connected = false →
      ((server.effect label).sessions session).connected = false := by
    intro closed
    rw [connected, closed]
    rfl
  have widen : ∀ property : Label → Bool, (∃ other ∈ past, property other = true) →
      ∃ other ∈ past ++ [label], property other = true :=
    fun property ⟨other, member, holds⟩ => ⟨other, List.mem_append_left _ member, holds⟩
  refine ⟨?_, ?_, ?_, ?_, ?_⟩
  · rw [connected, Bool.and_eq_false_iff, followable.connected_iff, Bool.not_eq_false']
    simp [or_and_right, exists_or]
  · intro phase underWay
    rcases disconnects_effect enabled underWay with closes | ⟨earlier, wasUnderWay⟩
    · rw [connected, closes, Bool.not_true, Bool.and_false]
    · exact stays (followable.underWay earlier wasUnderWay)
  · intro other member removes
    rcases List.mem_append.mp member with earlier | last
    · exact stays (followable.removed other earlier removes)
    · rw [List.mem_singleton.mp last] at removes
      obtain ⟨phase, underWay⟩ := underWay_of_removes enabled removes
      exact stays (followable.underWay phase underWay)
  · intro added
    rcases adds_of_accepting_added added with adds | earlier
    · exact ⟨label, by simp, adds⟩
    · exact widen _ (followable.added earlier)
  · rintro ⟨other, member, adds⟩
    rcases List.mem_append.mp member with earlier | last
    · exact widen _ (followable.chatAdded ⟨other, earlier, adds⟩)
    · rw [List.mem_singleton.mp last] at adds
      exact widen _ (followable.added (accepting_of_addsToChat enabled adds))

theorem of_run {config : GameConfig} {start finish : Server} {labels : List Label}
    (created : create? config = some start) (run : Runs start labels finish)
    (session : SessionId) : Followable session labels finish := by
  have initially : Followable session [] start := by
    obtain ⟨manager, -, rfl⟩ := Option.map_eq_some_iff.mp created
    exact ⟨by simp, by simp, by simp, by simp, by simp⟩
  refine run.preserves_history (Followable session) ?_ initially
  intro before label past after followable taken
  obtain ⟨enabled, rfl⟩ := step_eq_some_iff.mp taken
  exact followable.step enabled

end Followable

/-- A closed session is in neither registry, an open one in both. -/
structure RegistriesAgree (server : Server) (session : SessionId) : Prop where
  closed : (server.sessions session).connected = false →
    session ∉ server.activeSessions ∧ session ∉ server.connectedSessions
  alive : (server.sessions session).connected = true →
    session ∈ server.activeSessions ∧ session ∈ server.connectedSessions

/-- `AcceptLoop` has made its last step for the session, and no call of `Disconnect` for it
is under way. -/
structure Settled (session : SessionId) (labels : List Label) (server : Server) : Prop where
  movedOn : ∃ label ∈ labels, label.addsToChat session = true
  returned : ∀ entry ∈ server.disconnects, entry.1 ≠ session

/-- The registries agree unless the session was closed and the loop's additions came after
the removals. -/
theorem registriesAgree_iff {config : GameConfig} {start finish : Server} {labels : List Label}
    (created : create? config = some start) (run : Runs start labels finish)
    {session : SessionId} (settled : Settled session labels finish) :
    finish.RegistriesAgree session ↔
      ((∃ label ∈ labels, label.disconnects session = true) →
        Followed (Label.adds session) (Label.removes session) labels ∧
          Followed (Label.addsToChat session) (Label.removesFromChat session) labels) := by
  have followable := Followable.of_run created run session
  obtain ⟨notActive, notConnected⟩ : session ∉ start.activeSessions ∧
      session ∉ start.connectedSessions := by
    obtain ⟨manager, -, rfl⟩ := Option.map_eq_some_iff.mp created
    exact ⟨List.not_mem_nil, List.not_mem_nil⟩
  have active : session ∈ finish.activeSessions ↔
      ¬ Followed (Label.adds session) (Label.removes session) labels := by
    refine run.holds_iff_not_followed (fun server => session ∈ server.activeSessions) _ _ ?_ notActive
    intro before label after taken
    obtain ⟨-, rfl⟩ := step_eq_some_iff.mp taken
    exact mem_activeSessions_effect before label session
  have connected : session ∈ finish.connectedSessions ↔
      ¬ Followed (Label.addsToChat session) (Label.removesFromChat session) labels := by
    refine run.holds_iff_not_followed (fun server => session ∈ server.connectedSessions) _ _ ?_
      notConnected
    intro before label after taken
    obtain ⟨-, rfl⟩ := step_eq_some_iff.mp taken
    exact mem_connectedSessions_effect before label session
  rw [← followable.connected_iff]
  constructor
  · intro agree closed
    obtain ⟨gone, goneFromChat⟩ := agree.closed closed
    exact ⟨not_not.mp (mt active.mpr gone), not_not.mp (mt connected.mpr goneFromChat)⟩
  · intro condition
    refine ⟨fun closed => ?_, fun open_ => ?_⟩
    · obtain ⟨removed, removedFromChat⟩ := condition closed
      exact ⟨fun member => active.mp member removed,
        fun member => connected.mp member removedFromChat⟩
    · have stays : ∀ on off : Label → Bool, (∃ label ∈ labels, on label = true) →
          (∀ label, off label = true →
            label.removes session = true ∨ label.removesFromChat session = true) →
          ¬ Followed on off labels := by
        rintro on off ⟨label, member, switches⟩ removes followed
        obtain ⟨front, back, split⟩ := List.append_of_mem member
        obtain ⟨later, inBack, switchesOff⟩ := followed front label back split switches
        have inLabels : later ∈ labels := by
          rw [split]
          simp [inBack]
        have closed := followable.removed later inLabels (removes later switchesOff)
        rw [open_] at closed
        cases closed
      exact ⟨active.mpr (stays _ _ (followable.chatAdded settled.movedOn) fun _ => .inl),
        connected.mpr (stays _ _ settled.movedOn fun _ => .inr)⟩

/-- A session that connects, closes and is taken out of both registries. -/
theorem registriesAgree_after_leave :
    ∃ start finish, create? {} = some start ∧
      Runs start (connects 0 ++
        [.disconnect 0, .removeSession 0, .getPlayerId 0, .onSessionDisconnected 0]) finish ∧
      (finish.sessions 0).connected = false ∧ finish.RegistriesAgree 0 := by
  obtain ⟨start, finish, created, run, closed, returned⟩ :=
    exists_run_of_execute step (create? {}) (connects 0 ++
        [.disconnect 0, .removeSession 0, .getPlayerId 0, .onSessionDisconnected 0])
      (fun finish => (finish.sessions 0).connected = false ∧ finish.disconnects = [])
      (by decide +kernel)
  have settled : Settled 0 (connects 0 ++
      [.disconnect 0, .removeSession 0, .getPlayerId 0, .onSessionDisconnected 0]) finish :=
    ⟨by decide, by simp [returned]⟩
  exact ⟨start, finish, created, run, closed,
    (registriesAgree_iff created run settled).mpr fun _ => by decide⟩

/-- The peer is gone at once: the session's own coroutine removes it from both registries
before `AcceptLoop` adds it to them, and it stays in both. -/
theorem closed_session_stays_registered :
    ∃ start labels finish, create? {} = some start ∧ Runs start labels finish ∧
      Settled 0 labels finish ∧ (finish.sessions 0).connected = false ∧
      0 ∈ finish.activeSessions ∧ 0 ∈ finish.connectedSessions ∧
      ¬ finish.RegistriesAgree 0 := by
  obtain ⟨start, finish, created, run, closed, returned, active, connected⟩ :=
    exists_run_of_execute step (create? {})
      [.accept, .disconnect 0, .removeSession 0, .onSessionDisconnected 0, .addSession 0,
        .onSessionConnectedThrows 0]
      (fun finish => (finish.sessions 0).connected = false ∧ finish.disconnects = [] ∧
        0 ∈ finish.activeSessions ∧ 0 ∈ finish.connectedSessions) (by decide +kernel)
  refine ⟨start, _, finish, created, run, ⟨by decide, by simp [returned]⟩, closed, active, connected,
    fun agree => ?_⟩
  exact (agree.closed closed).1 active

end Server

end CppMMO
