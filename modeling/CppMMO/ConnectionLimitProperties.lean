import CppMMO.AcceptLoopProperties
import Mathlib.Data.List.Perm.Subperm

/-! The limit of concurrent connections. `AcceptLoop` counts the registered sessions before it sets
up a connection, and the session runs before it is registered. -/

set_option autoImplicit false

namespace CppMMO

open CppMMO.Lib CppMMO.Protocol CppMMO.Game CppMMO.Game.Models CppMMO.Game.Managers CppMMO.Utils

namespace Server

/-- The sessions that were given an id and whose sockets are open. -/
def openSessions (server : Server) : List SessionId :=
  (List.range server.nextSessionId).filter fun session => (server.sessions session).connected

/-- What the session manager knows of the connections. -/
structure LimitsConnections (server : Server) : Prop where
  registered_le : server.activeSessions.length ≤ maxConcurrentConnections
  open_le : server.openSessions.length ≤ maxConcurrentConnections
  /-- An open session is registered, unless it is the newest one. -/
  registers : ∀ session ∈ server.openSessions, session ∈ server.activeSessions ∨
    session + 1 = server.nextSessionId ∧
      (server.accepting = .started session ∨ server.accepting = .ended)

/-- A slot is kept for `pending`, the session that is being set up or was when the loop ended. -/
structure WithinLimit (server : Server) (pending : Option SessionId) : Prop where
  nodup : server.activeSessions.Nodup
  room : server.activeSessions.length + pending.toList.length ≤ maxConcurrentConnections
  registers : ∀ session < server.nextSessionId, (server.sessions session).connected = true →
    session ∈ server.activeSessions ∨ pending = some session
  isPending : ∀ session, server.accepting = .started session → pending = some session
  phase : ∀ session, pending = some session → session + 1 = server.nextSessionId ∧
    (server.accepting = .started session ∨ server.accepting = .ended)
  closed : ∀ session phase, (session, phase) ∈ server.disconnects →
    (server.sessions session).connected = false

namespace WithinLimit

variable {before : Server} {label : Label} {pending : Option SessionId}

theorem closed_effect (limit : before.WithinLimit pending) (enabled : before.Enabled label) :
    ∀ session phase, (session, phase) ∈ (before.effect label).disconnects →
      ((before.effect label).sessions session).connected = false := by
  intro session phase underWay
  rw [connected_effect, Bool.and_eq_false_iff]
  rcases disconnects_effect enabled underWay with closes | ⟨earlier, was⟩
  · exact .inr (by simp [closes])
  · exact .inl (limit.closed session earlier was)

/-- A step that neither accepts nor takes a session out leaves the registry as it is. -/
theorem frame (limit : before.WithinLimit pending) (enabled : before.Enabled label)
    (active : (before.effect label).activeSessions = before.activeSessions)
    (accepting : (before.effect label).accepting = before.accepting ∨
      pending = none ∧ ∀ session, (before.effect label).accepting ≠ .started session)
    (next : (before.effect label).nextSessionId = before.nextSessionId) :
    (before.effect label).WithinLimit pending where
  nodup := active ▸ limit.nodup
  room := active ▸ limit.room
  registers session drawn connected := by
    rw [next] at drawn
    rw [connected_effect, Bool.and_eq_true] at connected
    rw [active]
    exact limit.registers session drawn connected.1
  isPending session starts := by
    rcases accepting with same | ⟨-, notStarted⟩
    · exact limit.isPending session (same ▸ starts)
    · exact absurd starts (notStarted session)
  phase session isPending := by
    rcases accepting with same | ⟨noSession, -⟩
    · rw [same, next]
      exact limit.phase session isPending
    · rw [noSession] at isPending
      cases isPending
  closed := limit.closed_effect enabled

/-- Nothing is pending before a connection is counted and after its session is registered. -/
theorem eq_none (limit : before.WithinLimit pending)
    (notStarted : ∀ session, before.accepting ≠ .started session)
    (notEnded : before.accepting ≠ .ended) : pending = none := by
  cases pending with
  | none => rfl
  | some session =>
      obtain ⟨-, starts | ended⟩ := limit.phase session rfl
      · exact absurd starts (notStarted session)
      · exact absurd ended notEnded

theorem none_of_idle (limit : before.WithinLimit pending) (idle : before.accepting = .idle) :
    pending = none :=
  limit.eq_none (by simp [idle]) (by simp [idle])

theorem none_of_added (limit : before.WithinLimit pending) {added : SessionId}
    (accepting : before.accepting = .added added) : pending = none :=
  limit.eq_none (by simp [accepting]) (by simp [accepting])

/-- A new id is drawn for a connection that was counted. -/
theorem draw (limit : before.WithinLimit pending) (idle : before.accepting = .idle)
    (counted : before.activeSessions.length < maxConcurrentConnections)
    (enabled : before.Enabled label)
    (active : (before.effect label).activeSessions = before.activeSessions)
    (next : (before.effect label).nextSessionId = before.nextSessionId + 1)
    (accepting : (before.effect label).accepting = .started before.nextSessionId ∨
      (before.effect label).accepting = .ended) :
    (before.effect label).WithinLimit (some before.nextSessionId) where
  nodup := active ▸ limit.nodup
  room := by
    rw [active]
    exact counted
  registers session drawn connected := by
    rw [next] at drawn
    rw [active]
    by_cases new : session = before.nextSessionId
    · exact .inr (new ▸ rfl)
    · rw [connected_effect, Bool.and_eq_true] at connected
      have earlier := Nat.lt_of_le_of_ne (Nat.lt_succ_iff.mp drawn) new
      rcases limit.registers session earlier connected.1 with registered | isPending
      · exact .inl registered
      · rw [limit.none_of_idle idle] at isPending
        cases isPending
  isPending session starts := by
    rcases accepting with same | ended
    · rw [same] at starts
      cases starts
      rfl
    · rw [ended] at starts
      cases starts
  phase session isPending := by
    cases isPending
    exact ⟨next.symm, accepting⟩
  closed := limit.closed_effect enabled

theorem addSession (limit : before.WithinLimit pending) {added : SessionId}
    (enabled : before.Enabled (.addSession added)) :
    (before.effect (.addSession added)).WithinLimit none where
  nodup := limit.nodup.insert
  room := by
    have room := limit.room
    rw [limit.isPending added enabled] at room
    simp only [effect, List.length_insert]
    split
    · exact (Nat.le_succ _).trans room
    · exact room
  registers session drawn connected := by
    rcases limit.registers session drawn connected with registered | isPending
    · exact .inl (List.mem_insert_of_mem registered)
    · rw [limit.isPending added enabled] at isPending
      cases isPending
      exact .inl List.mem_insert_self
  isPending session starts := by cases starts
  phase session isPending := by cases isPending
  closed := limit.closed_effect enabled

theorem removeSession (limit : before.WithinLimit pending) {removed : SessionId}
    (enabled : before.Enabled (.removeSession removed)) :
    (before.effect (.removeSession removed)).WithinLimit pending where
  nodup := by
    simp only [effect]
    split
    · exact limit.nodup.filter _
    · exact limit.nodup
  room := by
    have shrinks : (before.effect (.removeSession removed)).activeSessions.length ≤
        before.activeSessions.length := by
      simp only [effect]
      split
      · exact List.length_filter_le _ _
      · exact le_refl _
    exact (Nat.add_le_add_right shrinks _).trans limit.room
  registers session drawn connected := by
    rw [connected_effect, Bool.and_eq_true] at connected
    have different : session ≠ removed := by
      rintro rfl
      rw [limit.closed session .closed enabled] at connected
      cases connected.1
    have keeps := mem_activeSessions_effect before (.removeSession removed) session
    rw [(accepting_effect_of_other before rfl).2] at drawn
    rcases limit.registers session drawn connected.1 with registered | isPending
    · exact .inl (keeps.mpr (.inr ⟨registered, decide_eq_false different⟩))
    · exact .inr isPending
  isPending session starts := by
    rw [(accepting_effect_of_other before rfl).1] at starts
    exact limit.isPending session starts
  phase session isPending := by
    rw [(accepting_effect_of_other before rfl).1, (accepting_effect_of_other before rfl).2]
    exact limit.phase session isPending
  closed := limit.closed_effect enabled

theorem step (limit : before.WithinLimit pending) (enabled : before.Enabled label) :
    ∃ stillPending, (before.effect label).WithinLimit stillPending := by
  cases accepts : label.accepts with
  | true =>
      cases label with
      | accept => exact ⟨_, limit.draw enabled.1 enabled.2 enabled rfl rfl (.inl rfl)⟩
      | acceptFails =>
          have idle : before.accepting = .idle := enabled
          exact ⟨pending, limit.frame enabled rfl
            (.inr ⟨limit.none_of_idle idle, fun _ starts => by cases starts⟩) rfl⟩
      | rejectConnection endpointKnown =>
          refine ⟨pending, limit.frame enabled rfl
            (.inr ⟨limit.none_of_idle enabled.1, fun _ starts => ?_⟩) rfl⟩
          cases endpointKnown <;> cases starts
      | setUpThrows constructed =>
          cases constructed with
          | true => exact ⟨_, limit.draw enabled.1 enabled.2 enabled rfl rfl (.inr rfl)⟩
          | false =>
              exact ⟨pending, limit.frame enabled rfl
                (.inr ⟨limit.none_of_idle enabled.1, fun _ starts => by cases starts⟩) rfl⟩
      | addSession added => exact ⟨none, limit.addSession enabled⟩
      | onSessionConnected session =>
          have added : before.accepting = .added session := enabled.1
          exact ⟨pending, limit.frame enabled rfl
            (.inr ⟨limit.none_of_added added, fun _ starts => by cases starts⟩) rfl⟩
      | onSessionConnectedThrows session =>
          have added : before.accepting = .added session := enabled
          exact ⟨pending, limit.frame enabled rfl
            (.inr ⟨limit.none_of_added added, fun _ starts => by cases starts⟩) rfl⟩
      | _ => cases accepts
  | false =>
      obtain ⟨accepting, next⟩ := accepting_effect_of_other before accepts
      cases label with
      | removeSession removed => exact ⟨pending, limit.removeSession enabled⟩
      | processJob job endpointKnown =>
          refine ⟨pending, limit.frame enabled ?_ (.inl accepting) next⟩
          simp only [effect]
          split <;> simp [takeUp_activeSessions]
      | checkConnected | setPlayerId | getPlayerId | isConnected | send =>
          refine ⟨pending, limit.frame enabled ?_ (.inl accepting) next⟩
          simp only [effect]
          split <;> rfl
      | accept | acceptFails | rejectConnection | setUpThrows | addSession
      | onSessionConnected | onSessionConnectedThrows => cases accepts
      | _ => exact ⟨pending, limit.frame enabled rfl (.inl accepting) next⟩

theorem of_run {config : GameConfig} {start finish : Server} {labels : List Label}
    (created : create? config = some start) (run : Runs start labels finish) :
    ∃ pending, finish.WithinLimit pending := by
  have initially : start.WithinLimit none := by
    obtain ⟨manager, -, rfl⟩ := Option.map_eq_some_iff.mp created
    exact ⟨by simp, by simp, by simp, by simp, by simp, by simp⟩
  refine run.preserves (fun server => ∃ pending, server.WithinLimit pending) ?_ ⟨none, initially⟩
  rintro before label after ⟨pending, limit⟩ taken
  obtain ⟨enabled, rfl⟩ := step_eq_some_iff.mp taken
  exact limit.step enabled

/-- Every open session holds one of the places. -/
theorem openSessions_subset (limit : before.WithinLimit pending) :
    before.openSessions ⊆ before.activeSessions ++ pending.toList := by
  intro session isOpen
  obtain ⟨drawn, connected⟩ := List.mem_filter.mp isOpen
  rcases limit.registers session (List.mem_range.mp drawn) connected with registered | isPending
  · exact List.mem_append_left _ registered
  · exact List.mem_append_right _ (by simp [isPending])

end WithinLimit

theorem nodup_openSessions (server : Server) : server.openSessions.Nodup :=
  List.nodup_range.filter _

/-- Whatever the threads do and in whichever order, the limit holds. -/
theorem limits_connections {config : GameConfig} {start finish : Server} {labels : List Label}
    (created : create? config = some start) (run : Runs start labels finish) :
    LimitsConnections finish := by
  obtain ⟨pending, limit⟩ := WithinLimit.of_run created run
  have room : (finish.activeSessions ++ pending.toList).length ≤ maxConcurrentConnections := by
    rw [List.length_append]
    exact limit.room
  refine ⟨(Nat.le_add_right _ _).trans limit.room, ?_, ?_⟩
  · have places := finish.nodup_openSessions.subperm limit.openSessions_subset
    exact places.length_le.trans room
  · intro session isOpen
    obtain ⟨drawn, connected⟩ := List.mem_filter.mp isOpen
    refine (limit.registers session (List.mem_range.mp drawn) connected).imp_right ?_
    exact limit.phase session

/-- The first of two sessions is gone, and a third runs that is not registered yet. -/
theorem limits_connections_of_three :
    ∃ start labels finish, create? {} = some start ∧ Runs start labels finish ∧
      finish.openSessions = [1, 2] ∧ finish.activeSessions = [1] ∧ LimitsConnections finish := by
  obtain ⟨start, finish, created, run, sessions⟩ :=
    exists_run_of_execute step (create? {})
      (connects 0 ++ connects 1 ++ [.disconnect 0, .removeSession 0, .accept])
      (fun finish : Server => finish.openSessions = [1, 2] ∧ finish.activeSessions = [1])
      (by decide +kernel)
  exact ⟨start, _, finish, created, run, sessions.1, sessions.2, limits_connections created run⟩

end Server

end CppMMO
