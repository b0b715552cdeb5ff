import CppMMO.AcceptLoopProperties
import CppMMO.Game.Managers.AnnouncementProperties
import CppMMO.OwnershipProperties
import Mathlib.Data.List.Chain

/-! What a player's session is told about another player while the first stays active:
joined and left, in turn, each when it happens. -/

set_option autoImplicit false

namespace CppMMO

open CppMMO.Lib CppMMO.Protocol CppMMO.Game CppMMO.Game.Models CppMMO.Game.Managers CppMMO.Utils

namespace Server

/-! ## A session that is lost stays lost -/

/-- The accept loop is past adding the session to the session manager. -/
def Added (server : Server) (session : SessionId) : Prop :=
  session < server.nextSessionId ∧ server.accepting ≠ .started session

theorem Added.step {server : Server} {session : SessionId} (added : server.Added session)
    (label : Label) : (server.effect label).Added session := by
  obtain ⟨known, notStarted⟩ := added
  cases accepts : label.accepts with
  | false =>
      obtain ⟨accepting, next⟩ := accepting_effect_of_other server accepts
      exact ⟨next ▸ known, accepting ▸ notStarted⟩
  | true =>
      cases label with
      | accept =>
          refine ⟨Nat.lt_succ_of_lt known, ?_⟩
          intro same
          cases same
          exact Nat.lt_irrefl _ known
      | rejectConnection endpointKnown => cases endpointKnown <;> exact ⟨known, by simp [effect]⟩
      | setUpThrows constructed =>
          cases constructed
          · exact ⟨known, by simp [effect]⟩
          · exact ⟨Nat.lt_succ_of_lt known, by simp [effect]⟩
      | acceptFails | addSession | onSessionConnected | onSessionConnectedThrows =>
          exact ⟨known, by simp [effect]⟩
      | _ => cases accepts

/-- Registered sessions, one found for a command, and those of active players, were added. -/
structure Rooted (server : Server) : Prop where
  built : server.CommandsBuilt
  started : ∀ session, server.accepting = .started session → session < server.nextSessionId
  registered : ∀ session ∈ server.activeSessions, server.Added session
  found : ∀ command, server.found = some (command, true) → server.Added command.senderSessionId
  owned : ∀ session id, server.manager.Owns session id → server.Added session

theorem started_effect {server : Server} {label : Label} {session : SessionId}
    (known : server.accepting = .started session → session < server.nextSessionId)
    (started : (server.effect label).accepting = .started session) :
    session < (server.effect label).nextSessionId := by
  cases accepts : label.accepts with
  | false =>
      obtain ⟨accepting, next⟩ := accepting_effect_of_other server accepts
      rw [accepting] at started
      exact next ▸ known started
  | true =>
      cases label with
      | accept =>
          cases started
          exact Nat.lt_succ_self _
      | rejectConnection endpointKnown => cases endpointKnown <;> cases started
      | setUpThrows | acceptFails | addSession | onSessionConnected | onSessionConnectedThrows =>
          cases started
      | _ => cases accepts

theorem accepting_of_adds {server : Server} {label : Label} (enabled : server.Enabled label)
    {session : SessionId} (adds : label.adds session = true) :
    label = .addSession session ∧ server.accepting = .started session := by
  cases label with
  | addSession other =>
      obtain rfl : session = other := by simpa [Label.adds] using adds
      exact ⟨rfl, enabled⟩
  | _ => simp [Label.adds] at adds

theorem Rooted.step {server : Server} (rooted : server.Rooted) {label : Label}
    (enabled : server.Enabled label) : (server.effect label).Rooted := by
  refine ⟨rooted.built.step enabled, fun session => started_effect (rooted.started session),
    ?_, ?_, ?_⟩
  · intro session member
    rcases (mem_activeSessions_effect server label session).mp member with adds | ⟨earlier, -⟩
    · obtain ⟨rfl, started⟩ := accepting_of_adds enabled adds
      exact ⟨rooted.started session started, by simp [effect]⟩
    · exact (rooted.registered session earlier).step label
  · intro command found
    rcases found_effect enabled found with ⟨foundBefore, -⟩ | ⟨rfl, registered⟩
    · exact (rooted.found command foundBefore).step label
    · exact (rooted.registered _ (List.contains_iff_mem.mp registered.symm)).step _
  · intro session id owned
    rcases owns_effect rooted.built enabled owned with before | entering
    · exact (rooted.owned session id before).step label
    · obtain ⟨data, -, found, -⟩ := mem_entering?_iff.mp entering
      exact (rooted.found _ found).step label

/-- `GetSession` finds the session, and it is connected. -/
def Reachable (server : Server) (session : SessionId) : Prop :=
  session ∈ server.activeSessions ∧ (server.sessions session).connected = true

theorem Reachable.of_step {server : Server} {session : SessionId} (added : server.Added session)
    {label : Label} (enabled : server.Enabled label)
    (reachable : (server.effect label).Reachable session) : server.Reachable session := by
  obtain ⟨active, connected⟩ := reachable
  rw [connected_effect, Bool.and_eq_true] at connected
  refine ⟨?_, connected.1⟩
  rcases (mem_activeSessions_effect server label session).mp active with adds | ⟨earlier, -⟩
  · exact absurd (accepting_of_adds enabled adds).2 added.2
  · exact earlier

theorem reaches_eq_true_iff {server : Server} {request : Outgoing} (lookup : request.lookup = true) :
    server.reaches request = true ↔ server.Reachable request.session := by
  simp [reaches, lookup, Reachable]

/-! ## What a step says -/

/-- Login answers are about nobody's coming or going. -/
def AnswersOnly (server : Server) : Prop :=
  ∀ session packet, .answered session packet ∈ server.logins →
    ∀ about, packet.announces? about = none

theorem AnswersOnly.step {server : Server} (only : server.AnswersOnly) (label : Label) :
    (server.effect label).AnswersOnly := by
  intro session packet member
  cases label with
  | processJob job endpointKnown =>
      simp only [effect] at member
      split at member
      · exact only session packet member
      · next handling _ =>
          cases handling with
          | verifySessionTicket =>
              rcases List.mem_cons.mp member with same | earlier
              · cases same
              · exact only session packet earlier
          | _ => exact only session packet member
  | verifySessionTicket other playerId commandId response =>
      rcases List.mem_cons.mp member with same | earlier
      · cases same
      · exact only session packet (List.mem_of_mem_erase earlier)
  | checkConnected other commandId response =>
      simp only [effect] at member
      split at member
      · rcases List.mem_cons.mp member with same | earlier
        · cases same
        · exact only session packet (List.mem_of_mem_erase earlier)
      · exact only session packet (List.mem_of_mem_erase member)
  | setPlayerId other commandId response =>
      simp only [effect] at member
      split at member
      all_goals
        rcases List.mem_cons.mp member with same | earlier
        · cases same
          exact fun _ => rfl
        · exact only session packet (List.mem_of_mem_erase earlier)
  | sendLoginAnswer other answer => exact only session packet (List.mem_of_mem_erase member)
  | removeSession | getPlayerId | isConnected | send =>
      simp only [effect] at member
      split at member <;> exact only session packet member
  | _ => exact only session packet member

/-- What a step does to the talk about players: nothing, a command, another stage of the
game loop, a session asked for, or a request that is sent. -/
inductive Talk (before : Server) : Label → Server → Prop where
  | quiet {label : Label} {after : Server} (more : List (SessionId × ServerPacket))
      (other : label.isStage = false) (manager : after.manager = before.manager)
      (granted : after.granted = before.granted)
      (outbox : after.outbox = before.outbox) (sent : after.sent = before.sent ++ more)
      (silent : ∀ entry ∈ more, ∀ about, entry.2.announces? about = none) :
      Talk before label after
  | command {command : GameCommand} {sessionFound : Bool} {spawnPosition : Vec3}
    {now later : TimePoint}
      (idle : before.Idle) :
      Talk before (.processGameCommand command sessionFound spawnPosition now later)
        (before.effect (.processGameCommand command sessionFound spawnPosition now later))
  | stage {label : Label} {after : Server} (idle : before.Idle)
      (active : ∀ id, after.manager.world.Active id ↔ before.manager.world.Active id)
      (granted : after.granted = none) (sent : after.sent = before.sent)
      (silent : ∀ request ∈ after.outbox, ∀ packet ∈ request.packets, ∀ about,
        packet.announces? about = none) :
      Talk before label after
  | asked {request : Outgoing} {outbox : List Outgoing} (granted : before.granted = none)
      (first : before.outbox = request :: outbox) :
      Talk before .isConnected { before with
        outbox, granted := if before.reaches request then some request else none }
  | sends {request : Outgoing} (granted : before.granted = some request) :
      Talk before .send { before with
        granted := none, sent := before.sent ++ request.packets.map (request.session, ·) }

theorem active_updateWorld_iff (manager : GameManager) (deltaTime : ℚ) (id : PlayerId) :
    (manager.updateWorld deltaTime).world.Active id ↔ manager.world.Active id := by
  simp only [World.Active, GameManager.getPlayer_updateWorld]
  cases manager.world.getPlayer id <;> simp [GameManager.moved_isActive]

theorem talk_effect {server : Server} {label : Label} (enabled : server.Enabled label)
    (only : server.manager.OnlySnapshots) (answers : server.AnswersOnly) :
    Talk server label (server.effect label) := by
  cases label with
  | processGameCommand command sessionFound spawnPosition now later => exact .command enabled.1
  | updateWorld deltaTime =>
      obtain ⟨idle, -⟩ := enabled
      exact .stage idle (active_updateWorld_iff _ _) idle.2 rfl (by simp [effect, idle.1])
  | sendWorldSnapshots serverTime =>
      have idle : server.Idle := enabled.1
      have scene := server.manager.sendWorldSnapshots_sameScene serverTime
      refine .stage idle (fun id => ?_) idle.2 rfl (by simp [effect, idle.1])
      simp [effect, World.Active, scene.world_eq]
  | flushAllBatches =>
      have idle : server.Idle := enabled.1
      refine .stage idle (fun id => Iff.rfl) idle.2 rfl ?_
      exact fun request isRequest packet isPacket about =>
        GameManager.announces?_of_flushed only isRequest isPacket about
  | rehash players playerBatches =>
      obtain ⟨idle, -, reorders, -⟩ := enabled
      refine .stage idle (fun id => ?_) idle.2 rfl (by simp [effect, idle.1])
      have same : World.getPlayer ⟨players⟩ id = server.manager.world.getPlayer id :=
        reorders.find?_eq id
      simp [effect, World.Active, same]
  | isConnected =>
      obtain ⟨granted, waiting⟩ := enabled
      rcases first : server.outbox with _ | ⟨request, outbox⟩
      · exact absurd first waiting
      · simp only [effect, first]
        exact .asked granted first
  | send =>
      obtain ⟨request, granted⟩ := Option.isSome_iff_exists.mp enabled
      simp only [effect, granted]
      exact .sends granted
  | sendLoginFailure session =>
      exact .quiet [_] rfl rfl rfl rfl rfl (by simp [loginFailure, ServerPacket.announces?])
  | sendLoginAnswer session packet =>
      exact .quiet [(session, packet)] rfl rfl rfl rfl rfl
        (by simpa using answers session packet enabled)
  | handleRedisChatMessage chat =>
      refine .quiet _ rfl rfl rfl rfl rfl ?_
      intro entry member about
      obtain ⟨session, -, rfl⟩ := List.mem_map.mp member
      rfl
  | processJob job endpointKnown =>
      simp only [effect]
      split
      · exact .quiet [] rfl rfl rfl rfl (by simp) (by simp)
      · next handling _ => cases handling <;> exact .quiet [] rfl rfl rfl rfl (by simp [takeUp]) (by simp)
  | checkConnected | setPlayerId | removeSession | getPlayerId =>
      simp only [effect]
      split <;> exact .quiet [] rfl rfl rfl rfl (by simp [modifySession]) (by simp)
  | _ => exact .quiet [] rfl rfl rfl rfl (by simp [effect, modifySession]) (by simp)

/-! ## Announcements on their way -/

/-- The command is about to announce a player to others in an orderly way. -/
def Orderly (server : Server) : Label → Prop
  | .processGameCommand command sessionFound _ _ _ =>
      ∀ id ∈ server.manager.announced? command sessionFound, server.manager.Orderly command id
  | _ => True

instance (server : Server) : ∀ label, Decidable (server.Orderly label)
  | .processGameCommand _ _ _ _ _ => Option.decidableForallMem _
  | .accept | .acceptFails | .rejectConnection _ | .setUpThrows _ | .addSession _
  | .onSessionConnected _ | .onSessionConnectedThrows _ | .receive _ _ | .popJob _
  | .processJob _ _ | .pushGameCommand _ | .publish _ _ _ | .sendLoginFailure _
  | .verifySessionTicket _ _ _ _ | .checkConnected _ _ _ | .setPlayerId _ _ _
  | .sendLoginAnswer _ _ | .disconnect _ | .removeSession _ | .getPlayerId _
  | .pushDisconnect _ _ | .onSessionDisconnected _ | .getSession _ | .updateWorld _
  | .sendWorldSnapshots _ | .flushAllBatches | .rehash _ _ | .isConnected | .send
  | .handleRedisChatMessage _ =>
      .isTrue trivial

def orderlyStep (server : Server) (label : Label) : Option Server :=
  if server.Orderly label then server.step label else none

theorem orderlyStep_eq_some_iff {server after : Server} {label : Label} :
    server.orderlyStep label = some after ↔
      server.Orderly label ∧ server.Enabled label ∧ server.effect label = after := by
  rw [orderlyStep, Option.ite_none_right_eq_some, step_eq_some_iff]

/-- What the game thread has still to send. -/
def pending (server : Server) : List (SessionId × ServerPacket) :=
  addressed (server.granted.toList ++ server.outbox)

theorem pending_of_idle {server : Server} (idle : server.Idle) : server.pending = [] := by
  simp [pending, idle.1, idle.2]

theorem command_tells {server : Server} (idle : server.Idle) {command : GameCommand}
    {sessionFound : Bool} {spawnPosition : Vec3} {now later : TimePoint} {after : Server}
    (effect_eq : server.effect (.processGameCommand command sessionFound spawnPosition now later) =
      after)
    (orderly : server.Orderly (.processGameCommand command sessionFound spawnPosition now later))
    (session : SessionId) (about : PlayerId) :
    (announcements session about after.pending = [] ∧
        ∀ owner, owner ≠ about → server.manager.Owns session owner →
          (after.manager.world.Active about ↔ server.manager.world.Active about)) ∨
      ∃ joined, announcements session about after.pending = [joined] ∧
        (server.manager.world.Active about ↔ joined = false) ∧
        (after.manager.world.Active about ↔ joined = true) := by
  subst effect_eq
  have granted : (server.effect (.processGameCommand command sessionFound spawnPosition now
    later)).granted = none := idle.2
  rw [pending, granted, Option.toList_none, List.nil_append]
  exact GameManager.processGameCommand_tells orderly spawnPosition now later session about

/-- A session has at most one thing to hear about a player, and it is true. -/
structure InTurn (server : Server) : Prop where
  rooted : server.Rooted
  only : server.manager.OnlySnapshots
  answers : server.AnswersOnly
  lookup : ∀ request ∈ server.outbox, ∀ packet ∈ request.packets, ∀ about joined,
    packet.announces? about = some joined → request.lookup = true
  told : ∀ session about, announcements session about server.pending = [] ∨
    announcements session about server.pending = [decide (server.manager.world.Active about)]

theorem eq_nil_or_singleton_of_append {α : Type} {front back : List α} {item : α}
    (single : front ++ back = [] ∨ front ++ back = [item]) : back = [] ∨ back = [item] := by
  rcases single with none | one
  · exact .inl (List.append_eq_nil_iff.mp none).2
  · rcases List.append_eq_singleton_iff.mp one with ⟨-, isBack⟩ | ⟨-, isBack⟩
    · exact .inr isBack
    · exact .inl isBack

theorem onlySnapshots_effect {server : Server} {label : Label} (enabled : server.Enabled label)
    (only : server.manager.OnlySnapshots) : (server.effect label).manager.OnlySnapshots := by
  have managed := manager_effect enabled
  cases isEvent : event? label with
  | none =>
      rw [isEvent] at managed
      exact managed ▸ only
  | some event =>
      rw [isEvent] at managed
      exact managed.2 ▸ only.step managed.1

theorem InTurn.step {server : Server} (inTurn : server.InTurn) {label : Label}
    (orderly : server.Orderly label) (enabled : server.Enabled label) :
    (server.effect label).InTurn := by
  have talk := talk_effect enabled inTurn.only inTurn.answers
  refine ⟨inTurn.rooted.step enabled, onlySnapshots_effect enabled inTurn.only,
    inTurn.answers.step label, ?_, fun session about => ?_⟩
  · generalize server.effect label = after at talk
    cases talk with
    | quiet more other manager granted outbox sent silent => exact outbox ▸ inTurn.lookup
    | command idle =>
        exact fun request isRequest packet isPacket about joined =>
          GameManager.lookup_of_announces isRequest isPacket
    | stage idle active granted sent silent =>
        intro request isRequest packet isPacket about joined announces
        rw [silent request isRequest packet isPacket about] at announces
        cases announces
    | asked granted first =>
        exact fun request isRequest =>
          inTurn.lookup request (first ▸ List.mem_cons_of_mem _ isRequest)
    | sends granted => exact inTurn.lookup
  · have before := inTurn.told session about
    generalize server.effect label = after at talk
    cases talk with
    | quiet more other manager granted outbox sent silent =>
        simpa only [pending, granted, outbox, manager] using before
    | @command command sessionFound spawnPosition now later idle =>
        rcases command_tells idle rfl orderly session about
          with ⟨nothing, -⟩ | ⟨joined, tells, -, becomes⟩
        · exact .inl nothing
        · refine .inr (tells.trans ?_)
          rw [List.singleton_inj, ← Bool.coe_iff_coe, decide_eq_true_iff]
          exact becomes.symm
    | stage idle active granted sent silent =>
        rw [pending, granted, Option.toList_none, List.nil_append]
        refine .inl (announcements_eq_nil fun entry member => ?_)
        obtain ⟨request, isRequest, -, isPacket⟩ := (mem_addressed_iff _ entry.1 entry.2).mp member
        exact silent request isRequest entry.2 isPacket about
    | @asked request outbox granted first =>
        rw [pending, granted, first, Option.toList_none, List.nil_append, addressed_cons,
          announcements_append] at before
        simp only [pending]
        split
        · rw [Option.toList_some, List.singleton_append, addressed_cons, announcements_append]
          exact before
        · exact eq_nil_or_singleton_of_append before
    | @sends request granted =>
        rw [pending, granted, Option.toList_some, List.singleton_append, addressed_cons,
          announcements_append] at before
        exact eq_nil_or_singleton_of_append before

theorem InTurn.of_run {config : GameConfig} {start finish : Server} {labels : List Label}
    (created : create? config = some start) (run : Run (Taken orderlyStep) start labels finish) :
    finish.InTurn := by
  refine run.preserves InTurn ?_ ?_
  · intro before label after inTurn taken
    obtain ⟨orderly, enabled, rfl⟩ := orderlyStep_eq_some_iff.mp taken
    exact inTurn.step orderly enabled
  · obtain ⟨manager, createdManager, rfl⟩ := Option.map_eq_some_iff.mp created
    have only := GameManager.OnlySnapshots.create createdManager
    have nobody : ∀ session id, ¬ manager.Owns session id := by
      obtain ⟨quadTree, -, rfl⟩ := Option.map_eq_some_iff.mp createdManager
      rintro session id ⟨player, found, -⟩
      simp at found
    refine ⟨⟨⟨by simp, by simp⟩, by simp, by simp, by simp, ?_⟩, only, by simp [AnswersOnly], by simp, ?_⟩
    · exact fun session id owned => absurd owned (nobody session id)
    · exact fun session about => .inl rfl

/-! ## In turn, while a player stays -/

/-- A list that alternates and, if it has an end, ends with `last`. -/
def AlternatesTo (told : List Bool) (last : Bool) : Prop :=
  told.IsChain (· ≠ ·) ∧ ∀ final ∈ told.getLast?, final = last

theorem AlternatesTo.snoc {told : List Bool} {last : Bool} (alternates : AlternatesTo told last)
    {next : Bool} (differ : last ≠ next) : AlternatesTo (told ++ [next]) next := by
  refine ⟨alternates.1.append (List.isChain_singleton next) ?_, by simp⟩
  intro final isFinal first isFirst
  cases isFirst
  rw [alternates.2 final isFinal]
  exact differ

/-- Since the segment began, the session was told in turn, and while it can be reached
nothing is left out. -/
structure ToldInTurn (session : SessionId) (about : PlayerId)
    (added : List (SessionId × ServerPacket)) (server : Server) : Prop where
  certain : (announcements session about added ++
    announcements session about (addressed server.granted.toList)).IsChain (· ≠ ·)
  whole : server.Reachable session →
    AlternatesTo (announcements session about added ++ announcements session about server.pending)
      (decide (server.manager.world.Active about))

namespace ToldInTurn

variable {session : SessionId} {about : PlayerId} {added : List (SessionId × ServerPacket)}
  {before after : Server}

theorem of_inTurn (inTurn : before.InTurn) (session : SessionId) (about : PlayerId) :
    ToldInTurn session about [] before := by
  have whole : AlternatesTo (announcements session about before.pending)
      (decide (before.manager.world.Active about)) := by
    rcases inTurn.told session about with nothing | single
    · rw [nothing]
      exact ⟨.nil, by simp⟩
    · rw [single]
      exact ⟨List.isChain_singleton _, by simp⟩
  refine ⟨?_, fun _ => whole⟩
  have certain := whole.1
  rw [pending, addressed_append, announcements_append] at certain
  exact certain.left_of_append

theorem quiet (told : ToldInTurn session about added before)
    {more : List (SessionId × ServerPacket)}
    (manager : after.manager = before.manager) (granted : after.granted = before.granted)
    (outbox : after.outbox = before.outbox)
    (silent : ∀ entry ∈ more, ∀ about, entry.2.announces? about = none)
    (reached : after.Reachable session → before.Reachable session) :
    ToldInTurn session about (added ++ more) after := by
  have nothing : announcements session about more = [] :=
    announcements_eq_nil fun entry member => silent entry member about
  refine ⟨?_, fun reachable => ?_⟩
  · rw [announcements_append, nothing, List.append_nil, granted]
    exact told.certain
  · rw [announcements_append, nothing, List.append_nil, pending, granted, outbox, manager]
    exact told.whole (reached reachable)

/-- At the start of a stage everything has been said. -/
theorem of_idle (told : ToldInTurn session about added before) (idle : before.Idle) :
    (announcements session about added).IsChain (· ≠ ·) ∧ (before.Reachable session →
      AlternatesTo (announcements session about added)
        (decide (before.manager.world.Active about))) := by
  refine ⟨told.certain.left_of_append, fun reachable => ?_⟩
  have whole := told.whole reachable
  rwa [pending_of_idle idle, announcements_nil, List.append_nil] at whole

theorem command (told : ToldInTurn session about added before) (idle : before.Idle)
    {owner : PlayerId} (owns : before.manager.Owns session owner) (differ : owner ≠ about)
    {command : GameCommand} {sessionFound : Bool} {spawnPosition : Vec3}
    {now later : TimePoint}
    (orderly : before.Orderly (.processGameCommand command sessionFound spawnPosition now later))
    (reached : (before.effect (.processGameCommand command sessionFound spawnPosition now
      later)).Reachable session → before.Reachable session) :
    ToldInTurn session about added
      (before.effect (.processGameCommand command sessionFound spawnPosition now later)) := by
  obtain ⟨certain, whole⟩ := told.of_idle idle
  have granted : (before.effect (.processGameCommand command sessionFound spawnPosition now
    later)).granted = none := idle.2
  refine ⟨?_, fun reachable => ?_⟩
  · rw [granted, Option.toList_none, addressed_nil, announcements_nil, List.append_nil]
    exact certain
  · have soFar := whole (reached reachable)
    rcases command_tells idle rfl orderly session about
      with ⟨nothing, same⟩ | ⟨joined, tells, was, becomes⟩
    · rw [nothing, decide_eq_decide.mpr (same owner differ owns), List.append_nil]
      exact soFar
    · have isNow : decide ((before.effect (.processGameCommand command sessionFound spawnPosition
          now later)).manager.world.Active about) = joined := by
        rw [← Bool.coe_iff_coe, decide_eq_true_iff]
        exact becomes
      rw [tells, isNow]
      refine soFar.snoc ?_
      cases joined <;> simp [was]

theorem stage (told : ToldInTurn session about added before) (idle : before.Idle)
    (active : ∀ id, after.manager.world.Active id ↔ before.manager.world.Active id)
    (granted : after.granted = none)
    (silent : ∀ request ∈ after.outbox, ∀ packet ∈ request.packets, ∀ about,
      packet.announces? about = none)
    (reached : after.Reachable session → before.Reachable session) :
    ToldInTurn session about added after := by
  obtain ⟨certain, whole⟩ := told.of_idle idle
  have nothing : announcements session about (addressed after.outbox) = [] := by
    refine announcements_eq_nil fun entry member => ?_
    obtain ⟨request, isRequest, -, isPacket⟩ := (mem_addressed_iff _ entry.1 entry.2).mp member
    exact silent request isRequest entry.2 isPacket about
  refine ⟨?_, fun reachable => ?_⟩
  · rw [granted, Option.toList_none, addressed_nil, announcements_nil, List.append_nil]
    exact certain
  · rw [pending, granted, Option.toList_none, List.nil_append, nothing, List.append_nil,
      decide_eq_decide.mpr (active about)]
    exact whole (reached reachable)

/-- A request with something to say is granted exactly when the session can be reached. -/
theorem asked (told : ToldInTurn session about added before) {request : Outgoing}
    {outbox : List Outgoing} (granted : before.granted = none)
    (first : before.outbox = request :: outbox)
    (found : announcements session about (request.packets.map (request.session, ·)) ≠ [] →
      (before.reaches request = true ↔ before.Reachable session)) :
    ToldInTurn session about added { before with
      outbox, granted := if before.reaches request then some request else none } := by
  have certain : (announcements session about added).IsChain (· ≠ ·) := told.certain.left_of_append
  have whole : before.Reachable session →
      AlternatesTo (announcements session about added ++
        (announcements session about (request.packets.map (request.session, ·)) ++
          announcements session about (addressed outbox)))
        (decide (before.manager.world.Active about)) := by
    intro reachable
    have soFar := told.whole reachable
    rwa [pending, granted, first, Option.toList_none, List.nil_append, addressed_cons,
      announcements_append] at soFar
  cases reaches : before.reaches request with
  | true =>
      refine ⟨?_, fun reachable => ?_⟩
      · by_cases speaks : announcements session about (request.packets.map (request.session, ·)) = []
        · simpa [addressed, speaks] using certain
        · have soFar := (whole ((found speaks).mp reaches)).1
          rw [← List.append_assoc] at soFar
          simpa [addressed] using soFar.left_of_append
      · have soFar := whole reachable
        rw [← announcements_append, ← addressed_cons] at soFar
        simpa [pending] using soFar
  | false =>
      refine ⟨?_, fun reachable => ?_⟩
      · simpa using certain
      · have speaks : announcements session about (request.packets.map (request.session, ·)) = [] := by
          by_contra speaks
          rw [(found speaks).mpr reachable] at reaches
          cases reaches
        have soFar := whole reachable
        rw [speaks, List.nil_append] at soFar
        simpa [pending] using soFar

theorem sends (told : ToldInTurn session about added before) {request : Outgoing}
    (granted : before.granted = some request) :
    ToldInTurn session about (added ++ request.packets.map (request.session, ·)) { before with
      granted := none, sent := before.sent ++ request.packets.map (request.session, ·) } := by
  refine ⟨?_, fun reachable => ?_⟩
  · have certain := told.certain
    rw [granted] at certain
    simpa [announcements_append, addressed] using certain
  · have whole := told.whole reachable
    rw [pending, granted, Option.toList_some, List.singleton_append, addressed_cons,
      announcements_append, ← List.append_assoc, ← announcements_append] at whole
    simpa [pending] using whole

end ToldInTurn

theorem owns_of_active {before : Server} (built : before.CommandsBuilt) {label : Label}
    (enabled : before.Enabled label) {session : SessionId} {id : PlayerId}
    (owns : before.manager.Owns session id)
    (still : (before.effect label).manager.world.Active id) :
    (before.effect label).manager.Owns session id := by
  obtain ⟨player, found, active⟩ := still
  have owned : (before.effect label).manager.Owns player.sessionId id := ⟨player, found, active, rfl⟩
  obtain ⟨earlier, foundEarlier, wasActive, here⟩ := owns
  rcases owns_effect built enabled owned with ⟨same, foundSame, -, there⟩ | entering
  · cases foundEarlier.symm.trans foundSame
    rw [← here, there]
    exact owned
  · obtain ⟨data, -, -, wasInactive⟩ := mem_entering?_iff.mp entering
    exact absurd ⟨earlier, foundEarlier, wasActive⟩ wasInactive

/-- The player stays active with its session, which is told in turn. -/
structure Alternating (owner : PlayerId) (session : SessionId) (about : PlayerId)
    (earlier : List (SessionId × ServerPacket)) (server : Server) : Prop where
  inTurn : server.InTurn
  owns : server.manager.Owns session owner
  told : ∃ added, server.sent = earlier ++ added ∧ ToldInTurn session about added server

namespace Alternating

variable {owner about : PlayerId} {session : SessionId} {earlier : List (SessionId × ServerPacket)}
  {server : Server}

theorem reaches_iff (alternating : Alternating owner session about earlier server)
    {request : Outgoing} (isRequest : request ∈ server.outbox)
    (speaks : announcements session about (request.packets.map (request.session, ·)) ≠ []) :
    server.reaches request = true ↔ server.Reachable session := by
  obtain ⟨joined, member⟩ := List.exists_mem_of_ne_nil _ speaks
  obtain ⟨entry, isEntry, announces⟩ := List.mem_filterMap.mp member
  obtain ⟨packet, isPacket, rfl⟩ := List.mem_map.mp isEntry
  split at announces
  · next same =>
      obtain rfl : request.session = session := same
      exact reaches_eq_true_iff
        (alternating.inTurn.lookup request isRequest packet isPacket about joined announces)
  · cases announces

theorem step (alternating : Alternating owner session about earlier server)
    (differ : owner ≠ about) {label : Label} (orderly : server.Orderly label)
    (enabled : server.Enabled label)
    (still : (server.effect label).manager.world.Active owner) :
    Alternating owner session about earlier (server.effect label) := by
  have added := alternating.inTurn.rooted.owned session owner alternating.owns
  have reached : (server.effect label).Reachable session → server.Reachable session :=
    Reachable.of_step added enabled
  refine ⟨alternating.inTurn.step orderly enabled,
    owns_of_active alternating.inTurn.rooted.built enabled alternating.owns still, ?_⟩
  obtain ⟨news, sent, told⟩ := alternating.told
  have talk := talk_effect enabled alternating.inTurn.only alternating.inTurn.answers
  generalize server.effect label = after at talk reached
  cases talk with
  | quiet more other manager granted outbox sentMore silent =>
      exact ⟨news ++ more, by rw [sentMore, sent, List.append_assoc],
        told.quiet manager granted outbox silent reached⟩
  | command idle => exact ⟨news, sent, told.command idle alternating.owns differ orderly reached⟩
  | stage idle active granted sentSame silent =>
      exact ⟨news, sentSame.trans sent, told.stage idle active granted silent reached⟩
  | asked granted first =>
      exact ⟨news, sent, told.asked granted first
        (alternating.reaches_iff (first ▸ List.mem_cons_self))⟩
  | sends granted => exact ⟨_, by rw [sent, List.append_assoc], told.sends granted⟩

end Alternating

/-! ## Each when it happens -/

/-- The last stage of the game loop was a command that made the player active (`joined`) or
inactive. -/
def Changes (start : Server) (past : List Label) (about : PlayerId) (joined : Bool) : Prop :=
  ∃ front command sessionFound spawnPosition now later rest before after,
    past = front ++ .processGameCommand command sessionFound spawnPosition now later :: rest ∧
    Runs start front before ∧
    before.step (.processGameCommand command sessionFound spawnPosition now later) = some after ∧
    (∀ label ∈ rest, label.isStage = false) ∧
    (before.manager.world.Active about ↔ joined = false) ∧
    (after.manager.world.Active about ↔ joined = true)

theorem Changes.snoc {start : Server} {past : List Label} {about : PlayerId} {joined : Bool}
    (changes : Changes start past about joined) {label : Label} (other : label.isStage = false) :
    Changes start (past ++ [label]) about joined := by
  obtain ⟨front, command, sessionFound, spawnPosition, now, later, rest, before, after, rfl, run,
    taken, quiet, was, becomes⟩ := changes
  refine ⟨front, command, sessionFound, spawnPosition, now, later, rest ++ [label], before, after,
    by simp, run, taken, ?_, was, becomes⟩
  intro last member
  rcases List.mem_append.mp member with earlier | same
  · exact quiet last earlier
  · rw [List.mem_singleton.mp same]
    exact other

structure Coinciding (start : Server) (past : List Label) (server : Server) : Prop where
  runs : Runs start past server
  inTurn : server.InTurn
  changes : ∀ entry ∈ server.pending, ∀ about, ∀ joined ∈ entry.2.announces? about,
    Changes start past about joined

theorem Coinciding.step {start server : Server} {past : List Label}
    (coinciding : Coinciding start past server) {label : Label} (orderly : server.Orderly label)
    (enabled : server.Enabled label) :
    Coinciding start (past ++ [label]) (server.effect label) := by
  have taken : server.step label = some (server.effect label) :=
    step_eq_some_iff.mpr ⟨enabled, rfl⟩
  refine ⟨coinciding.runs.snoc taken, coinciding.inTurn.step orderly enabled, ?_⟩
  intro entry member about joined announces
  have talk := talk_effect enabled coinciding.inTurn.only coinciding.inTurn.answers
  generalize server.effect label = after at talk taken member
  cases talk with
  | quiet more other manager granted outbox sent silent =>
      rw [pending, granted, outbox] at member
      exact (coinciding.changes entry member about joined announces).snoc other
  | @command command sessionFound spawnPosition now later idle =>
      have heard : joined ∈ announcements entry.1 about (server.effect
          (.processGameCommand command sessionFound spawnPosition now later)).pending :=
        List.mem_filterMap.mpr ⟨entry, member, by rw [if_pos rfl]; exact announces⟩
      rcases command_tells idle rfl orderly entry.1 about
        with ⟨nothing, -⟩ | ⟨other, tells, was, becomes⟩
      · rw [nothing] at heard
        cases heard
      · rw [tells] at heard
        rw [List.mem_singleton.mp heard]
        exact ⟨past, command, sessionFound, spawnPosition, now, later, [], server, _, rfl,
          coinciding.runs, taken, by simp, was, becomes⟩
  | stage idle active granted sent silent =>
      rw [pending, granted, Option.toList_none, List.nil_append] at member
      obtain ⟨request, isRequest, -, isPacket⟩ := (mem_addressed_iff _ entry.1 entry.2).mp member
      rw [silent request isRequest entry.2 isPacket about] at announces
      cases announces
  | @asked request outbox granted first =>
      refine (coinciding.changes entry ?_ about joined announces).snoc rfl
      rw [pending, granted, first, Option.toList_none, List.nil_append]
      simp only [pending] at member
      split at member
      · exact member
      · rw [addressed_cons]
        exact List.mem_append_right _ member
  | @sends request granted =>
      refine (coinciding.changes entry ?_ about joined announces).snoc rfl
      rw [pending, granted, Option.toList_some, List.singleton_append, addressed_cons]
      exact List.mem_append_right _ member

theorem Coinciding.of_run {config : GameConfig} {start finish : Server} {labels : List Label}
    (created : create? config = some start) (run : Run (Taken orderlyStep) start labels finish) :
    Coinciding start labels finish := by
  have initially : Coinciding start [] start := by
    refine ⟨.nil, InTurn.of_run created .nil, ?_⟩
    obtain ⟨manager, -, rfl⟩ := Option.map_eq_some_iff.mp created
    intro entry member
    cases member
  refine run.preserves_history (Coinciding start) ?_ initially
  intro past before label after coinciding taken
  obtain ⟨orderly, enabled, rfl⟩ := orderlyStep_eq_some_iff.mp taken
  exact coinciding.step orderly enabled

/-! ## Whole runs -/

/-- A step after which the player is active. -/
def stayingStep (id : PlayerId) (server : Server) (label : Label) : Option Server :=
  (server.step label).filter fun after => after.manager.world.Active id

/-- While one player stays active, its session is told of another in turn; whatever is sent
about a player's coming or going is sent when the player comes or goes. -/
structure AnnouncedInTurn (start : Server) (labels : List Label) : Prop where
  alternates : ∀ owner about session front middle back before after, owner ≠ about →
    labels = front ++ (middle ++ back) → Runs start front before →
    before.manager.Owns session owner → Run (Taken (stayingStep owner)) before middle after →
    ∃ added, after.sent = before.sent ++ added ∧
      (announcements session about added).IsChain (· ≠ ·)
  coincides : ∀ front back before, labels = front ++ .send :: back → Runs start front before →
    ∀ request ∈ before.granted, ∀ packet ∈ request.packets, ∀ about,
    ∀ joined ∈ packet.announces? about, Changes start front about joined

theorem step_of_orderlyStep {server after : Server} {label : Label}
    (taken : server.orderlyStep label = some after) : server.step label = some after :=
  (Option.ite_none_right_eq_some.mp taken).2

theorem announcedInTurn_of_orderly {config : GameConfig} {start finish : Server}
    {labels : List Label} (created : create? config = some start)
    (run : Run (Taken orderlyStep) start labels finish) : AnnouncedInTurn start labels := by
  have sameState : ∀ {front : List Label} {before other : Server}, Runs start front before →
      Run (Taken orderlyStep) start front other → before = other := by
    intro front before other plain orderly
    exact Run.deterministic plain (orderly.mono step_of_orderlyStep)
  refine ⟨?_, ?_⟩
  · rintro owner about session front middle back before after differ rfl first owns stays
    obtain ⟨between, orderlyFront, rest⟩ := run.split
    obtain rfl := sameState first orderlyFront
    obtain ⟨_, orderlyMiddle, -⟩ := rest.split
    have inTurn := InTurn.of_run created orderlyFront
    have initially : Alternating owner session about before.sent before :=
      ⟨inTurn, owns, [], (List.append_nil _).symm, .of_inTurn inTurn session about⟩
    have atEnd : Alternating owner session about before.sent after := by
      refine (run_of_restrictions (fun taken => (Option.filter_eq_some_iff.mp taken).1)
        step_of_orderlyStep stays orderlyMiddle).preserves _ ?_ initially
      rintro state label next alternating ⟨staying, orderlyTaken⟩
      obtain ⟨orderly, enabled, rfl⟩ := orderlyStep_eq_some_iff.mp orderlyTaken
      have still := (Option.filter_eq_some_iff.mp staying).2
      exact alternating.step differ orderly enabled (of_decide_eq_true still)
    obtain ⟨added, sent, told⟩ := atEnd.told
    exact ⟨added, sent, told.certain.left_of_append⟩
  · rintro front back before rfl first request granted packet isPacket about joined announces
    obtain ⟨between, orderlyFront, -⟩ := run.split
    obtain rfl := sameState first orderlyFront
    refine (Coinciding.of_run created orderlyFront).changes (request.session, packet) ?_ about joined
      announces
    have isRequest : request ∈ before.granted.toList ++ before.outbox :=
      List.mem_append_left _ (Option.mem_toList.mpr granted)
    exact (mem_addressed_iff _ _ _).mpr ⟨request, isRequest, rfl, isPacket⟩

/-- A player hears of another that enters, leaves and comes back with a new session. -/
theorem announcedInTurn_of_return :
    ∃ start labels finish, create? {} = some start ∧
      Run (Taken orderlyStep) start labels finish ∧
      announcements 0 8 finish.sent = [true, false, true] ∧ AnnouncedInTurn start labels := by
  obtain ⟨start, finish, created, run, told⟩ :=
    exists_run_of_execute orderlyStep (create? {}) (connects 0 ++ logsIn 0 7 ++ enters 0 7 1 ++
      connects 1 ++ logsIn 1 8 ++ enters 1 8 2 ++ leaves 1 8 ++
      processes (disconnectCommand 1 8) false ++ [.isConnected, .send] ++
      connects 2 ++ logsIn 2 8 ++ enters 2 8 2)
      (fun finish => announcements 0 8 finish.sent = [true, false, true]) (by decide +kernel)
  exact ⟨start, _, finish, created, run, told, announcedInTurn_of_orderly created run⟩

/-- Two sessions are logged in as one player, and both close: the others hear twice that
the player left. -/
theorem left_announced_twice :
    ∃ start front middle before after, create? {} = some start ∧ Runs start front before ∧
      before.manager.Owns 0 7 ∧ Run (Taken (stayingStep 7)) before middle after ∧
      announcements 0 8 before.sent = [] ∧ announcements 0 8 after.sent = [true, false, false] ∧
      ¬ AnnouncedInTurn start (front ++ middle) := by
  obtain ⟨start, before, created, first, owns, silent, executed⟩ :=
    exists_run_of_execute step (create? {}) (connects 0 ++ logsIn 0 7 ++ enters 0 7 1)
      (fun before => before.manager.Owns 0 7 ∧ announcements 0 8 before.sent = [] ∧
        ((execute (stayingStep 7) before (connects 1 ++ logsIn 1 8 ++ enters 1 8 2 ++ connects 2 ++
          logsIn 2 8 ++ leaves 1 8 ++
          processes (disconnectCommand 1 8) false ++ [.isConnected, .send] ++
          leaves 2 8 ++
          processes (disconnectCommand 2 8) false ++ [.isConnected, .send])).any
          fun after => announcements 0 8 after.sent = [true, false, false]) = true)
      (by decide +kernel)
  obtain ⟨after, ran, told⟩ := (Option.any_eq_true _ _).mp executed
  have told := of_decide_eq_true told
  have stays := run_of_execute ran
  refine ⟨start, _, _, before, after, created, first, owns, stays, silent, told, fun inTurn => ?_⟩
  obtain ⟨added, sent, alternates⟩ := inTurn.alternates 7 8 0 _ _ [] before after (by decide)
    (by rw [List.append_nil]) first owns stays
  rw [sent, announcements_append, silent, List.nil_append] at told
  rw [told] at alternates
  exact absurd alternates (by decide)

end Server

end CppMMO
