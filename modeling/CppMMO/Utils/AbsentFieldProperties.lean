import CppMMO.Utils.JobProcessorProperties

/-! Every field of the schema is optional. The way of a packet through the worker with each pointer
followed explicitly, and the buffers on which a pointer is followed that is null. -/

set_option autoImplicit false

namespace CppMMO.Utils

open CppMMO.Protocol CppMMO.Game

/-- What the worker reads through. -/
inductive Pointer where
  | unifiedPacket
  | cLoginPacket
  | sessionTicket
  | cChatPacket
  | message
  | cPlayerInputPacket
  | cEnterZonePacket
deriving DecidableEq

/-- `pointer->…`: an absent target is an error that nothing catches. -/
def follow {Target : Type} (pointer : Pointer) : Option Target → Except Pointer Target
  | none => .error pointer
  | some target => .ok target

variable {Table : Type}

/-- `data_as_C_Login` and its like: null under another tag, and null without a payload. -/
def Buffer.dataAs (buffer : Buffer Table) (tag : UInt8) : Option Table :=
  if buffer.dataType = tag then buffer.data else none

section

variable (accessors : Accessors Table) (session : SessionId) (playerId : PlayerId)
  (endpointKnown : Bool)

def LoginPacketHandler.read (buffer : Buffer Table) : Except Pointer Handling := do
  if buffer.id ≠ 1 then return .ignore
  let cLoginPacket := (buffer.dataAs 1).map accessors.login
  if cLoginPacket.isNone then return if endpointKnown then .sendLoginFailure else .ignore
  -- the ticket is read before anything else of the packet, and before the endpoint is asked for
  let sessionTicket ← follow .sessionTicket (← follow .cLoginPacket cLoginPacket).sessionTicket
  let requested := (← follow .cLoginPacket cLoginPacket).playerId
  let commandId := (← follow .cLoginPacket cLoginPacket).commandId
  return if endpointKnown then .verifySessionTicket sessionTicket requested commandId else .ignore

def ChatPacketHandler.read (buffer : Buffer Table) : Except Pointer Handling := do
  if buffer.id ≠ 4 then return .ignore
  let cChatPacket := (buffer.dataAs 4).map accessors.chat
  -- the right side of || is not evaluated for a packet that is null
  if cChatPacket.isNone then return .ignore
  if (← follow .cChatPacket cChatPacket).message.isNone then return .ignore
  let chatMessage ← follow .message (← follow .cChatPacket cChatPacket).message
  return if endpointKnown then .publish playerId chatMessage else .ignore

/-- The two handlers that are registered. -/
def PacketManager.dispatchPacket (buffer : Buffer Table) : Except Pointer Handling :=
  if buffer.id = 1 then LoginPacketHandler.read accessors endpointKnown buffer
  else if buffer.id = 4 then ChatPacketHandler.read accessors playerId endpointKnown buffer
  else return .ignore

def JobProcessor.processJobPacket (unifiedPacket : Option (Buffer Table)) :
    Except Pointer Handling := do
  let buffer ← follow .unifiedPacket unifiedPacket
  if buffer.id ∈ [1, 2, 3, 4, 5] then
    PacketManager.dispatchPacket accessors playerId endpointKnown buffer
  else if buffer.id = 10 then
    let cPlayerInputPacket := buffer.data.map accessors.playerInput
    if cPlayerInputPacket.isNone then return .ignore
    let inputFlags := (← follow .cPlayerInputPacket cPlayerInputPacket).inputFlags
    let sequenceNumber := (← follow .cPlayerInputPacket cPlayerInputPacket).sequenceNumber
    return .pushGameCommand
      { payload := .playerInput { playerId, inputFlags, sequenceNumber }, senderSessionId := session }
  else if buffer.id = 20 then
    let cEnterZonePacket := buffer.data.map accessors.enterZone
    if cEnterZonePacket.isNone then return .ignore
    let zoneId := (← follow .cEnterZonePacket cEnterZonePacket).zoneId
    return .pushGameCommand
      { payload := .enterZone { playerId, zoneId, sessionId := session }, senderSessionId := session }
  else return .ignore

/-- `WorkerLoop` for one job, whose buffer is empty, refused by the verifier, or accepted. -/
def JobProcessor.workerLoop (accepted : Option (Buffer Table)) : Except Pointer Handling :=
  match accepted with
  | none => return .ignore
  | some buffer => processJobPacket accessors session playerId endpointKnown (some buffer)

end

section

variable {accessors : Accessors Table} {session : SessionId} {playerId : PlayerId}
  {endpointKnown : Bool} {buffer : Buffer Table}

theorem LoginPacketHandler.read_eq (isLogin : buffer.id = 1) :
    LoginPacketHandler.read accessors endpointKnown buffer =
      match (buffer.dataAs 1).map accessors.login with
      | none => .ok (if endpointKnown then .sendLoginFailure else .ignore)
      | some login =>
          match login.sessionTicket with
          | none => .error .sessionTicket
          | some sessionTicket =>
              .ok (if endpointKnown then
                .verifySessionTicket sessionTicket login.playerId login.commandId else .ignore) := by
  unfold LoginPacketHandler.read
  cases held : (buffer.dataAs 1).map accessors.login with
  | none => simp [isLogin, pure, Except.pure]
  | some login =>
      cases ticket : login.sessionTicket with
      | none => simp [isLogin, follow, ticket, bind, Except.bind]
      | some sessionTicket => simp [isLogin, follow, ticket, bind, Except.bind, pure, Except.pure]

/-- The chat handler asks for each pointer before it follows it. -/
theorem ChatPacketHandler.read_eq (isChat : buffer.id = 4) :
    ChatPacketHandler.read accessors playerId endpointKnown buffer =
      .ok (match ((buffer.dataAs 4).map accessors.chat).bind (·.message) with
        | none => .ignore
        | some message => if endpointKnown then .publish playerId message else .ignore) := by
  unfold ChatPacketHandler.read
  cases held : (buffer.dataAs 4).map accessors.chat with
  | none => simp [isChat, pure, Except.pure]
  | some chat =>
      cases text : chat.message with
      | none => simp [isChat, follow, text, bind, Except.bind, pure, Except.pure]
      | some message => simp [isChat, follow, text, bind, Except.bind, pure, Except.pure]

namespace JobProcessor

theorem workerLoop_login (isLogin : buffer.id = 1) :
    workerLoop accessors session playerId endpointKnown (some buffer) =
      LoginPacketHandler.read accessors endpointKnown buffer := by
  simp [workerLoop, processJobPacket, follow, bind, Except.bind, isLogin,
    PacketManager.dispatchPacket]

theorem workerLoop_chat (isChat : buffer.id = 4) :
    workerLoop accessors session playerId endpointKnown (some buffer) =
      ChatPacketHandler.read accessors playerId endpointKnown buffer := by
  simp [workerLoop, processJobPacket, follow, bind, Except.bind, isChat,
    PacketManager.dispatchPacket]

/-- A game packet without a payload is dropped, any other one becomes its command. -/
theorem workerLoop_playerInput (isInput : buffer.id = 10) :
    workerLoop accessors session playerId endpointKnown (some buffer) =
      .ok ((buffer.data.bind (memberCommand accessors session playerId 6)).elim .ignore
        .pushGameCommand) := by
  cases held : buffer.data <;>
    simp [workerLoop, processJobPacket, follow, bind, Except.bind, pure, Except.pure, isInput, held,
      memberCommand]

theorem workerLoop_enterZone (enters : buffer.id = 20) :
    workerLoop accessors session playerId endpointKnown (some buffer) =
      .ok ((buffer.data.bind (memberCommand accessors session playerId 10)).elim .ignore
        .pushGameCommand) := by
  cases held : buffer.data <;>
    simp [workerLoop, processJobPacket, follow, bind, Except.bind, pure, Except.pure, enters, held,
      memberCommand]

theorem workerLoop_other (notLogin : buffer.id ≠ 1) (notChat : buffer.id ≠ 4)
    (notInput : buffer.id ≠ 10) (notEnter : buffer.id ≠ 20) :
    workerLoop accessors session playerId endpointKnown (some buffer) = .ok .ignore := by
  simp only [workerLoop, processJobPacket, follow, bind, Except.bind, pure, Except.pure, notInput,
    notEnter, PacketManager.dispatchPacket, notLogin, notChat, ↓reduceIte, ite_self]

/-- Followed pointer by pointer, the worker does what `Utils.processJobPacket` says, and fails
where that has no behaviour. -/
theorem toOption_workerLoop :
    (workerLoop accessors session playerId endpointKnown (some buffer)).toOption =
      Utils.processJobPacket session playerId endpointKnown (buffer.unifiedPacket accessors) := by
  by_cases isLogin : buffer.id = 1
  · rw [workerLoop_login isLogin, LoginPacketHandler.read_eq isLogin]
    have packet : (buffer.unifiedPacket accessors).data.bind (·.asLogin) =
        (buffer.dataAs 1).map accessors.login := by
      by_cases tagged : buffer.dataType = 1 <;> cases held : buffer.data <;>
        simp [Buffer.unifiedPacket, Buffer.payload, Buffer.dataAs, tagged, held]
    have kind : (buffer.unifiedPacket accessors).id = .cLogin := by
      simp [Buffer.unifiedPacket, PacketId.ofUInt16, isLogin]
    rw [Utils.processJobPacket, kind]
    simp only [loginPacketHandler, packet]
    cases (buffer.dataAs 1).map accessors.login with
    | none => rfl
    | some login =>
        dsimp only
        cases login.sessionTicket <;> rfl
  · by_cases isChat : buffer.id = 4
    · rw [workerLoop_chat isChat, ChatPacketHandler.read_eq isChat]
      have packet : (buffer.unifiedPacket accessors).data.bind (·.asChat) =
          (buffer.dataAs 4).map accessors.chat := by
        by_cases tagged : buffer.dataType = 4 <;> cases held : buffer.data <;>
          simp [Buffer.unifiedPacket, Buffer.payload, Buffer.dataAs, tagged, held]
      have kind : (buffer.unifiedPacket accessors).id = .cChat := by
        simp [Buffer.unifiedPacket, PacketId.ofUInt16, isChat]
      rw [Utils.processJobPacket, kind]
      simp only [chatPacketHandler, packet]
      rfl
    · by_cases isInput : buffer.id = 10
      · rw [workerLoop_playerInput isInput, processJobPacket_playerInput isInput]
        rfl
      · by_cases enters : buffer.id = 20
        · rw [workerLoop_enterZone enters, processJobPacket_enterZone enters]
          rfl
        · rw [workerLoop_other isLogin isChat isInput enters,
            processJobPacket_other isLogin isChat isInput enters]
          rfl

end JobProcessor

/-- A login request whose table has no ticket. -/
def Buffer.LacksTicket (accessors : Accessors Table) (buffer : Buffer Table) : Prop :=
  buffer.id = 1 ∧ buffer.dataType = 1 ∧
    ∃ table ∈ buffer.data, (accessors.login table).sessionTicket = none

theorem LoginPacketHandler.read_eq_error_iff {pointer : Pointer} (isLogin : buffer.id = 1) :
    LoginPacketHandler.read accessors endpointKnown buffer = .error pointer ↔
      pointer = .sessionTicket ∧ buffer.LacksTicket accessors := by
  rw [LoginPacketHandler.read_eq isLogin, Buffer.LacksTicket, Buffer.dataAs]
  by_cases tagged : buffer.dataType = 1
  · cases held : buffer.data with
    | none => simp [tagged]
    | some table =>
        cases ticket : (accessors.login table).sessionTicket with
        | none => simp [tagged, ticket, isLogin, eq_comm]
        | some sessionTicket => simp [tagged, ticket]
  · simp [tagged]

/-- The ticket of a login request is the only pointer that is ever followed while null. -/
theorem JobProcessor.workerLoop_eq_error_iff {pointer : Pointer} :
    workerLoop accessors session playerId endpointKnown (some buffer) = .error pointer ↔
      pointer = .sessionTicket ∧ buffer.LacksTicket accessors := by
  by_cases isLogin : buffer.id = 1
  · rw [workerLoop_login isLogin, LoginPacketHandler.read_eq_error_iff isLogin]
  · have handled : ∃ handling,
        workerLoop accessors session playerId endpointKnown (some buffer) = .ok handling := by
      by_cases isChat : buffer.id = 4
      · exact ⟨_, (workerLoop_chat isChat).trans (ChatPacketHandler.read_eq isChat)⟩
      · by_cases isInput : buffer.id = 10
        · exact ⟨_, workerLoop_playerInput isInput⟩
        · by_cases enters : buffer.id = 20
          · exact ⟨_, workerLoop_enterZone enters⟩
          · exact ⟨_, workerLoop_other isLogin isChat isInput enters⟩
    obtain ⟨handling, handled⟩ := handled
    simp [handled, Buffer.LacksTicket, isLogin]

end

/-- Every pointer that is followed while an accepted buffer is processed has a target. -/
def NoAbsentRead (accessors : Accessors Table) (session : SessionId) (playerId : PlayerId)
    (endpointKnown : Bool) (buffer : Buffer Table) : Prop :=
  ∀ pointer, JobProcessor.workerLoop accessors session playerId endpointKnown (some buffer) ≠
    .error pointer

/-- The login handler asks whether the packet is there but not whether its ticket is. -/
theorem noAbsentRead_iff (accessors : Accessors Table) (session : SessionId) (playerId : PlayerId)
    (endpointKnown : Bool) (buffer : Buffer Table) :
    NoAbsentRead accessors session playerId endpointKnown buffer ↔
      ¬ buffer.LacksTicket accessors := by
  simp only [NoAbsentRead, ne_eq, JobProcessor.workerLoop_eq_error_iff, not_and]
  exact ⟨fun safe => safe .sessionTicket rfl, fun present _ _ => present⟩

/-- How the readers act on a `C_Login` table whose fields are all unset: every scalar is its
default, every string absent. -/
def unsetAccessors : Accessors Unit where
  login _ := {}
  chat _ := {}
  playerInput _ := {}
  enterZone _ := {}

/-- A `C_Login` with nothing in it. -/
theorem absentRead_of_empty_login :
    JobProcessor.workerLoop unsetAccessors 3 0 true (some ⟨1, 1, some ()⟩) = .error .sessionTicket ∧
      ¬ NoAbsentRead unsetAccessors 3 0 true ⟨1, 1, some ()⟩ := by
  have read : JobProcessor.workerLoop unsetAccessors 3 0 true (some ⟨1, 1, some ()⟩) =
      .error .sessionTicket := rfl
  exact ⟨read, fun safe => safe _ read⟩

end CppMMO.Utils
