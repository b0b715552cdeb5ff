import CppMMO.Utils.JobProcessor

/-! The packet id and the union tag of a verified buffer are independent fields. Which
handlers read the payload as what the tag says, and what comes of a buffer whose two
fields disagree. -/

set_option autoImplicit false

namespace CppMMO.Utils

open CppMMO.Protocol CppMMO.Game

/-- The generated table readers. The verifier has checked a table for its own type only;
what a reader of another type returns on it is not determined. -/
structure Accessors (Table : Type) where
  login : Table → CLogin
  chat : Table → CChat
  playerInput : Table → CPlayerInput
  enterZone : Table → CEnterZone

/-- A buffer that passed `VerifyUnifiedPacketBuffer`. -/
structure Buffer (Table : Type) where
  id : UInt16
  dataType : UInt8
  data : Option Table

def PacketId.ofUInt16 (id : UInt16) : PacketId :=
  if id = 1 then .cLogin
  else if id = 2 then .sLoginSuccess
  else if id = 3 then .sLoginFailure
  else if id = 4 then .cChat
  else if id = 5 then .sChat
  else if id = 10 then .cPlayerInput
  else if id = 20 then .cEnterZone
  else .other

/-- The union members in the order of the schema, each under the packet id of its name. -/
def unionMembers : List (UInt16 × UInt8) :=
  [(1, 1), (2, 2), (3, 3), (4, 4), (5, 5), (10, 6), (11, 7), (12, 8), (13, 9), (20, 10), (21, 11),
    (22, 12), (23, 13)]

variable {Table : Type}

namespace Buffer

def TagAgrees (buffer : Buffer Table) : Prop := (buffer.id, buffer.dataType) ∈ unionMembers

instance (buffer : Buffer Table) : Decidable buffer.TagAgrees :=
  inferInstanceAs (Decidable (_ ∈ unionMembers))

/-- `data_as_C_Login` and `data_as_C_Chat` look at the tag, a `static_cast` does not. -/
def payload (accessors : Accessors Table) (dataType : UInt8) (table : Table) : Payload :=
  { asLogin := if dataType = 1 then some (accessors.login table) else none
    asChat := if dataType = 4 then some (accessors.chat table) else none
    castPlayerInput := accessors.playerInput table
    castEnterZone := accessors.enterZone table }

def unifiedPacket (accessors : Accessors Table) (buffer : Buffer Table) : UnifiedPacket :=
  { id := .ofUInt16 buffer.id, data := buffer.data.map (payload accessors buffer.dataType) }

end Buffer

/-- The command that stands for one union member, with the ids of the sending session. -/
def memberCommand (accessors : Accessors Table) (session : SessionId) (playerId : PlayerId)
    (dataType : UInt8) (table : Table) : Option GameCommand :=
  if dataType = 6 then
    some
      { payload := .playerInput
          { playerId, inputFlags := (accessors.playerInput table).inputFlags
            sequenceNumber := (accessors.playerInput table).sequenceNumber }
        senderSessionId := session }
  else if dataType = 10 then
    some
      { payload := .enterZone
          { playerId, zoneId := (accessors.enterZone table).zoneId, sessionId := session }
        senderSessionId := session }
  else none

/-- What a buffer may lead to if its id and its tag have to agree. -/
structure IdAndPayloadAgree (accessors : Accessors Table) (session : SessionId)
    (playerId : PlayerId) (endpointKnown : Bool) (buffer : Buffer Table) : Prop where
  pushed : ∀ command, processJobPacket session playerId endpointKnown
      (buffer.unifiedPacket accessors) = some (.pushGameCommand command) →
    buffer.TagAgrees ∧ ∃ table ∈ buffer.data,
      memberCommand accessors session playerId buffer.dataType table = some command
  mismatched : ¬ buffer.TagAgrees →
    processJobPacket session playerId endpointKnown (buffer.unifiedPacket accessors) =
      some .ignore

section

variable {accessors : Accessors Table} {session : SessionId} {playerId : PlayerId}
  {endpointKnown : Bool} {buffer : Buffer Table}

theorem processJobPacket_login (isLogin : buffer.id = 1) (mismatch : buffer.dataType ≠ 1) :
    processJobPacket session playerId endpointKnown (buffer.unifiedPacket accessors) =
      some (if endpointKnown then .sendLoginFailure else .ignore) := by
  have unread : (buffer.data.map (Buffer.payload accessors buffer.dataType)).bind (·.asLogin) =
      none := by
    cases buffer.data <;> simp [Buffer.payload, mismatch]
  simp [processJobPacket, Buffer.unifiedPacket, PacketId.ofUInt16, isLogin, loginPacketHandler,
    unread]

theorem processJobPacket_chat (isChat : buffer.id = 4) (mismatch : buffer.dataType ≠ 4) :
    processJobPacket session playerId endpointKnown (buffer.unifiedPacket accessors) =
      some .ignore := by
  have unread : (buffer.data.map (Buffer.payload accessors buffer.dataType)).bind (·.asChat) =
      none := by
    cases buffer.data <;> simp [Buffer.payload, mismatch]
  simp [processJobPacket, Buffer.unifiedPacket, PacketId.ofUInt16, isChat, chatPacketHandler,
    unread]

theorem processJobPacket_playerInput (isInput : buffer.id = 10) :
    processJobPacket session playerId endpointKnown (buffer.unifiedPacket accessors) =
      some ((buffer.data.bind (memberCommand accessors session playerId 6)).elim .ignore
        .pushGameCommand) := by
  cases held : buffer.data <;>
    simp [processJobPacket, Buffer.unifiedPacket, PacketId.ofUInt16, isInput, held, memberCommand,
      Buffer.payload]

theorem processJobPacket_enterZone (enters : buffer.id = 20) :
    processJobPacket session playerId endpointKnown (buffer.unifiedPacket accessors) =
      some ((buffer.data.bind (memberCommand accessors session playerId 10)).elim .ignore
        .pushGameCommand) := by
  cases held : buffer.data <;>
    simp [processJobPacket, Buffer.unifiedPacket, PacketId.ofUInt16, enters, held, memberCommand,
      Buffer.payload]

theorem processJobPacket_other (notLogin : buffer.id ≠ 1) (notChat : buffer.id ≠ 4)
    (notInput : buffer.id ≠ 10) (notEnter : buffer.id ≠ 20) :
    processJobPacket session playerId endpointKnown (buffer.unifiedPacket accessors) =
      some .ignore := by
  simp only [processJobPacket, Buffer.unifiedPacket, PacketId.ofUInt16, notLogin, notChat,
    notInput, notEnter, ↓reduceIte]
  split_ifs <;> rfl

/-- A game packet with any payload at all becomes a command. -/
theorem exists_pushed {table : Table} (isGame : buffer.id = 10 ∨ buffer.id = 20)
    (held : buffer.data = some table) :
    ∃ command, processJobPacket session playerId endpointKnown (buffer.unifiedPacket accessors) =
      some (.pushGameCommand command) := by
  rcases isGame with isInput | enters
  · rw [processJobPacket_playerInput isInput, held]
    exact ⟨_, rfl⟩
  · rw [processJobPacket_enterZone enters, held]
    exact ⟨_, rfl⟩

/-- Only the two game packets of a client become commands. -/
theorem id_of_pushed {command : GameCommand}
    (pushed : processJobPacket session playerId endpointKnown (buffer.unifiedPacket accessors) =
      some (.pushGameCommand command)) : buffer.id = 10 ∨ buffer.id = 20 := by
  by_contra neither
  obtain ⟨notInput, notEnter⟩ := not_or.mp neither
  by_cases isLogin : buffer.id = 1
  · simp only [processJobPacket, Buffer.unifiedPacket, PacketId.ofUInt16, isLogin, ↓reduceIte,
      loginPacketHandler] at pushed
    split at pushed
    · split at pushed <;> cases pushed
    · obtain ⟨ticket, -, answered⟩ := Option.map_eq_some_iff.mp pushed
      split at answered <;> cases answered
  · by_cases isChat : buffer.id = 4
    · have kind : PacketId.ofUInt16 4 = .cChat := by decide
      simp only [processJobPacket, Buffer.unifiedPacket, isChat, kind, chatPacketHandler,
        Option.some.injEq] at pushed
      split at pushed
      · cases pushed
      · split at pushed <;> cases pushed
    · rw [processJobPacket_other isLogin isChat notInput notEnter] at pushed
      cases pushed

/-- A `C_Login` under another tag is answered, if the endpoint is still known. -/
theorem processJobPacket_of_mismatch (mismatch : ¬ buffer.TagAgrees) (notInput : buffer.id ≠ 10)
    (notEnter : buffer.id ≠ 20) :
    processJobPacket session playerId endpointKnown (buffer.unifiedPacket accessors) =
      some (if buffer.id = 1 ∧ endpointKnown = true then .sendLoginFailure else .ignore) := by
  by_cases isLogin : buffer.id = 1
  · have tag : buffer.dataType ≠ 1 := by
      intro same
      exact mismatch (by simp [Buffer.TagAgrees, unionMembers, isLogin, same])
    rw [processJobPacket_login isLogin tag]
    simp only [isLogin, true_and]
  · simp only [isLogin, false_and, ↓reduceIte]
    by_cases isChat : buffer.id = 4
    · have tag : buffer.dataType ≠ 4 := by
        intro same
        exact mismatch (by simp [Buffer.TagAgrees, unionMembers, isChat, same])
      exact processJobPacket_chat isChat tag
    · exact processJobPacket_other isLogin isChat notInput notEnter

end

/-- The id and the payload agree unless a game packet carries a payload of another type, where
the cast reads it as what the id says, or the login handler answers a packet of another type. -/
theorem idAndPayloadAgree_iff (accessors : Accessors Table) (session : SessionId)
    (playerId : PlayerId) (endpointKnown : Bool) (buffer : Buffer Table) :
    IdAndPayloadAgree accessors session playerId endpointKnown buffer ↔
      buffer.TagAgrees ∨ (buffer.data = none ∨ buffer.id ≠ 10 ∧ buffer.id ≠ 20) ∧
        ¬ (buffer.id = 1 ∧ endpointKnown = true) := by
  constructor
  · intro agree
    by_cases tag : buffer.TagAgrees
    · exact .inl tag
    · refine .inr ⟨?_, fun ⟨isLogin, known⟩ => ?_⟩
      · cases held : buffer.data with
        | none => exact .inl rfl
        | some table =>
            refine .inr (not_or.mp fun isGame => ?_)
            obtain ⟨command, pushed⟩ := exists_pushed isGame held
            exact tag (agree.pushed command pushed).1
      · have ignored := agree.mismatched tag
        rw [processJobPacket_of_mismatch tag (by simp [isLogin]) (by simp [isLogin]),
          if_pos ⟨isLogin, known⟩] at ignored
        cases ignored
  · intro condition
    refine ⟨fun command pushed => ?_, fun mismatch => ?_⟩
    · rcases id_of_pushed pushed with isInput | enters
      · rw [processJobPacket_playerInput isInput] at pushed
        cases held : buffer.data with
        | none => simp [held] at pushed
        | some table =>
            have tag : buffer.TagAgrees := by simpa [held, isInput] using condition
            have tagged : buffer.dataType = 6 := by
              simpa [Buffer.TagAgrees, unionMembers, isInput] using tag
            refine ⟨tag, table, rfl, ?_⟩
            rw [held] at pushed
            rw [tagged]
            simpa [memberCommand] using pushed
      · rw [processJobPacket_enterZone enters] at pushed
        cases held : buffer.data with
        | none => simp [held] at pushed
        | some table =>
            have tag : buffer.TagAgrees := by simpa [held, enters] using condition
            have tagged : buffer.dataType = 10 := by
              simpa [Buffer.TagAgrees, unionMembers, enters] using tag
            refine ⟨tag, table, rfl, ?_⟩
            rw [held] at pushed
            rw [tagged]
            simpa [memberCommand] using pushed
    · obtain ⟨harmless, unanswered⟩ := condition.resolve_left mismatch
      by_cases isInput : buffer.id = 10
      · have empty : buffer.data = none := by simpa [isInput] using harmless
        rw [processJobPacket_playerInput isInput, empty]
        rfl
      · by_cases enters : buffer.id = 20
        · have empty : buffer.data = none := by simpa [enters] using harmless
          rw [processJobPacket_enterZone enters, empty]
          rfl
        · rw [processJobPacket_of_mismatch mismatch isInput enters, if_neg unanswered]

/-- How the readers act on a `C_Chat` table: the table has the two fields `message` and
`command_id` (unset here), so a reader of `C_PlayerInput` finds neither of its own two and
returns their defaults, and the first field of `C_EnterZone` is the offset of the text. -/
def chatAccessors : Accessors CChat where
  login chat := { sessionTicket := chat.message }
  chat chat := chat
  playerInput _ := {}
  enterZone chat := { zoneId := if chat.message.isSome then 4 else 0 }

/-- A chat message under the id of `C_PlayerInput`. -/
theorem input_of_chat_table :
    ∃ buffer : Buffer CChat, buffer.dataType = 4 ∧ ¬ buffer.TagAgrees ∧
      processJobPacket 3 7 true (buffer.unifiedPacket chatAccessors) =
        some (.pushGameCommand
          { payload := .playerInput { playerId := 7, inputFlags := 0, sequenceNumber := 0 }
            senderSessionId := 3 }) ∧
      ¬ IdAndPayloadAgree chatAccessors 3 7 true buffer := by
  have pushed : processJobPacket 3 7 true
      (Buffer.unifiedPacket chatAccessors ⟨10, 4, some { message := some [104, 105] }⟩) =
        some (.pushGameCommand
          { payload := .playerInput { playerId := 7, inputFlags := 0, sequenceNumber := 0 }
            senderSessionId := 3 }) := by decide
  exact ⟨_, rfl, by decide, pushed, fun agree => absurd (agree.pushed _ pushed).1 (by decide)⟩

end CppMMO.Utils
