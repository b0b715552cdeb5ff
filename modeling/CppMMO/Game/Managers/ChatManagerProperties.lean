import CppMMO.Game.Managers.ChatManager

/-! What the chat envelope carries, and which messages are taken for one. -/

set_option autoImplicit false

namespace CppMMO.Game.Managers

open CppMMO.Lib CppMMO.Protocol

/-! ## The delimiter -/

theorem idxOf?_chatDelimiter {front : Bytes} (clean : chatDelimiter ∉ front) (rest : Bytes) :
    (front ++ chatDelimiter :: rest).idxOf? chatDelimiter = some front.length := by
  induction front with
  | nil => simp [List.idxOf?_cons]
  | cons first front ih =>
      have different : first ≠ chatDelimiter := fun same => clean (by simp [same])
      have cleanRest : chatDelimiter ∉ front := fun member => clean (by simp [member])
      simp [List.idxOf?_cons, different, ih cleanRest]

theorem chatPacket?_of_delimiter {front : Bytes} (clean : chatDelimiter ∉ front) (rest : Bytes) :
    chatPacket? (front ++ chatDelimiter :: rest) =
      (stoll front).toOption.map fun playerId => .chat playerId.toInt rest := by
  have before : (front ++ chatDelimiter :: rest).take front.length = front := by simp
  have behind : (front ++ chatDelimiter :: rest).drop (front.length + 1) = rest := by
    simp [List.drop_append]
  simp only [chatPacket?, idxOf?_chatDelimiter clean, before, behind]
  cases stoll front <;> rfl

theorem chatPacket?_of_not_mem {message : Bytes} (absent : chatDelimiter ∉ message) :
    chatPacket? message = none := by
  have notFound : message.idxOf? chatDelimiter = none := by
    simpa [List.idxOf?_eq_none_iff] using absent
  simp only [chatPacket?, notFound]

theorem chatDelimiter_not_mem_toDecimal (number : Int) : chatDelimiter ∉ toDecimal number := by
  have notDigit : ∀ magnitude, chatDelimiter ∉ Decimal.digits magnitude := fun magnitude member =>
    absurd (Decimal.isDigit_of_mem_digits member) (by decide)
  cases number with
  | ofNat magnitude => exact notDigit magnitude
  | negSucc magnitude =>
      intro member
      rcases List.mem_cons.mp member with minus | digit
      · exact absurd minus (by decide)
      · exact notDigit (magnitude + 1) digit

/-! ## Round trip -/

theorem chatPacket?_toDecimal (number : Int64) (chatMessage : Bytes) :
    chatPacket? (toDecimal number.toInt ++ chatDelimiter :: chatMessage) =
      some (.chat number.toInt chatMessage) := by
  rw [chatPacket?_of_delimiter (chatDelimiter_not_mem_toDecimal _), stoll_toDecimal]
  rfl

/-- Every session receives the sender's id as an `int64_t` and the message unchanged, and no two
senders or messages share an envelope. -/
theorem chat_round_trip :
    (∀ (playerId : PlayerId) (chatMessage : Bytes) (connectedSessions : List SessionId),
      handleRedisChatMessage connectedSessions (messageWithPlayer playerId chatMessage) =
        connectedSessions.map (·, .chat playerId.toInt64.toInt chatMessage)) ∧
    ∀ (playerId other : PlayerId) (chatMessage otherMessage : Bytes),
      messageWithPlayer playerId chatMessage = messageWithPlayer other otherMessage →
        playerId = other ∧ chatMessage = otherMessage := by
  refine ⟨fun playerId chatMessage connectedSessions => ?_, ?_⟩
  · rw [handleRedisChatMessage, messageWithPlayer, chatPacket?_toDecimal]
  · intro playerId other chatMessage otherMessage same
    have packets := congrArg chatPacket? same
    rw [messageWithPlayer, messageWithPlayer, chatPacket?_toDecimal, chatPacket?_toDecimal] at packets
    simp only [Option.some.injEq, ServerPacket.chat.injEq] at packets
    refine ⟨?_, packets.2⟩
    have signed : playerId.toInt64 = other.toInt64 := Int64.toInt.inj packets.1
    exact congrArg Int64.toUInt64 signed

/-- Player 0 and player `2 ^ 64 - 1`, whose id is printed as -1. -/
theorem chat_round_trip_of_extreme_ids :
    (handleRedisChatMessage [7] (messageWithPlayer 18446744073709551615 [124]) =
        [(7, .chat (-1) [124])]) ∧
      (0 : PlayerId) = 0 ∧ ([124] : Bytes) = [124] :=
  ⟨chat_round_trip.1 18446744073709551615 [124] [7], chat_round_trip.2 0 0 [124] [124] rfl⟩

/-- The server's step for a published message sends what the envelope decodes to. -/
theorem sent_handleRedisChatMessage (server : Server) (chat : ChatMessage) :
    (server.effect (.handleRedisChatMessage chat)).sent = server.sent ++
      handleRedisChatMessage server.connectedSessions
        (messageWithPlayer chat.playerId chat.message) := by
  rw [handleRedisChatMessage, messageWithPlayer, chatPacket?_toDecimal]
  rfl

/-! ## Grammar -/

/-- `player_id|message`, with the id as `std::to_string` prints it. -/
def DocumentedChat (message : Bytes) : Prop :=
  ∃ (playerId : Int64) (chatMessage : Bytes),
    message = toDecimal playerId.toInt ++ chatDelimiter :: chatMessage

/-- A message of the documented form is broadcast as an `S_Chat`, any other one is not sent on. -/
structure ObeysChatGrammar (message : Bytes) : Prop where
  broadcast : DocumentedChat message → ∃ playerId chatMessage, ∀ connectedSessions,
    handleRedisChatMessage connectedSessions message =
      connectedSessions.map (·, .chat playerId chatMessage)
  rejected : ¬ DocumentedChat message → ∀ connectedSessions,
    handleRedisChatMessage connectedSessions message = []

/-- The text before the first delimiter is determined by the message. -/
theorem front_eq_of_chatDelimiter {front other rest otherRest : Bytes}
    (clean : chatDelimiter ∉ front) (otherClean : chatDelimiter ∉ other)
    (same : front ++ chatDelimiter :: rest = other ++ chatDelimiter :: otherRest) :
    front = other := by
  have positions := congrArg (List.idxOf? chatDelimiter) same
  rw [idxOf?_chatDelimiter clean, idxOf?_chatDelimiter otherClean] at positions
  exact (List.append_inj same (Option.some.inj positions)).1

theorem documentedChat_iff {front : Bytes} (clean : chatDelimiter ∉ front) (rest : Bytes) :
    DocumentedChat (front ++ chatDelimiter :: rest) ↔
      (stoll front).isOk = true ∧ (Numeral.ofText front).Canonical := by
  constructor
  · intro documented
    obtain ⟨playerId, chatMessage, same⟩ := documented
    rw [front_eq_of_chatDelimiter clean (chatDelimiter_not_mem_toDecimal _) same, stoll_toDecimal]
    exact ⟨rfl, Numeral.canonical_toDecimal _⟩
  · intro condition
    obtain ⟨read, canonical⟩ := condition
    obtain ⟨nonempty, low, high⟩ := (stoll_isOk_iff front).mp read
    refine ⟨Int64.ofInt (Numeral.ofText front).value, rest, ?_⟩
    rw [Int64.toInt_ofInt_of_le low high, canonical.toDecimal_eq nonempty]

theorem exists_chatDelimiter_of_documentedChat {message : Bytes} (documented : DocumentedChat message) :
    chatDelimiter ∈ message := by
  obtain ⟨playerId, chatMessage, rfl⟩ := documented
  simp

theorem exists_chat_of_chatPacket? {message : Bytes} {packet : ServerPacket}
    (made : chatPacket? message = some packet) :
    ∃ playerId chatMessage, packet = .chat playerId chatMessage := by
  unfold chatPacket? at made
  split at made
  · cases made
  · split at made
    · cases made
    · cases made
      exact ⟨_, _, rfl⟩

/-- A message is broadcast exactly when it makes a packet. -/
theorem obeysChatGrammar_iff_chatPacket? (message : Bytes) :
    ObeysChatGrammar message ↔ (DocumentedChat message ↔ (chatPacket? message).isSome = true) := by
  cases made : chatPacket? message with
  | none =>
      have silent : ∀ connectedSessions, handleRedisChatMessage connectedSessions message = [] :=
        fun connectedSessions => by rw [handleRedisChatMessage, made]
      simp only [Option.isSome_none, Bool.false_eq_true, iff_false]
      constructor
      · intro obeys documented
        obtain ⟨playerId, chatMessage, sends⟩ := obeys.broadcast documented
        have toOne := sends [0]
        rw [silent] at toOne
        cases toOne
      · intro undocumented
        exact ⟨fun documented => absurd documented undocumented, fun _ => silent⟩
  | some packet =>
      obtain ⟨playerId, chatMessage, rfl⟩ := exists_chat_of_chatPacket? made
      have broadcasts : ∀ connectedSessions, handleRedisChatMessage connectedSessions message =
          connectedSessions.map (·, .chat playerId chatMessage) :=
        fun connectedSessions => by rw [handleRedisChatMessage, made]
      simp only [Option.isSome_some, iff_true]
      constructor
      · intro obeys
        by_contra undocumented
        have toOne := obeys.rejected undocumented [0]
        rw [broadcasts] at toOne
        cases toOne
      · intro documented
        exact ⟨fun _ => ⟨playerId, chatMessage, broadcasts⟩,
          fun undocumented => absurd documented undocumented⟩

/-- Nothing that `std::stoll` passes over: the text before the first delimiter holds no number, one
out of range, or one in canonical form. -/
def PlainChat (message : Bytes) : Prop :=
  ∀ front rest, message = front ++ chatDelimiter :: rest → chatDelimiter ∉ front →
    (Numeral.ofText front).digits = [] ∨ ¬ (Numeral.ofText front).InRange ∨
      (Numeral.ofText front).Canonical

theorem plainChat_iff {front : Bytes} (clean : chatDelimiter ∉ front) (rest : Bytes) :
    PlainChat (front ++ chatDelimiter :: rest) ↔
      ((stoll front).isOk = true → (Numeral.ofText front).Canonical) := by
  constructor
  · intro plain read
    obtain ⟨nonempty, fits⟩ := (stoll_isOk_iff front).mp read
    rcases plain front rest rfl clean with empty | outside | canonical
    · exact absurd empty nonempty
    · exact absurd fits outside
    · exact canonical
  · intro canonical other otherRest same otherClean
    rw [← front_eq_of_chatDelimiter clean otherClean same]
    by_cases empty : (Numeral.ofText front).digits = []
    · exact .inl empty
    · by_cases fits : (Numeral.ofText front).InRange
      · exact .inr (.inr (canonical ((stoll_isOk_iff front).mpr ⟨empty, fits⟩)))
      · exact .inr (.inl fits)

/-- `std::stoll` reads more than `std::to_string` writes, and where it stopped is not looked at. -/
theorem obeysChatGrammar_iff (message : Bytes) : ObeysChatGrammar message ↔ PlainChat message := by
  rw [obeysChatGrammar_iff_chatPacket?]
  by_cases delimited : chatDelimiter ∈ message
  · obtain ⟨front, rest, rfl, clean⟩ := List.eq_append_cons_of_mem delimited
    have isSome : (chatPacket? (front ++ chatDelimiter :: rest)).isSome = (stoll front).isOk := by
      rw [chatPacket?_of_delimiter clean]
      cases stoll front <;> rfl
    rw [isSome, documentedChat_iff clean, plainChat_iff clean]
    exact ⟨fun agree read => (agree.mpr read).2, fun canonical =>
      ⟨fun documented => documented.1, fun read => ⟨read, canonical read⟩⟩⟩
  · have undocumented : ¬ DocumentedChat message := fun documented =>
      delimited (exists_chatDelimiter_of_documentedChat documented)
    have plain : PlainChat message := by
      intro front rest same
      rw [same] at delimited
      simp at delimited
    simp [chatPacket?_of_not_mem delimited, undocumented, plain]

/-- `12abc|hi` is taken for a message of player 12. -/
theorem chatGrammar_of_trailing_characters :
    handleRedisChatMessage [7] [49, 50, 97, 98, 99, 124, 104, 105] =
        [(7, .chat 12 [104, 105])] ∧
      ¬ DocumentedChat [49, 50, 97, 98, 99, 124, 104, 105] ∧
      ¬ ObeysChatGrammar [49, 50, 97, 98, 99, 124, 104, 105] := by
  have sent : handleRedisChatMessage [7] [49, 50, 97, 98, 99, 124, 104, 105] =
      [(7, .chat 12 [104, 105])] := by decide +kernel
  have undocumented : ¬ DocumentedChat ([49, 50, 97, 98, 99] ++ chatDelimiter :: [104, 105]) := by
    rw [documentedChat_iff (by decide)]
    intro documented
    exact absurd documented.2.rest_eq (by decide)
  refine ⟨sent, undocumented, fun obeys => ?_⟩
  have silent := obeys.rejected undocumented [7]
  rw [sent] at silent
  cases silent

end CppMMO.Game.Managers
