import CppMMO.Network.Connection
import CppMMO.Network.FramingProperties

/-! What the peer of a session receives of the packets that are sent to it. -/

set_option autoImplicit false

namespace CppMMO.Network

open CppMMO.Lib CppMMO.Protocol

variable {Producer : Type}

/-- What the write loop says of the packets that were taken out of the queue and not written, `rest`,
and of the front of a packet that went out without its end, `torn`. -/
def WriteLoop.Holds (isOpen : Bool) (rest : List (Producer × Bytes)) (torn : Bytes) :
    WriteLoop → Prop
  | .checking | .dequeuing | .waiting => torn = [] ∧ (isOpen = true → rest = [])
  | .sending packetToSend | .writing packetToSend false =>
      torn = [] ∧ (isOpen = true → ∃ producer, rest = [(producer, packetToSend)])
  | .writing packetToSend true =>
      torn = [] ∧ ∃ producer dropped, rest = (producer, packetToSend) :: dropped ∧
        (isOpen = true → dropped = [])
  | .disconnecting _ | .ended =>
      (torn = [] ∨ ∃ producer packetToSend dropped,
        rest = (producer, packetToSend) :: dropped ∧ torn <+: packetToSend) ∧
        (isOpen = true → rest.length ≤ 1)

/-- Once the socket is closed, more may be taken out of the queue. -/
theorem WriteLoop.Holds.close {loop : WriteLoop} {isOpen : Bool} {rest : List (Producer × Bytes)}
    {torn : Bytes} (holds : loop.Holds isOpen rest torn) (dropped : List (Producer × Bytes)) :
    loop.Holds false (rest ++ dropped) torn := by
  cases loop with
  | checking | dequeuing | waiting | sending => exact ⟨holds.1, fun isOpen => by cases isOpen⟩
  | writing packetToSend wasOpen =>
      cases wasOpen with
      | false => exact ⟨holds.1, fun isOpen => by cases isOpen⟩
      | true =>
          obtain ⟨whole, producer, others, rfl, -⟩ := holds
          exact ⟨whole, producer, others ++ dropped, rfl, fun isOpen => by cases isOpen⟩
  | disconnecting | ended =>
      refine ⟨holds.1.imp_right ?_, fun isOpen => by cases isOpen⟩
      rintro ⟨producer, packetToSend, others, rfl, front⟩
      exact ⟨producer, packetToSend, others ++ dropped, rfl, front⟩

/-- A loop may stop with a packet in hand. -/
theorem WriteLoop.Holds.stop {loop : WriteLoop} {isOpen : Bool} {rest : List (Producer × Bytes)}
    {torn : Bytes} (holds : loop.Holds isOpen rest torn) (phase : DisconnectPhase) :
    (WriteLoop.disconnecting phase).Holds isOpen rest torn := by
  cases loop with
  | checking | dequeuing | waiting =>
      refine ⟨.inl holds.1, fun stillOpen => ?_⟩
      simp [holds.2 stillOpen]
  | sending packetToSend =>
      refine ⟨.inl holds.1, fun stillOpen => ?_⟩
      obtain ⟨producer, rfl⟩ := holds.2 stillOpen
      exact Nat.le_refl 1
  | writing packetToSend wasOpen =>
      cases wasOpen with
      | false =>
          refine ⟨.inl holds.1, fun stillOpen => ?_⟩
          obtain ⟨producer, rfl⟩ := holds.2 stillOpen
          exact Nat.le_refl 1
      | true =>
          obtain ⟨whole, producer, others, rfl, empty⟩ := holds
          refine ⟨.inl whole, fun stillOpen => ?_⟩
          rw [empty stillOpen]
          exact Nat.le_refl 1
  | disconnecting | ended => exact holds

namespace Connection

/-- `Disconnect` drops a packet. -/
def Label.drains : Label Producer → Bool
  | .drain _ _ => true
  | _ => false

theorem readLoop_of_phase? {connection : Connection Producer} {phase : DisconnectPhase}
    (under : connection.phase? .read = some phase) :
    ∃ inTry, connection.readLoop = .disconnecting phase inTry := by
  simp only [phase?] at under
  split at under
  · next inTry disconnecting => exact ⟨inTry, by rw [disconnecting, Option.some.inj under]⟩
  · cases under

theorem writeLoop_of_phase? {connection : Connection Producer} {phase : DisconnectPhase}
    (under : connection.phase? .write = some phase) :
    connection.writeLoop = .disconnecting phase := by
  simp only [phase?] at under
  split at under
  · next disconnecting => rw [disconnecting, Option.some.inj under]
  · cases under

/-- `Disconnect` has closed the socket before it drains the queue. -/
def ClosesFirst (connection : Connection Producer) : Prop :=
  ∀ loop phase, connection.phase? loop = some phase → phase ≠ .closing → connection.isOpen = false

/-- A step that opens nothing and begins nothing but a call of `Disconnect`. -/
theorem ClosesFirst.frame {before after : Connection Producer} (closes : before.ClosesFirst)
    (isOpen : after.isOpen = before.isOpen)
    (phases : ∀ loop, after.phase? loop = before.phase? loop ∨ after.phase? loop = none ∨
      after.phase? loop = some .closing) : after.ClosesFirst := by
  intro loop phase under later
  rw [isOpen]
  rcases phases loop with same | none | closing
  · exact closes loop phase (same ▸ under) later
  · rw [none] at under
    cases under
  · rw [closing] at under
    cases under
    exact absurd rfl later

theorem packet?_eq_none {label : Label Producer} {loop : SessionLoop}
    (turn : label.loop? = some loop) : label.packet? = none := by
  cases label with
  | send | sendBatch => cases turn
  | _ => rfl

/-- Bodies shorter than 2^32 bytes, spans of a batch shorter than 2^63. -/
def Label.Addressable : Label Producer → Prop
  | .send _ data => data.length < 2 ^ 32
  | .sendBatch _ packets => ∀ packet ∈ packets, packet.length < 2 ^ 63
  | _ => True

theorem bodies_of_packet? {label : Label Producer} (addressable : label.Addressable)
    {producer : Producer} {packet : Bytes} (pushes : label.packet? = some (producer, packet)) :
    ∃ bodies : List Bytes, label.bodies = bodies.map (producer, ·) ∧
      packet = bodies.flatMap (frame 4) ∧ ∀ body ∈ bodies, body.length < 2 ^ 32 := by
  cases label with
  | send owner data =>
      cases pushes
      have short : data.length < 2 ^ 32 := addressable
      exact ⟨[data], rfl, by simp [sendPacket_eq_frame short], by simpa using short⟩
  | sendBatch owner packets =>
      have short : ∀ packet ∈ packets, packet.length < 2 ^ 63 := addressable
      simp only [Label.packet?, batchPacket?_eq short] at pushes
      split at pushes
      · next accepted =>
          cases pushes
          have fits : ∀ body ∈ packets, body.length < 2 ^ 32 := by
            intro body member
            have size := (length_le_wireSize member).trans accepted.2
            have limit : maxBatchBytes = 67108864 := rfl
            omega
          refine ⟨packets, ?_, List.flatMap_congr fun body member => ?_, fits⟩
          · simp [Label.bodies, batchPacket?_eq short, accepted]
          · exact sendPacket_eq_frame (fits body member)
      · cases pushes
  | _ => cases pushes

theorem exists_frames {labels : List (Label Producer)}
    (addressable : ∀ label ∈ labels, label.Addressable) (order : List (Producer × Bytes))
    (pushed : ∀ packet ∈ order, packet ∈ labels.filterMap Label.packet?) :
    ∃ bodies : List Bytes, order.flatMap (·.2) = bodies.flatMap (frame 4) := by
  induction order with
  | nil => exact ⟨[], rfl⟩
  | cons packet rest ih =>
      obtain ⟨label, member, pushes⟩ := List.mem_filterMap.mp (pushed packet List.mem_cons_self)
      obtain ⟨first, -, first_eq, -⟩ := bodies_of_packet? (addressable label member) pushes
      obtain ⟨others, others_eq⟩ := ih fun other isOther =>
        pushed other (List.mem_cons_of_mem _ isOther)
      exact ⟨first ++ others, by rw [List.flatMap_cons, first_eq, others_eq, List.flatMap_append]⟩

variable [DecidableEq Producer]

/-- Everything a step can do, under the condition for it. -/
inductive Steps (before : Connection Producer) : Label Producer → Connection Producer → Prop where
  | send (producer : Producer) (data : Bytes) : before.Steps (.send producer data)
      { before with writeQueue := before.writeQueue.enqueue producer (sendPacket data) }
  | dropBatch (producer : Producer) {packets : List Bytes}
      (dropped : batchPacket? packets = none) : before.Steps (.sendBatch producer packets) before
  | sendBatch (producer : Producer) {packets : List Bytes} {batchPacket : Bytes}
      (accepted : batchPacket? packets = some batchPacket) :
      before.Steps (.sendBatch producer packets)
        { before with writeQueue := before.writeQueue.enqueue producer batchPacket }
  | startRead (starting : before.readLoop = .starting) :
      before.Steps .startRead { before with readLoop := .reading before.isOpen }
  | readDone (reading : before.readLoop = .reading true) :
      before.Steps .readDone { before with readLoop := .starting }
  | readFails (throws : Bool) {isOpen : Bool} (reading : before.readLoop = .reading isOpen) :
      before.Steps (.readFails throws)
        { before with readLoop := .disconnecting .closing !throws }
  | checkOpen (checking : before.writeLoop = .checking) : before.Steps .checkOpen
      { before with writeLoop := if before.isOpen then .dequeuing else .ended }
  | dequeue (dequeuing : before.writeLoop = .dequeuing) {producer : Producer}
      {packetToSend : Bytes} {writeQueue : MultiQueue Producer Bytes}
      (dequeued : before.writeQueue.dequeue? producer = some (packetToSend, writeQueue)) :
      before.Steps (.dequeue producer)
        { before with writeQueue, writeLoop := .sending packetToSend }
  | findEmpty (dequeuing : before.writeLoop = .dequeuing) :
      before.Steps .findEmpty { before with writeLoop := .waiting }
  | startWrite {packetToSend : Bytes} (sending : before.writeLoop = .sending packetToSend) :
      before.Steps .startWrite { before with writeLoop := .writing packetToSend before.isOpen }
  | writeDone {packetToSend : Bytes} (writing : before.writeLoop = .writing packetToSend true) :
      before.Steps .writeDone
        { before with writeLoop := .checking, wire := before.wire ++ packetToSend }
  | writeFails (written : Nat) {packetToSend : Bytes} {isOpen : Bool}
      (writing : before.writeLoop = .writing packetToSend isOpen) :
      before.Steps (.writeFails written)
        { before with
          writeLoop := .disconnecting .closing
          wire := before.wire ++ if isOpen then packetToSend.take written else [] }
  | waitDone (waiting : before.writeLoop = .waiting) :
      before.Steps .waitDone { before with writeLoop := .checking }
  | waitFails (waiting : before.writeLoop = .waiting) :
      before.Steps .waitFails { before with writeLoop := .disconnecting .closing }
  | close {loop : SessionLoop} (closing : before.phase? loop = some .closing) :
      before.Steps (.close loop) { before.setPhase .draining loop with isOpen := false }
  | drain {loop : SessionLoop} (draining : before.phase? loop = some .draining)
      {producer : Producer} {packet : Bytes} {writeQueue : MultiQueue Producer Bytes}
      (dequeued : before.writeQueue.dequeue? producer = some (packet, writeQueue)) :
      before.Steps (.drain loop producer) { before with writeQueue }
  | drained {loop : SessionLoop} (draining : before.phase? loop = some .draining) :
      before.Steps (.drained loop) (before.setPhase .callingBack loop)
  | callBack {loop : SessionLoop} (throws : Bool)
      (callingBack : before.phase? loop = some .callingBack) :
      before.Steps (.callBack loop throws)
        { before.afterCallback throws loop with callbacks := before.callbacks + 1 }

theorem step_cases {before after : Connection Producer} {label : Label Producer}
    (taken : before.step? label = some after) : before.Steps label after := by
  cases label with
  | send producer data =>
      cases taken
      exact .send producer data
  | sendBatch producer packets =>
      simp only [step?] at taken
      split at taken
      · next dropped =>
          cases taken
          exact .dropBatch producer dropped
      · next accepted =>
          cases taken
          exact .sendBatch producer accepted
  | startRead | readDone | readFails | checkOpen | findEmpty | startWrite | writeDone | writeFails
  | waitDone | waitFails | close | drained | callBack =>
      simp only [step?] at taken
      split at taken
      · next condition =>
          cases taken
          constructor
          exact condition
      · cases taken
  | dequeue producer | drain loop producer =>
      simp only [step?] at taken
      split at taken
      · next condition =>
          obtain ⟨⟨packet, writeQueue⟩, dequeued, rfl⟩ := Option.map_eq_some_iff.mp taken
          constructor
          · exact condition
          · exact dequeued
      · cases taken

theorem ClosesFirst.step {before after : Connection Producer} (closes : before.ClosesFirst)
    {label : Label Producer} (taken : before.step? label = some after) : after.ClosesFirst := by
  cases step_cases taken with
  | send | dropBatch | sendBatch | drain => exact closes
  | startRead | readDone | readFails | dequeue | findEmpty | startWrite | writeDone | writeFails
  | waitDone | waitFails =>
      refine closes.frame rfl fun loop => ?_
      cases loop <;> simp [phase?]
  | checkOpen =>
      refine closes.frame rfl fun loop => ?_
      cases loop with
      | read => exact .inl rfl
      | write =>
          refine .inr (.inl ?_)
          cases isOpen : before.isOpen <;> simp [phase?]
  | close => exact fun _ _ _ _ => rfl
  | @drained loop draining =>
      have isClosed := closes loop .draining draining (by decide)
      cases loop <;> exact fun _ _ _ _ => isClosed
  | @callBack loop throws callingBack =>
      have isClosed := closes loop .callingBack callingBack (by decide)
      cases loop <;> exact fun _ _ _ _ => isClosed

/-- Of the packets that were pushed, `order` went out whole. -/
structure Tracks (connection : Connection Producer)
    (pushed order rest : List (Producer × Bytes)) (torn : Bytes) : Prop where
  merges : connection.writeQueue.Merges pushed (order ++ rest)
  wire_eq : connection.wire = order.flatMap (·.2) ++ torn
  holds : connection.writeLoop.Holds connection.isOpen rest torn

/-- The packets that leave the queue go to the back of those taken out. -/
theorem Tracks.dequeue {before after : Connection Producer}
    {pushed order rest : List (Producer × Bytes)} {torn : Bytes}
    (tracks : before.Tracks pushed order rest torn) {producer : Producer} {packetToSend : Bytes}
    {writeQueue : MultiQueue Producer Bytes}
    (dequeued : before.writeQueue.dequeue? producer = some (packetToSend, writeQueue))
    (queue : after.writeQueue = writeQueue) (wire : after.wire = before.wire)
    (holds : after.writeLoop.Holds after.isOpen (rest ++ [(producer, packetToSend)]) torn) :
    after.Tracks pushed order (rest ++ [(producer, packetToSend)]) torn := by
  obtain ⟨others, front, rfl⟩ := (MultiQueue.dequeue?_eq_some_iff _ _ _ _).mp dequeued
  refine ⟨?_, wire ▸ tracks.wire_eq, holds⟩
  rw [queue, ← List.append_assoc]
  exact tracks.merges.dequeue front

/-- What the loops do without the queue and the wire. -/
theorem Tracks.keep {before after : Connection Producer}
    {pushed order rest : List (Producer × Bytes)} {torn : Bytes}
    (tracks : before.Tracks pushed order rest torn) (queue : after.writeQueue = before.writeQueue)
    (wire : after.wire = before.wire)
    (holds : after.writeLoop.Holds after.isOpen rest torn) :
    after.Tracks pushed order rest torn :=
  ⟨queue ▸ tracks.merges, wire ▸ tracks.wire_eq, holds⟩

theorem Tracks.push {before after : Connection Producer}
    {pushed order rest : List (Producer × Bytes)} {torn : Bytes}
    (tracks : before.Tracks pushed order rest torn) {label : Label Producer}
    (call : label.loop? = none) (taken : before.step? label = some after) :
    after.Tracks (pushed ++ label.packet?.toList) order rest torn := by
  obtain ⟨merges, wire_eq, holds⟩ := tracks
  cases step_cases taken with
  | send producer data =>
      exact ⟨merges.enqueue producer (sendPacket data), wire_eq, holds⟩
  | dropBatch producer dropped =>
      simp only [Label.packet?, dropped, Option.map_none, Option.toList_none, List.append_nil]
      exact ⟨merges, wire_eq, holds⟩
  | @sendBatch producer packets batchPacket accepted =>
      simp only [Label.packet?, accepted, Option.map_some, Option.toList_some]
      exact ⟨merges.enqueue producer batchPacket, wire_eq, holds⟩
  | _ => cases call

theorem Tracks.turn {before after : Connection Producer}
    {pushed order rest : List (Producer × Bytes)} {torn : Bytes}
    (tracks : before.Tracks pushed order rest torn) (closes : before.ClosesFirst)
    {label : Label Producer} {loop : SessionLoop} (turn : label.loop? = some loop)
    (taken : before.step? label = some after) :
    ∃ moreOrder moreRest moreTorn, after.Tracks pushed moreOrder moreRest moreTorn ∧
      (order ++ rest).length + label.drains.toNat ≤ (moreOrder ++ moreRest).length := by
  obtain ⟨merges, wire_eq, holds⟩ := id tracks
  cases step_cases taken with
  | send | dropBatch | sendBatch => cases turn
  | startRead | readDone | readFails =>
      exact ⟨order, rest, torn, tracks.keep rfl rfl holds, Nat.le_refl _⟩
  | checkOpen checking =>
      rw [checking] at holds
      refine ⟨order, rest, torn, ⟨merges, wire_eq, ?_⟩, Nat.le_refl _⟩
      cases isOpen : before.isOpen with
      | true => exact ⟨holds.1, fun _ => holds.2 isOpen⟩
      | false => exact ⟨.inl holds.1, fun isOpen => by cases isOpen⟩
  | @dequeue dequeuing producer packetToSend writeQueue dequeued =>
      rw [dequeuing] at holds
      refine ⟨order, _, torn, tracks.dequeue dequeued rfl rfl ⟨holds.1, fun isOpen => ?_⟩, ?_⟩
      · rw [holds.2 isOpen]
        exact ⟨producer, rfl⟩
      · simp [Label.drains]
  | findEmpty was | waitDone was =>
      rw [was] at holds
      exact ⟨order, rest, torn, ⟨merges, wire_eq, holds⟩, Nat.le_refl _⟩
  | startWrite sending =>
      rw [sending] at holds
      refine ⟨order, rest, torn, ⟨merges, wire_eq, ?_⟩, Nat.le_refl _⟩
      cases isOpen : before.isOpen with
      | false => exact ⟨holds.1, fun isOpen => by cases isOpen⟩
      | true =>
          obtain ⟨producer, same⟩ := holds.2 isOpen
          exact ⟨holds.1, producer, [], same, fun _ => rfl⟩
  | @writeDone packetToSend writing =>
      rw [writing] at holds
      obtain ⟨rfl, producer, dropped, rfl, none⟩ := holds
      refine ⟨order ++ [(producer, packetToSend)], dropped, [], ⟨?_, ?_, rfl, none⟩, ?_⟩
      · simpa using merges
      · simp [wire_eq]
      · simp [Label.drains]
  | @writeFails written packetToSend wasOpen writing =>
      rw [writing] at holds
      cases wasOpen with
      | false =>
          exact ⟨order, rest, torn, ⟨merges, by simpa using wire_eq, holds.stop .closing⟩,
            Nat.le_refl _⟩
      | true =>
          have stopped := holds.stop .closing
          obtain ⟨rfl, producer, dropped, rfl, -⟩ := holds
          refine ⟨order, _, packetToSend.take written, ⟨merges, by simp [wire_eq], ?_, stopped.2⟩,
            Nat.le_refl _⟩
          exact .inr ⟨producer, packetToSend, dropped, rfl, List.take_prefix _ _⟩
  | waitFails => exact ⟨order, rest, torn, ⟨merges, wire_eq, holds.stop .closing⟩, Nat.le_refl _⟩
  | @close loop closing =>
      have shut := holds.close []
      rw [List.append_nil] at shut
      refine ⟨order, rest, torn, ?_, Nat.le_refl _⟩
      cases loop with
      | read => exact tracks.keep rfl rfl shut
      | write =>
          refine tracks.keep rfl rfl ?_
          rw [writeLoop_of_phase? closing] at shut
          exact shut
  | @drain loop draining producer packetToSend writeQueue dequeued =>
      refine ⟨order, _, torn, tracks.dequeue dequeued rfl rfl ?_, ?_⟩
      · rw [closes loop .draining draining (by decide)]
        exact holds.close _
      · simp [Label.drains, Nat.add_assoc]
  | @drained loop phase | @callBack loop throws phase =>
      refine ⟨order, rest, torn, ?_, Nat.le_refl _⟩
      cases loop with
      | read => exact tracks.keep rfl rfl holds
      | write =>
          refine tracks.keep rfl rfl ?_
          rw [writeLoop_of_phase? phase] at holds
          exact holds

/-- What the steps so far have made of the packets. -/
def Tracked (past : List (Label Producer)) (connection : Connection Producer) : Prop :=
  connection.ClosesFirst ∧ ∃ order rest torn,
    connection.Tracks (past.filterMap Label.packet?) order rest torn ∧
      past.countP Label.drains ≤ (order ++ rest).length

theorem Tracked.of_run {labels : List (Label Producer)} {finish : Connection Producer}
    (run : Runs {} labels finish) : Tracked labels finish := by
  have initially : Tracked [] ({} : Connection Producer) := by
    refine ⟨?_, [], [], [], ⟨.empty, rfl, rfl, fun _ => rfl⟩, Nat.le_refl 0⟩
    intro loop phase under
    cases loop <;> cases under
  refine run.preserves_history Tracked ?_ initially
  rintro past before label after ⟨closes, order, rest, torn, tracks, drains⟩ taken
  refine ⟨closes.step taken, ?_⟩
  have snoc : (past ++ [label]).filterMap Label.packet? =
      past.filterMap Label.packet? ++ label.packet?.toList := by
    cases pushes : label.packet? <;> simp [pushes]
  rw [snoc, List.countP_append, List.countP_singleton]
  cases turn : label.loop? with
  | none =>
      have silent : label.drains = false := by
        cases label <;> first | rfl | cases turn
      refine ⟨order, rest, torn, tracks.push turn taken, ?_⟩
      simpa [silent] using drains
  | some loop =>
      obtain ⟨order, rest, torn, tracks, more⟩ := tracks.turn closes turn taken
      rw [packet?_eq_none turn, Option.toList_none, List.append_nil]
      refine ⟨order, rest, torn, tracks, ?_⟩
      cases draining : label.drains <;> simp only [draining, Bool.toNat_true, Bool.toNat_false] at more
      · simpa using drains.trans more
      · simpa using (Nat.succ_le_succ drains).trans more

/-- The peer got the packets `order` and then `torn`. -/
structure Receives (labels : List (Label Producer)) (finish : Connection Producer)
    (order : List (Producer × Bytes)) (torn : Bytes) : Prop where
  wire_eq : finish.wire = order.flatMap (·.2) ++ torn
  /-- Of each thread it got a front of what was sent: nothing left out, moved or repeated. -/
  inOrder : ∀ producer, MultiQueue.ofProducer producer order <+:
    MultiQueue.ofProducer producer (labels.filterMap Label.packet?)
  /-- A packet without its end is the next one of its thread, and the loop writes no more. -/
  tornIsLast : torn ≠ [] → ((∃ phase, finish.writeLoop = .disconnecting phase) ∨
      finish.writeLoop = .ended) ∧
    ∃ producer packet, torn <+: packet ∧ MultiQueue.ofProducer producer order ++ [packet] <+:
      MultiQueue.ofProducer producer (labels.filterMap Label.packet?)
  /-- While the socket is open all but one of the other packets wait in the queue. -/
  keeps : finish.isOpen = true → ∃ inHand, inHand.length ≤ 1 ∧
    finish.writeQueue.Merges (labels.filterMap Label.packet?) (order ++ inHand)
  framed : (∀ label ∈ labels, label.Addressable) →
    ∃ bodies : List Bytes, order.flatMap (·.2) = bodies.flatMap (frame 4)

/-- Whoever sends and whenever either loop fails, the peer gets a front of what each thread
sent. -/
theorem receives {labels : List (Label Producer)} {finish : Connection Producer}
    (run : Runs {} labels finish) : ∃ order torn, Receives labels finish order torn := by
  obtain ⟨-, order, rest, torn, ⟨merges, wire_eq, holds⟩, -⟩ := Tracked.of_run run
  have pushed_eq : ∀ producer, MultiQueue.ofProducer producer (labels.filterMap Label.packet?) =
      MultiQueue.ofProducer producer order ++
        (MultiQueue.ofProducer producer rest ++ finish.writeQueue producer) := by
    intro producer
    rw [merges producer, MultiQueue.ofProducer_append, List.append_assoc]
  refine ⟨order, torn, wire_eq, ?_, ?_, ?_, ?_⟩
  · intro producer
    rw [pushed_eq]
    exact List.prefix_append _ _
  · intro notEmpty
    have stopped : ((∃ phase, finish.writeLoop = .disconnecting phase) ∨
        finish.writeLoop = .ended) ∧ ∃ producer packetToSend dropped,
          rest = (producer, packetToSend) :: dropped ∧ torn <+: packetToSend := by
      cases loop : finish.writeLoop with
      | checking | dequeuing | waiting | sending =>
          rw [loop] at holds
          exact absurd holds.1 notEmpty
      | writing packetToSend wasOpen =>
          rw [loop] at holds
          cases wasOpen <;> exact absurd holds.1 notEmpty
      | disconnecting phase =>
          rw [loop] at holds
          exact ⟨.inl ⟨phase, rfl⟩, holds.1.resolve_left notEmpty⟩
      | ended =>
          rw [loop] at holds
          exact ⟨.inr rfl, holds.1.resolve_left notEmpty⟩
    obtain ⟨stops, producer, packetToSend, dropped, rfl, front⟩ := stopped
    refine ⟨stops, producer, packetToSend, front, ?_⟩
    rw [pushed_eq]
    refine (List.prefix_append_right_inj _).mpr ?_
    simp [MultiQueue.ofProducer]
  · intro isOpen
    refine ⟨rest, ?_, merges⟩
    exact (holds.stop .closing).2 isOpen
  · intro addressable
    exact exists_frames addressable order fun packet member =>
      merges.mem_pushed (List.mem_append_left _ member)

/-- A batch goes out after a packet that was sent before it, and a third packet is cut off. -/
def cutOff : List (Label Nat) :=
  [.send 0 [1], .checkOpen, .dequeue 0, .startWrite, .sendBatch 1 [[2], [3, 4]], .writeDone,
    .checkOpen, .send 0 [5], .dequeue 1, .startWrite, .startRead, .writeDone, .checkOpen,
    .dequeue 0, .startWrite, .send 1 [6], .readFails false, .close .read, .writeFails 4,
    .drain .read 1, .drained .read, .callBack .read true]

theorem receives_of_cutOff :
    ∃ (finish : Connection Nat) (order : List (Nat × Bytes)) (torn : Bytes),
      Runs {} cutOff finish ∧ Receives cutOff finish order torn ∧
      cut 4 finish.wire = ([[1], [2], [3, 4]], [1, 0, 0, 0]) := by
  obtain ⟨_, finish, created, run, wire⟩ := exists_run_of_execute step?
    (some ({} : Connection Nat)) cutOff
    (fun finish : Connection Nat => cut 4 finish.wire = ([[1], [2], [3, 4]], [1, 0, 0, 0]))
    (by decide +kernel)
  cases created
  obtain ⟨order, torn, received⟩ := receives run
  exact ⟨finish, order, torn, run, received, wire⟩

end Connection

end CppMMO.Network
