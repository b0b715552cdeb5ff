import CppMMO.Game.Managers.TickProperties
import CppMMO.Network.ConnectionProperties

/-! What a client reads off its connection, against what the game loop sent to its session. -/

set_option autoImplicit false

namespace CppMMO.Network.Connection

open CppMMO.Lib CppMMO.Protocol

variable {Producer : Type}

/-! ## Frames on the wire -/

theorem bodies_eq_nil {label : Label Producer} (silent : label.packet? = none) :
    label.bodies = [] := by
  cases label with
  | send producer data => cases silent
  | sendBatch producer packets =>
      have dropped : batchPacket? packets = none := Option.map_eq_none_iff.mp silent
      simp [Label.bodies, dropped]
  | _ => rfl

/-- The bodies of the frames that a packet of the write queue consists of. -/
def unpack (packet : Bytes) : List Bytes := (cut 4 packet).1

theorem unpack_frames {bodies : List Bytes} (fits : ∀ body ∈ bodies, body.length < 2 ^ 32) :
    unpack (bodies.flatMap (frame 4)) = bodies := by
  rw [unpack, cut_flatMap_frame (by decide) fits]

theorem flatMap_bodies {labels : List (Label Producer)}
    (addressable : ∀ label ∈ labels, label.Addressable) :
    labels.flatMap Label.bodies =
      (labels.filterMap Label.packet?).flatMap fun item => (unpack item.2).map (item.1, ·) := by
  induction labels with
  | nil => rfl
  | cons label labels ih =>
      have rest := ih fun other member => addressable other (List.mem_cons_of_mem label member)
      rw [List.flatMap_cons, rest]
      cases pushes : label.packet? with
      | none => rw [List.filterMap_cons_none pushes, bodies_eq_nil pushes, List.nil_append]
      | some item =>
          obtain ⟨producer, packet⟩ := item
          obtain ⟨bodies, bodies_eq, rfl, fits⟩ :=
            bodies_of_packet? (addressable label List.mem_cons_self) pushes
          rw [List.filterMap_cons_some pushes, List.flatMap_cons, bodies_eq]
          dsimp only
          rw [unpack_frames fits]

/-- The packet is a sequence of frames and nothing else. -/
structure WholeFrames (packet : Bytes) : Prop where
  packet_eq : packet = (unpack packet).flatMap (frame 4)
  fits : ∀ body ∈ unpack packet, body.length < 2 ^ 32

theorem wholeFrames_of_mem {labels : List (Label Producer)}
    (addressable : ∀ label ∈ labels, label.Addressable) {item : Producer × Bytes}
    (pushed : item ∈ labels.filterMap Label.packet?) : WholeFrames item.2 := by
  obtain ⟨label, member, pushes⟩ := List.mem_filterMap.mp pushed
  obtain ⟨producer, packet⟩ := item
  obtain ⟨bodies, -, rfl, fits⟩ := bodies_of_packet? (addressable label member) pushes
  have same := unpack_frames fits
  refine ⟨?_, same.symm ▸ fits⟩
  dsimp only
  rw [same]

theorem unpack_append {order : List (Producer × Bytes)}
    (whole : ∀ item ∈ order, WholeFrames item.2) (torn : Bytes) :
    unpack (order.flatMap (·.2) ++ torn) =
      (order.flatMap fun item => unpack item.2) ++ unpack torn := by
  have order_eq : order.flatMap (·.2) =
      (order.flatMap fun item => unpack item.2).flatMap (frame 4) := by
    rw [List.flatMap_assoc]
    exact List.flatMap_congr fun item member => (whole item member).packet_eq
  have fits : ∀ body ∈ order.flatMap fun item => unpack item.2, body.length < 2 ^ 32 := by
    intro body member
    obtain ⟨item, ordered, isBody⟩ := List.mem_flatMap.mp member
    exact (whole item ordered).fits body isBody
  rw [order_eq, unpack, cut_flatMap_frame_append (Nat.succ_pos 3) fits]
  rfl

variable [DecidableEq Producer]

/-- Of a packet that is cut off the client reads the frames that are whole. -/
theorem exists_tail {rest : List (Producer × Bytes)} {torn : Bytes}
    (whole : ∀ item ∈ rest, WholeFrames item.2)
    (isCut : torn = [] ∨ ∃ producer packetToSend dropped,
      rest = (producer, packetToSend) :: dropped ∧ torn <+: packetToSend) :
    ∃ tail : List (Producer × Bytes), unpack torn = tail.map (·.2) ∧
      ∀ producer, MultiQueue.ofProducer producer tail <+:
        (MultiQueue.ofProducer producer rest).flatMap unpack := by
  rcases isCut with rfl | ⟨owner, packetToSend, dropped, rfl, front⟩
  · exact ⟨[], rfl, fun producer => List.nil_prefix⟩
  · have inHand : WholeFrames packetToSend := whole (owner, packetToSend) List.mem_cons_self
    have framesFront : torn <+: (unpack packetToSend).flatMap (frame 4) :=
      inHand.packet_eq ▸ front
    refine ⟨(unpack torn).map (owner, ·), by simp, fun producer => ?_⟩
    have own := MultiQueue.ofProducer_flatMap unpack producer [(owner, torn)]
    rw [List.flatMap_singleton] at own
    rw [own, MultiQueue.ofProducer_cons _ (owner, packetToSend)]
    by_cases same : owner = producer
    · simp only [MultiQueue.ofProducer_singleton, if_pos same, List.singleton_append,
        List.flatMap_cons, List.flatMap_nil, List.append_nil]
      exact (cut_of_isFront (Nat.succ_pos 3) inHand.fits framesFront).trans
        (List.prefix_append _ _)
    · simp [MultiQueue.ofProducer_singleton, same]

/-- The frames on the wire, under the threads that sent them. -/
structure Reads (labels : List (Label Producer)) (finish : Connection Producer)
    (received : List (Producer × Bytes)) : Prop where
  frames_eq : unpack finish.wire = received.map (·.2)
  inOrder : ∀ producer, MultiQueue.ofProducer producer received <+:
    MultiQueue.ofProducer producer (labels.flatMap Label.bodies)
  whole : finish.isOpen = true → finish.writeLoop = .waiting →
    (∀ producer, finish.writeQueue producer = []) → ∀ producer,
    MultiQueue.ofProducer producer received =
      MultiQueue.ofProducer producer (labels.flatMap Label.bodies)

theorem exists_reads {labels : List (Label Producer)} {finish : Connection Producer}
    (addressable : ∀ label ∈ labels, label.Addressable) (run : Runs {} labels finish) :
    ∃ received, Reads labels finish received := by
  obtain ⟨-, order, rest, torn, ⟨merges, wire_eq, holds⟩, -⟩ := Tracked.of_run run
  have taken : ∀ item ∈ order ++ rest, WholeFrames item.2 := fun item member =>
    wholeFrames_of_mem addressable (merges.mem_pushed member)
  obtain ⟨tail, tail_eq, tailFront⟩ := exists_tail
    (fun item member => taken item (List.mem_append_right _ member)) (holds.stop .closing).1
  have received_eq : ∀ producer, MultiQueue.ofProducer producer
      ((order.flatMap fun item => (unpack item.2).map (item.1, ·)) ++ tail) =
        (MultiQueue.ofProducer producer order).flatMap unpack ++
          MultiQueue.ofProducer producer tail := by
    intro producer
    rw [MultiQueue.ofProducer_append, MultiQueue.ofProducer_flatMap]
  have pushed_eq : ∀ producer, MultiQueue.ofProducer producer (labels.flatMap Label.bodies) =
      (MultiQueue.ofProducer producer order).flatMap unpack ++
        ((MultiQueue.ofProducer producer rest).flatMap unpack ++
          (finish.writeQueue producer).flatMap unpack) := by
    intro producer
    rw [flatMap_bodies addressable, MultiQueue.ofProducer_flatMap, merges producer,
      MultiQueue.ofProducer_append, List.flatMap_append, List.flatMap_append, List.append_assoc]
  refine ⟨(order.flatMap fun item => (unpack item.2).map (item.1, ·)) ++ tail, ?_, ?_, ?_⟩
  · rw [wire_eq, unpack_append (fun item member => taken item (List.mem_append_left _ member)),
      tail_eq, List.map_append, List.map_flatMap]
    simp
  · intro producer
    rw [received_eq, pushed_eq]
    exact (List.prefix_append_right_inj _).mpr
      ((tailFront producer).trans (List.prefix_append _ _))
  · intro isOpen waiting empty producer
    rw [waiting] at holds
    obtain rfl := holds.2 isOpen
    have none := List.prefix_nil.mp (tailFront producer)
    rw [received_eq, pushed_eq, none, empty]
    rfl

end CppMMO.Network.Connection

namespace CppMMO.Game.Managers

open CppMMO.Lib CppMMO.Protocol CppMMO.Network

/-! ## What the game loop sends -/

def sentTo (session : SessionId) (moments : List Moment) : List ServerPacket :=
  MultiQueue.ofProducer session (moments.flatMap (·.outputs.sent))

/-- The numbers of the snapshots, for whatever session. -/
def snapshotNumbers (moments : List Moment) : List Nat :=
  (moments.flatMap (·.outputs.sent)).filterMap fun entry => snapshotTick? entry.2

theorem snapshotTick?_eq_some_iff {packet : ServerPacket} {number : Nat} :
    snapshotTick? packet = some number ↔
      ∃ snapshot, packet = .worldSnapshot snapshot ∧ snapshot.tickNumber = number := by
  cases packet <;> simp [snapshotTick?]

theorem mem_snapshotNumbers_iff {moments : List Moment} {number : Nat} :
    number ∈ snapshotNumbers moments ↔ ∃ moment ∈ moments, ∃ session snapshot,
      (session, .worldSnapshot snapshot) ∈ moment.outputs.sent ∧
        snapshot.tickNumber = number := by
  simp only [snapshotNumbers, List.mem_filterMap, List.mem_flatMap, snapshotTick?_eq_some_iff]
  constructor
  · rintro ⟨⟨session, packet⟩, ⟨moment, member, sent⟩, snapshot, rfl, number_eq⟩
    exact ⟨moment, member, session, snapshot, sent, number_eq⟩
  · rintro ⟨moment, member, session, snapshot, sent, number_eq⟩
    exact ⟨(session, .worldSnapshot snapshot), ⟨moment, member, sent⟩, snapshot, rfl, number_eq⟩

theorem snapshotNumbers_append (moments more : List Moment) :
    snapshotNumbers (moments ++ more) = snapshotNumbers moments ++ snapshotNumbers more := by
  simp [snapshotNumbers]

theorem sentTo_sublist (session : SessionId) (moments : List Moment) :
    ((sentTo session moments).filterMap snapshotTick?).Sublist (snapshotNumbers moments) := by
  rw [sentTo, MultiQueue.ofProducer, List.filterMap_map]
  exact List.filter_sublist.filterMap _

theorem Moment.Happens.not_sent {before after : GameManager} {moment : Moment}
    (happens : moment.Happens before after) (notFlush : moment.event.isFlushAllBatches = false)
    (session : SessionId) (snapshot : WorldSnapshot) :
    (session, .worldSnapshot snapshot) ∉ moment.outputs.sent := by
  rw [happens.outputs_eq_step]
  exact GameManager.step_not_worldSnapshot notFlush session snapshot

/-- All snapshots of a tick have its number. -/
theorem Tick.Staged.number_eq {tick : Tick} {serverTime : Nat} {delivered : List Bool}
    (staged : tick.Staged serverTime delivered) {start finish : GameManager}
    (run : Run Moment.Happens start tick.moments finish) {number : Nat}
    (sent : number ∈ snapshotNumbers tick.moments) :
    number = tick.send.before.tickNumber + 1 := by
  obtain ⟨moment, member, session, snapshot, isSent, rfl⟩ := mem_snapshotNumbers_iff.mp sent
  have delivers := staged.delivers run
  by_cases isFlush : moment = tick.flush
  · subst isFlush
    rw [staged.sent_eq, GameManager.flushAllBatches_outgoing, ← enqueued_packets] at isSent
    obtain ⟨⟨id, entry⟩, isEnqueued, rfl⟩ := List.mem_map.mp isSent
    have share : (session, .worldSnapshot snapshot) ∈ tick.flush.enqueuedFor id := by
      simp only [Moment.enqueuedFor, staged.flush_event]
      exact List.mem_map.mpr ⟨_, List.mem_filter.mpr ⟨isEnqueued, by simp⟩, rfl⟩
    obtain ⟨player, shown, -, -, shown_eq, enqueues⟩ | ⟨-, enqueues⟩ := staged.enqueuedFor_cases id
    · rw [enqueues] at share
      split at share
      · cases List.mem_singleton.mp share
        exact shown_eq
      · cases share
    · rw [enqueues] at share
      cases share
  · refine absurd isSent (delivers.elsewhere moment ?_ session snapshot)
    simp only [Tick.moments, List.mem_append, List.mem_cons] at member ⊢
    tauto

/-- The numbers never decrease, and those of later ticks are larger. -/
theorem snapshotNumbers_of_run {ticks : List Tick} {rest : List Moment}
    {start finish : GameManager} (drained : start.Drained)
    (run : Run Moment.Happens start (ticks.flatMap Tick.moments ++ rest) finish)
    (unfinished : ∀ moment ∈ rest, moment.event.isFlushAllBatches = false) :
    (snapshotNumbers (ticks.flatMap Tick.moments ++ rest)).Pairwise (· ≤ ·) ∧
      ∀ number ∈ snapshotNumbers (ticks.flatMap Tick.moments ++ rest),
        start.tickNumber < number := by
  induction ticks generalizing start with
  | nil =>
      have silent : ∀ number, number ∉ snapshotNumbers rest := by
        intro number sent
        obtain ⟨moment, member, session, snapshot, isSent, -⟩ := mem_snapshotNumbers_iff.mp sent
        obtain ⟨_, _, happens⟩ := run.exists_step_of_mem member
        exact happens.not_sent (unfinished moment member) session snapshot isSent
      rw [List.flatMap_nil, List.nil_append, List.eq_nil_iff_forall_not_mem.mpr silent]
      exact ⟨.nil, by simp⟩
  | cons tick ticks ih =>
      rw [List.flatMap_cons, List.append_assoc] at run
      obtain ⟨middle, first, later⟩ := run.split
      obtain ⟨⟨serverTime, delivered, staged⟩, middleDrained, sendTick, middleTick⟩ :=
        Tick.exists_staged drained first
      obtain ⟨ordered, above⟩ := ih middleDrained later
      rw [List.flatMap_cons, List.append_assoc, snapshotNumbers_append]
      have numbers : ∀ number ∈ snapshotNumbers tick.moments, number = start.tickNumber + 1 :=
        fun number sent => sendTick ▸ staged.number_eq first sent
      rw [middleTick] at above
      refine ⟨List.pairwise_append.mpr ⟨?_, ordered, ?_⟩, ?_⟩
      · exact List.pairwise_of_forall_mem_list fun number sent other alsoSent =>
          (numbers number sent).trans_le (numbers other alsoSent).ge
      · intro number sent other laterSent
        exact (numbers number sent).trans_le (above other laterSent).le
      · intro number sent
        rcases List.mem_append.mp sent with now | afterwards
        · exact numbers number now ▸ Nat.lt_succ_self _
        · exact (Nat.lt_succ_self _).trans (above number afterwards)

end CppMMO.Game.Managers

namespace CppMMO

open CppMMO.Lib CppMMO.Protocol CppMMO.Game CppMMO.Game.Managers CppMMO.Network
open CppMMO.Network.Connection

variable {Producer : Type} [DecidableEq Producer]

/-! ## What the client sees -/

/-- `calls` are the packets of a session that its calls did not drop. Those of the game thread are
among the ones that the game loop sends, in this order, and no other thread sends snapshots. -/
structure Serves (encode : ServerPacket → Bytes) (gameThread : Producer)
    (sent : List ServerPacket) (labels : List (Label Producer))
    (calls : List (Producer × ServerPacket)) : Prop where
  addressable : ∀ label ∈ labels, label.Addressable
  bodies_eq : labels.flatMap Label.bodies = calls.map (Prod.map id encode)
  fromGameThread : (MultiQueue.ofProducer gameThread calls).Sublist sent
  fromOthers : ∀ producer packet, (producer, packet) ∈ calls → producer ≠ gameThread →
    snapshotTick? packet = none

/-- The client has read the packets `received` so far. -/
structure Sees (encode : ServerPacket → Bytes) (calls : List (Producer × ServerPacket))
    (connection : Connection Producer) (received : List (Producer × ServerPacket)) : Prop where
  frames_eq : (cut 4 connection.wire).1 = received.map fun entry => encode entry.2
  inOrder : ∀ producer,
    MultiQueue.ofProducer producer received <+: MultiQueue.ofProducer producer calls
  /-- Once the write loop waits on an open connection with an empty queue, nothing is missing. -/
  whole : connection.isOpen = true → connection.writeLoop = .waiting →
    (∀ producer, connection.writeQueue producer = []) → ∀ producer,
    MultiQueue.ofProducer producer received = MultiQueue.ofProducer producer calls
  /-- The client never goes back to an earlier tick. -/
  forward : (received.filterMap fun entry => snapshotTick? entry.2).Pairwise (· ≤ ·)

/-- Whatever the game does in ticks without exceptions and whenever the connection ends, a client
reads whole packets, those of each thread in order, and its snapshots never go back in time. -/
theorem sees_in_order {config : GameConfig} {ticks : List Tick} {rest : List Moment}
    {manager : GameManager} (trace : Trace config (ticks.flatMap Tick.moments ++ rest) manager)
    (unfinished : ∀ moment ∈ rest, moment.event.isFlushAllBatches = false)
    {session : SessionId} {encode : ServerPacket → Bytes} {gameThread : Producer}
    {labels : List (Label Producer)} {calls : List (Producer × ServerPacket)}
    (serves : Serves encode gameThread (sentTo session (ticks.flatMap Tick.moments ++ rest))
      labels calls)
    {connection : Connection Producer} (run : Runs {} labels connection) :
    ∃ received, Sees encode calls connection received := by
  obtain ⟨start, created, gameRun⟩ := trace
  have drained : start.Drained := by
    obtain ⟨quadTree, -, rfl⟩ := Option.map_eq_some_iff.mp created
    intro id packets found
    simp at found
  obtain ⟨frames, reads⟩ := exists_reads serves.addressable run
  have calls_eq : ∀ producer, MultiQueue.ofProducer producer (labels.flatMap Label.bodies) =
      (MultiQueue.ofProducer producer calls).map encode := by
    intro producer
    rw [serves.bodies_eq, MultiQueue.ofProducer_map]
  have fronts : ∀ producer, MultiQueue.ofProducer producer frames <+:
      (MultiQueue.ofProducer producer calls).map encode :=
    fun producer => calls_eq producer ▸ reads.inOrder producer
  obtain ⟨received, rfl, inOrder⟩ := MultiQueue.exists_map_of_prefix fronts
  refine ⟨received, ?_, inOrder, ?_, ?_⟩
  · rw [← unpack, reads.frames_eq, List.map_map]
    rfl
  · intro isOpen waiting empty producer
    have all := reads.whole isOpen waiting empty producer
    rw [calls_eq, MultiQueue.ofProducer_map] at all
    have lengths := congrArg List.length all
    rw [List.length_map, List.length_map] at lengths
    exact (inOrder producer).eq_of_length lengths
  · have others : ∀ producer packet, (producer, packet) ∈ received → producer ≠ gameThread →
        snapshotTick? packet = none := by
      intro producer packet member other
      have called := (inOrder producer).subset
        ((MultiQueue.mem_ofProducer_iff producer received packet).mpr member)
      exact serves.fromOthers producer packet
        ((MultiQueue.mem_ofProducer_iff producer calls packet).mp called) other
    rw [← MultiQueue.filterMap_ofProducer others]
    have numbers := (snapshotNumbers_of_run drained gameRun unfinished).1
    refine numbers.sublist (.trans ?_ (sentTo_sublist session _))
    exact ((inOrder gameThread).sublist.trans serves.fromGameThread).filterMap _

/-- The answer to the login goes out first, and the second snapshot is cut off after its header. -/
def twoSnapshots : List (Label Bool) :=
  [.send false [0], .checkOpen, .dequeue false, .startWrite, .writeDone, .send true [0],
    .send true [0], .sendBatch true [[1, 1]], .checkOpen, .dequeue true, .startWrite, .writeDone,
    .checkOpen, .dequeue true, .startWrite, .writeDone, .checkOpen, .dequeue true, .startWrite,
    .writeDone, .sendBatch true [[1, 2]], .checkOpen, .dequeue true, .startWrite, .writeFails 4]

theorem sees_in_order_of_twoSnapshots :
    ∃ (ticks : List Tick) (manager : GameManager) (encode : ServerPacket → Bytes)
      (calls received : List (Bool × ServerPacket)) (connection : Connection Bool),
      Trace {} (ticks.flatMap Tick.moments ++ []) manager ∧
      Serves encode true (sentTo 1 (ticks.flatMap Tick.moments ++ [])) twoSnapshots calls ∧
      Runs {} twoSnapshots connection ∧
      cut 4 connection.wire = ([[0], [0], [0], [1, 1]], [2, 0, 0, 0]) ∧
      Sees encode calls connection received := by
  let encode : ServerPacket → Bytes := fun packet =>
    match snapshotTick? packet with
    | none => [0]
    | some number => [1, UInt8.ofNat number]
  let login : ServerPacket := .loginSuccess { playerId := 1, name := "Player1" } 0
  have executed : (trace? {} (neighboursUntilTick ++ [.updateWorld (1 / 50),
      .sendWorldSnapshots 40, .flushAllBatches [true, false]])).any (fun result =>
        match result.1 with
        | [enter, join, move, send, flush, move', send', flush'] =>
            decide ((∀ moment ∈ [enter, join, move, move'],
                moment.event.precedesSnapshots = true) ∧
              send.event.isSendWorldSnapshots = true ∧ flush.event.isFlushAllBatches = true ∧
              send'.event.isSendWorldSnapshots = true ∧ flush'.event.isFlushAllBatches = true ∧
              twoSnapshots.flatMap Label.bodies =
                ((false, login) :: (sentTo 1 [enter, join, move, send, flush, move', send',
                  flush']).map (true, ·)).map (Prod.map id encode))
        | _ => false) = true := by decide +kernel
  obtain ⟨⟨moments, manager⟩, followed, checked⟩ := (Option.any_eq_true _ _).mp executed
  dsimp only at checked
  split at checked
  · next enter join move send flush move' send' flush' =>
      obtain ⟨precede, sends, flushes, sends', flushes', bodies_eq⟩ := of_decide_eq_true checked
      have trace := trace_of_trace? followed
      let ticks : List Tick :=
        [⟨[enter, join, move], send, [], flush, [], fun moment member =>
            precede moment (by simp at member ⊢; tauto), sends, by simp, flushes, by simp⟩,
          ⟨[move'], send', [], flush', [], fun moment member =>
            precede moment (by simp at member ⊢; tauto), sends', by simp, flushes', by simp⟩]
      have split : ticks.flatMap Tick.moments ++ [] =
          [enter, join, move, send, flush, move', send', flush'] := rfl
      have serves : Serves encode true (sentTo 1 (ticks.flatMap Tick.moments ++ [])) twoSnapshots
          ((false, login) :: (sentTo 1 (ticks.flatMap Tick.moments ++ [])).map (true, ·)) := by
        refine ⟨?_, bodies_eq, ?_, ?_⟩
        · simp [twoSnapshots, Label.Addressable]
        · simp [MultiQueue.ofProducer, List.filter_map, Function.comp_def]
        · intro producer packet member other
          rcases List.mem_cons.mp member with same | sent
          · cases same
            rfl
          · obtain ⟨_, -, same⟩ := List.mem_map.mp sent
            cases same
            exact absurd rfl other
      obtain ⟨_, connection, created, run, wire⟩ := exists_run_of_execute step?
        (some ({} : Connection Bool)) twoSnapshots
        (fun connection : Connection Bool =>
          cut 4 connection.wire = ([[0], [0], [0], [1, 1]], [2, 0, 0, 0]))
        (by decide +kernel)
      cases created
      obtain ⟨received, sees⟩ := sees_in_order (split ▸ trace) (by simp) serves run
      exact ⟨ticks, manager, encode, _, received, connection, split ▸ trace, serves, run, wire,
        sees⟩
  · cases checked

end CppMMO
