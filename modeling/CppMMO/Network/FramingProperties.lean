import CppMMO.Lib.Transition
import CppMMO.Network.Session
import Mathlib.Algebra.Order.BigOperators.Group.List

/-! Framing on the wire, in both directions. -/

set_option autoImplicit false

namespace CppMMO.Network

open CppMMO.Lib CppMMO.Protocol

/-! ## One call -/

theorem sendPacket_eq_frame {data : Bytes} (short : data.length < 2 ^ 32) :
    sendPacket data = frame 4 data := by
  have exact_ : (UInt32.ofNat data.length).toNat = data.length := by
    rw [UInt32.toNat_ofNat']
    exact Nat.mod_eq_of_lt short
  simp only [sendPacket, header, frame, exact_]

theorem combine_eq_flatMap (packets : List Bytes) : combine packets = packets.flatMap sendPacket := by
  have loop : ∀ (packets : List Bytes) (start : Bytes),
      packets.foldl (fun batchPacket packet =>
        batchPacket ++ header (UInt32.ofNat packet.length) ++ packet) start =
        start ++ packets.flatMap sendPacket := by
    intro packets
    induction packets with
    | nil => simp
    | cons packet rest ih =>
        intro start
        rw [List.foldl_cons, ih, List.flatMap_cons, sendPacket, List.append_assoc,
          List.append_assoc, List.append_assoc]
  exact loop packets []

def wireSize (packets : List Bytes) : Nat := (packets.map fun packet => 4 + packet.length).sum

def maxBatchBytes : Nat := 64 * 1024 * 1024

@[simp] theorem wireSize_cons (packet : Bytes) (rest : List Bytes) :
    wireSize (packet :: rest) = 4 + packet.length + wireSize rest := by
  simp [wireSize]

/-- While the total is within the limit and the next span shorter than 2^63, nothing in
one turn of the size loop wraps. -/
theorem batchSize_turn {totalSize : UInt64} {packet : Bytes}
    (within : totalSize.toNat ≤ maxBatchBytes) (short : packet.length < 2 ^ 63) :
    ¬ totalSize > sizeMax - 4 - UInt64.ofNat packet.length ∧
      (totalSize + (4 + UInt64.ofNat packet.length)).toNat =
        totalSize.toNat + (4 + packet.length) := by
  have size : (UInt64.ofNat packet.length).toNat = packet.length := by
    rw [UInt64.toNat_ofNat']
    exact Nat.mod_eq_of_lt (by omega)
  have four : (4 : UInt64).toNat = 4 := rfl
  have room : (sizeMax - 4).toNat = 2 ^ 64 - 5 := rfl
  have limit : maxBatchBytes = 67108864 := rfl
  constructor
  · rw [gt_iff_lt, UInt64.lt_iff_toNat_lt, UInt64.toNat_sub, room, size]
    omega
  · rw [UInt64.toNat_add, UInt64.toNat_add, size, four]
    omega

theorem batchSize?_eq (packets : List Bytes) (short : ∀ packet ∈ packets, packet.length < 2 ^ 63)
    (totalSize : UInt64) (within : totalSize.toNat ≤ maxBatchBytes) :
    (batchSize? totalSize packets).map (·.toNat) =
      if totalSize.toNat + wireSize packets ≤ maxBatchBytes then
        some (totalSize.toNat + wireSize packets)
      else none := by
  induction packets generalizing totalSize with
  | nil => simp [batchSize?, wireSize, within]
  | cons packet rest ih =>
      obtain ⟨fits, sum⟩ := batchSize_turn within (short packet List.mem_cons_self)
      have limit : maxBatchSize.toNat = maxBatchBytes := rfl
      rw [batchSize?, if_neg fits, wireSize_cons, ← Nat.add_assoc, ← sum]
      by_cases tooLarge : totalSize + (4 + UInt64.ofNat packet.length) > maxBatchSize
      · rw [if_pos tooLarge, if_neg, Option.map_none]
        rw [gt_iff_lt, UInt64.lt_iff_toNat_lt, limit] at tooLarge
        omega
      · rw [if_neg tooLarge]
        rw [gt_iff_lt, UInt64.lt_iff_toNat_lt, limit, Nat.not_lt] at tooLarge
        exact ih (fun other member => short other (List.mem_cons_of_mem packet member)) _ tooLarge

theorem batchPacket?_eq {packets : List Bytes}
    (short : ∀ packet ∈ packets, packet.length < 2 ^ 63) :
    batchPacket? packets =
      if packets ≠ [] ∧ wireSize packets ≤ maxBatchBytes then some (packets.flatMap sendPacket)
      else none := by
  have zero : (0 : UInt64).toNat = 0 := rfl
  have size := batchSize?_eq packets short 0 (Nat.zero_le _)
  rw [zero, Nat.zero_add] at size
  unfold batchPacket?
  by_cases none_ : packets = []
  · simp [none_]
  · by_cases within : wireSize packets ≤ maxBatchBytes
    · rw [if_pos within] at size
      obtain ⟨total, computed, -⟩ := Option.map_eq_some_iff.mp size
      simp [none_, within, computed, combine_eq_flatMap]
    · rw [if_neg within] at size
      simp [none_, within, Option.map_eq_none_iff.mp size]

theorem length_le_wireSize {packets : List Bytes} {packet : Bytes} (member : packet ∈ packets) :
    packet.length ≤ wireSize packets := by
  have part : 4 + packet.length ≤ wireSize packets :=
    List.le_sum_of_mem (List.mem_map_of_mem member)
  omega

/-! ## Runs of producers and the write loop -/

namespace Outbound

namespace Label

variable {Producer : Type}

def call? : Label Producer → Option (Producer × List Bytes)
  | .send producer data => some (producer, [data])
  | .sendBatch producer packets =>
      if packets ≠ [] ∧ wireSize packets ≤ maxBatchBytes then some (producer, packets) else none
  | .write _ => none

def isWrite : Label Producer → Bool
  | .write _ => true
  | .send _ _ | .sendBatch _ _ => false

/-- Single bodies are shorter than 2^32 bytes, spans of a batch shorter than 2^63. -/
def Addressable : Label Producer → Prop
  | .send _ data => data.length < 2 ^ 32
  | .sendBatch _ packets => ∀ packet ∈ packets, packet.length < 2 ^ 63
  | .write _ => True

theorem fits_of_call? {label : Label Producer} (addressable : label.Addressable)
    {call : Producer × List Bytes} (called : label.call? = some call) :
    ∀ body ∈ call.2, body.length < 2 ^ 32 := by
  cases label with
  | send producer data =>
      cases called
      intro body member
      cases List.mem_singleton.mp member
      exact addressable
  | sendBatch producer packets =>
      simp only [call?] at called
      split at called
      · next accepted =>
          cases called
          intro body member
          have size := (length_le_wireSize member).trans accepted.2
          have limit : maxBatchBytes = 67108864 := rfl
          omega
      · cases called
  | write producer => cases called

end Label

variable {Producer : Type} [DecidableEq Producer]

/-- The calls behind the bytes: `order` was written, `queued` waits. -/
structure Carries (outbound : Outbound Producer) (calls order : List (Producer × List Bytes))
    (queued : MultiQueue Producer (List Bytes)) : Prop where
  merges : queued.Merges calls order
  encodes : MultiQueue.Encodes (·.flatMap sendPacket) outbound.writeQueue queued
  written_eq : outbound.written = (order.flatMap (·.2)).flatMap sendPacket

theorem Carries.step {before after : Outbound Producer} {calls : List (Producer × List Bytes)}
    {order : List (Producer × List Bytes)} {queued : MultiQueue Producer (List Bytes)}
    (carries : before.Carries calls order queued) {label : Label Producer}
    (addressable : label.Addressable) (taken : before.step? label = some after) :
    ∃ next queued, after.Carries (calls ++ label.call?.toList) next queued ∧
      next.length = order.length + label.isWrite.toNat := by
  cases label with
  | send producer data =>
      cases taken
      have encoded := carries.encodes.enqueue producer [data]
      rw [List.flatMap_singleton] at encoded
      exact ⟨order, _, ⟨carries.merges.enqueue producer [data], encoded, carries.written_eq⟩, rfl⟩
  | sendBatch producer packets =>
      simp only [step?, batchPacket?_eq addressable] at taken
      by_cases accepted : packets ≠ [] ∧ wireSize packets ≤ maxBatchBytes
      · simp only [if_pos accepted, Option.some.injEq] at taken
        subst taken
        refine ⟨order, queued.enqueue producer packets, ⟨?_, ?_, carries.written_eq⟩, rfl⟩
        · simpa only [Label.call?, if_pos accepted, Option.toList_some]
            using carries.merges.enqueue producer packets
        · exact carries.encodes.enqueue producer packets
      · simp only [if_neg accepted, Option.some.injEq] at taken
        subst taken
        refine ⟨order, queued, ⟨?_, carries.encodes, carries.written_eq⟩, rfl⟩
        simpa only [Label.call?, if_neg accepted, Option.toList_none, List.append_nil]
          using carries.merges
  | write producer =>
      obtain ⟨⟨packet, rest⟩, dequeued, rfl⟩ := Option.map_eq_some_iff.mp taken
      obtain ⟨remaining, front, rfl⟩ := (MultiQueue.dequeue?_eq_some_iff _ _ _ _).mp dequeued
      obtain ⟨call, others, queued_eq, rfl, encodes⟩ := carries.encodes.dequeue front
      refine ⟨order ++ [(producer, call)], _, ⟨?_, encodes, ?_⟩, List.length_append⟩
      · simpa only [Label.call?, Option.toList_none, List.append_nil]
          using carries.merges.dequeue queued_eq
      · simp only [carries.written_eq, List.flatMap_append, List.flatMap_singleton]

/-- Every write turn has written the packet of one call. -/
def Carried (past : List (Label Producer)) (outbound : Outbound Producer) : Prop :=
  (∀ label ∈ past, label.Addressable) →
    ∃ order queued, outbound.Carries (past.filterMap Label.call?) order queued ∧
      order.length = past.countP Label.isWrite

private theorem filterMap_snoc {α β : Type} (select : α → Option β) (front : List α) (last : α) :
    (front ++ [last]).filterMap select = front.filterMap select ++ (select last).toList := by
  rw [List.filterMap_append]
  cases selected : select last <;> simp [selected]

theorem Carried.run {labels : List (Label Producer)} {finish : Outbound Producer}
    (run : Run (Taken step?) {} labels finish) : Carried labels finish := by
  have initially : Carried [] ({} : Outbound Producer) :=
    fun _ => ⟨[], .empty, ⟨.empty, fun _ => rfl, rfl⟩, rfl⟩
  refine run.preserves_history Carried ?_ initially
  intro past before label after carried taken addressable
  obtain ⟨order, queued, carries, turns⟩ :=
    carried fun other member => addressable other (List.mem_append_left _ member)
  obtain ⟨next, rest, carriesNext, longer⟩ :=
    carries.step (addressable label (by simp)) taken
  refine ⟨next, rest, by rwa [filterMap_snoc], ?_⟩
  rw [longer, turns, List.countP_append, List.countP_singleton]
  cases label.isWrite <;> rfl

/-- Whole calls are cut from the stream again. -/
theorem Carries.cut_eq {outbound : Outbound Producer} {labels : List (Label Producer)}
    {order : List (Producer × List Bytes)} {queued : MultiQueue Producer (List Bytes)}
    (carries : outbound.Carries (labels.filterMap Label.call?) order queued)
    (addressable : ∀ label ∈ labels, label.Addressable) :
    cut 4 outbound.written = (order.flatMap (·.2), []) := by
  have fits : ∀ body ∈ order.flatMap (·.2), body.length < 2 ^ 32 := by
    intro body member
    obtain ⟨call, ordered, isBody⟩ := List.mem_flatMap.mp member
    obtain ⟨label, isLabel, called⟩ := List.mem_filterMap.mp (carries.merges.mem_pushed ordered)
    exact Label.fits_of_call? (addressable label isLabel) called body isBody
  have framing : (order.flatMap (·.2)).flatMap sendPacket =
      (order.flatMap (·.2)).flatMap (frame 4) :=
    List.flatMap_congr fun body member => sendPacket_eq_frame (fits body member)
  rw [carries.written_eq, framing]
  exact cut_flatMap_frame (by decide) fits

theorem step?_write {outbound : Outbound Producer} {producer : Producer} {packet : Bytes}
    {rest : List Bytes} (front : outbound.writeQueue producer = packet :: rest) :
    outbound.step? (.write producer) = some {
      writeQueue := Function.update outbound.writeQueue producer rest
      written := outbound.written ++ packet } := by
  have dequeued := (MultiQueue.dequeue?_eq_some_iff _ producer packet _).mpr ⟨rest, front, rfl⟩
  simp only [step?, dequeued, Option.map_some]

/-- Nothing waits, and the stream is cut into the bodies of all calls, in the order of each
producer. -/
structure Delivered (calls : List (Producer × List Bytes)) (outbound : Outbound Producer) :
    Prop where
  empty : ∀ producer, outbound.writeQueue producer = []
  whole : ∃ order : List (Producer × List Bytes),
    cut 4 outbound.written = (order.flatMap (·.2), []) ∧
    ∀ producer, MultiQueue.ofProducer producer order = MultiQueue.ofProducer producer calls

section Turns

variable {labels : List (Label Producer)} {finish : Outbound Producer}

theorem turns_le (addressable : ∀ label ∈ labels, label.Addressable)
    (run : Run (Taken step?) {} labels finish) :
    labels.countP Label.isWrite ≤ (labels.filterMap Label.call?).length := by
  obtain ⟨order, queued, carries, turns⟩ := Carried.run run addressable
  rw [← turns]
  exact carries.merges.subperm.length_le

theorem exists_packet (addressable : ∀ label ∈ labels, label.Addressable)
    (run : Run (Taken step?) {} labels finish)
    (fewer : labels.countP Label.isWrite < (labels.filterMap Label.call?).length) :
    ∃ producer packet rest, finish.writeQueue producer = packet :: rest := by
  obtain ⟨order, queued, carries, turns⟩ := Carried.run run addressable
  by_contra nothing
  have empty : ∀ producer, queued producer = [] := by
    intro producer
    cases waiting : queued producer with
    | nil => rfl
    | cons call others =>
        refine absurd ⟨producer, call.flatMap sendPacket, others.map (·.flatMap sendPacket), ?_⟩
          nothing
        rw [carries.encodes producer, waiting, List.map_cons]
  have all := (carries.merges.perm_of_empty empty).length_eq
  omega

theorem delivered_of_turns (addressable : ∀ label ∈ labels, label.Addressable)
    (run : Run (Taken step?) {} labels finish)
    (enough : labels.countP Label.isWrite = (labels.filterMap Label.call?).length) :
    Delivered (labels.filterMap Label.call?) finish := by
  obtain ⟨order, queued, carries, turns⟩ := Carried.run run addressable
  have empty := carries.merges.empty_of_length_le (by omega)
  refine ⟨fun producer => ?_, order, carries.cut_eq addressable, fun producer => ?_⟩
  · rw [carries.encodes producer, empty producer, List.map_nil]
  · rw [carries.merges producer, empty producer, List.append_nil]

/-- The write loop goes on until everything is written. -/
theorem exists_delivering_turns (addressable : ∀ label ∈ labels, label.Addressable)
    (run : Run (Taken step?) {} labels finish) :
    ∃ (turns : List Producer) (after : Outbound Producer),
      Run (Taken step?) finish (turns.map Label.write) after ∧
      Delivered (labels.filterMap Label.call?) after := by
  have bounded := turns_le addressable run
  generalize remaining :
    (labels.filterMap Label.call?).length - labels.countP Label.isWrite = count
  induction count generalizing labels finish with
  | zero => exact ⟨[], finish, .nil, delivered_of_turns addressable run (by omega)⟩
  | succ count ih =>
      obtain ⟨producer, packet, rest, front⟩ := exists_packet addressable run (by omega)
      have taken : Taken step? finish (.write producer) _ := step?_write front
      have calls : (labels ++ [Label.write producer]).filterMap Label.call? =
          labels.filterMap Label.call? := by
        rw [filterMap_snoc]
        exact List.append_nil _
      have turn : (labels ++ [Label.write producer]).countP Label.isWrite =
          labels.countP Label.isWrite + 1 := by
        rw [List.countP_append, List.countP_singleton]
        rfl
      have addressableNext : ∀ label ∈ labels ++ [Label.write producer], label.Addressable :=
        List.forall_mem_append.mpr ⟨addressable, List.forall_mem_singleton.mpr trivial⟩
      obtain ⟨turns, after, more, delivered⟩ := ih addressableNext (run.snoc taken)
        (turns_le addressableNext (run.snoc taken)) (by rw [calls, turn]; omega)
      exact ⟨producer :: turns, after, .cons taken more, calls ▸ delivered⟩

end Turns

/-- What goes out on the wire, whatever the producers and the write loop do. -/
structure Framed (labels : List (Label Producer)) (finish : Outbound Producer) : Prop where
  /-- The stream is cut into the bodies of whole calls, merged in the order of each
  producer; calls not yet written are still queued. -/
  merged : ∃ (order : List (Producer × List Bytes)) (queued : MultiQueue Producer (List Bytes)),
    cut 4 finish.written = (order.flatMap (·.2), []) ∧
    queued.Merges (labels.filterMap Label.call?) order ∧
    ∀ producer, finish.writeQueue producer = (queued producer).map (·.flatMap sendPacket)
  /-- A turn that finds a packet takes it off the queue and writes it behind the others. -/
  turn : ∀ producer packet rest, finish.writeQueue producer = packet :: rest →
    finish.step? (.write producer) = some {
      writeQueue := Function.update finish.writeQueue producer rest
      written := finish.written ++ packet }
  /-- Every turn is for another call, and while there were fewer there is a packet for the next. -/
  bounded : labels.countP Label.isWrite ≤ (labels.filterMap Label.call?).length
  unfinished : labels.countP Label.isWrite < (labels.filterMap Label.call?).length →
    ∃ producer packet rest, finish.writeQueue producer = packet :: rest
  /-- As many turns as calls have written all of them, and further turns lead there. -/
  complete : labels.countP Label.isWrite = (labels.filterMap Label.call?).length →
    Delivered (labels.filterMap Label.call?) finish
  drains : ∃ (turns : List Producer) (after : Outbound Producer),
    Run (Taken step?) finish (turns.map Label.write) after ∧
    Delivered (labels.filterMap Label.call?) after
  /-- A batch within the limit is enqueued as one item that reads like its bodies sent
  one by one. -/
  batchAccepted : ∀ producer packets, .sendBatch producer packets ∈ labels → packets ≠ [] →
    wireSize packets ≤ maxBatchBytes → ∀ outbound : Outbound Producer,
    outbound.step? (.sendBatch producer packets) = some { outbound with
      writeQueue := outbound.writeQueue.enqueue producer (packets.flatMap sendPacket) }
  batchDropped : ∀ producer packets, .sendBatch producer packets ∈ labels →
    maxBatchBytes < wireSize packets → ∀ outbound : Outbound Producer,
    outbound.step? (.sendBatch producer packets) = some outbound
  /-- Whenever the size loop comes to a packet, its total is the true size so far, and
  adding the packet gives the true size again. -/
  totalSize : ∀ producer front packet rest totalSize,
    .sendBatch producer (front ++ packet :: rest) ∈ labels →
    batchSize? 0 front = some totalSize → totalSize.toNat = wireSize front ∧
      (totalSize + (4 + UInt64.ofNat packet.length)).toNat = wireSize front + (4 + packet.length)

theorem framed {labels : List (Label Producer)} {finish : Outbound Producer}
    (addressable : ∀ label ∈ labels, label.Addressable)
    (run : Run (Taken step?) {} labels finish) : Framed labels finish := by
  obtain ⟨order, queued, carries, -⟩ := Carried.run run addressable
  refine ⟨⟨order, queued, carries.cut_eq addressable, carries.merges, carries.encodes⟩,
    fun producer packet rest => step?_write, turns_le addressable run,
    exists_packet addressable run, delivered_of_turns addressable run,
    exists_delivering_turns addressable run, ?_, ?_, ?_⟩
  · intro producer packets isLabel notEmpty within outbound
    have short := addressable _ isLabel
    simp only [step?, batchPacket?_eq short, if_pos (And.intro notEmpty within)]
  · intro producer packets isLabel tooLarge outbound
    have short := addressable _ isLabel
    have refused : ¬ (packets ≠ [] ∧ wireSize packets ≤ maxBatchBytes) :=
      fun accepted => absurd accepted.2 (Nat.not_le.mpr tooLarge)
    simp only [step?, batchPacket?_eq short, if_neg refused]
  · intro producer front packet rest totalSize isLabel computed
    have short := addressable _ isLabel
    have frontShort : ∀ other ∈ front, other.length < 2 ^ 63 :=
      fun other member => short other (List.mem_append_left _ member)
    have size := batchSize?_eq front frontShort 0 (Nat.zero_le _)
    rw [computed, Option.map_some] at size
    split at size
    · next within =>
        have zero : (0 : UInt64).toNat = 0 := rfl
        rw [zero, Nat.zero_add] at size within
        have total_eq : totalSize.toNat = wireSize front := Option.some.inj size
        rw [← total_eq] at within ⊢
        exact ⟨rfl, (batchSize_turn within (short packet (by simp))).2⟩
    · cases size

/-- Two threads, one of them with a batch; the write loop happens to take the batch
first. -/
theorem framed_two_producers :
    ∃ finish : Outbound Nat,
      Run (Taken step?) {} [.send 0 [1], .sendBatch 1 [[2], [3, 4]], .write 1, .write 0] finish ∧
      Framed [.send 0 [1], .sendBatch 1 [[2], [3, 4]], .write 1, .write 0] finish ∧
      Delivered [(0, [[1]]), (1, [[2], [3, 4]])] finish ∧
      cut 4 finish.written = ([[2], [3, 4], [1]], []) := by
  have executed : (execute step? ({} : Outbound Nat)
      [.send 0 [1], .sendBatch 1 [[2], [3, 4]], .write 1, .write 0]).map (·.written) =
      some [1, 0, 0, 0, 2, 2, 0, 0, 0, 3, 4, 1, 0, 0, 0, 1] := by decide +kernel
  obtain ⟨finish, reached, written_eq⟩ := Option.map_eq_some_iff.mp executed
  have framed_ := framed ?_ (run_of_execute reached)
  · refine ⟨finish, run_of_execute reached, framed_, framed_.complete (by decide), ?_⟩
    rw [written_eq]
    decide +kernel
  · intro label member
    simp only [List.mem_cons, List.not_mem_nil, or_false] at member
    rcases member with rfl | rfl | rfl | rfl <;> simp [Label.Addressable]

end Outbound

/-! ## The read loop -/

def Receivable (body : Bytes) : Prop := 1 ≤ body.length ∧ body.length ≤ 100000

theorem Receivable.fits {body : Bytes} (receivable : Receivable body) :
    body.length < 256 ^ 4 :=
  receivable.2.trans_lt (by decide)

theorem asyncRead_of_le {buffer stream : Bytes} (enough : buffer.length ≤ stream.length) :
    asyncRead buffer stream =
      (stream.take buffer.length, stream.drop buffer.length, false) := by
  simp [asyncRead, List.drop_eq_nil_of_le enough, Nat.not_lt.mpr enough]

theorem length_resize (buffer : Bytes) (length : Nat) : (resize buffer length).length = length := by
  simp only [resize, List.length_append, List.length_take, List.length_replicate]
  omega

namespace Inbound

/-- What one iteration does: hand on the first frame and continue, or disconnect when
there is no frame it lets through. -/
inductive ReadOutcome (inbound : Inbound) : Inbound → Prop where
  | handed {body rest : Bytes} {after : Inbound} (receivable : Receivable body)
      (stream_eq : inbound.stream = frame 4 body ++ rest) (rest_eq : after.stream = rest)
      (handed_eq : after.handed = inbound.handed ++ [body])
      (header : after.readHeader.length = 4) (connected : after.connected = inbound.connected) :
      ReadOutcome inbound after
  | disconnected {after : Inbound} (handed_eq : after.handed = inbound.handed)
      (closed : after.connected = false)
      (noFrame : ∀ body rest, Receivable body → inbound.stream ≠ frame 4 body ++ rest) :
      ReadOutcome inbound after

theorem readPacket_outcome (inbound : Inbound) (header : inbound.readHeader.length = 4) :
    ReadOutcome inbound inbound.readPacket := by
  unfold readPacket
  by_cases short : inbound.stream.length < 4
  · -- The stream ends within the header.
    have failed : (asyncRead inbound.readHeader inbound.stream).2.2 = true := by
      simp [asyncRead, header, short]
    simp only [failed, ↓reduceIte]
    refine .disconnected rfl rfl fun body rest _ same => ?_
    rw [same, List.length_append, length_frame] at short
    omega
  have headerRead := asyncRead_of_le (header ▸ Nat.not_lt.mp short)
  rw [header] at headerRead
  simp only [headerRead, Bool.false_eq_true, ↓reduceIte]
  by_cases refused : decodeLE (inbound.stream.take 4) = 0 ∨ decodeLE (inbound.stream.take 4) > 100000
  · simp only [refused, ↓reduceIte]
    refine .disconnected rfl rfl fun body rest receivable same => ?_
    rw [same, decodeLE_take_frame receivable.fits] at refused
    obtain ⟨positive, small⟩ := receivable
    omega
  simp only [refused, ↓reduceIte]
  obtain ⟨positive, small⟩ := not_or.mp refused
  have resized := length_resize inbound.readBody (decodeLE (inbound.stream.take 4))
  by_cases torn : (inbound.stream.drop 4).length < decodeLE (inbound.stream.take 4)
  · -- The stream ends within the body.
    have failed : (asyncRead (resize inbound.readBody (decodeLE (inbound.stream.take 4)))
        (inbound.stream.drop 4)).2.2 = true := by
      simpa [asyncRead, resized] using torn
    simp only [failed, ↓reduceIte]
    refine .disconnected rfl rfl fun body rest receivable same => ?_
    rw [same, decodeLE_take_frame receivable.fits, drop_frame, List.length_append] at torn
    omega
  · have bodyRead := asyncRead_of_le (resized ▸ Nat.not_lt.mp torn)
    rw [resized] at bodyRead
    simp only [bodyRead, Bool.false_eq_true, ↓reduceIte]
    have taken : takeFrame? 4 inbound.stream =
        some ((inbound.stream.drop 4).take (decodeLE (inbound.stream.take 4)),
          (inbound.stream.drop 4).drop (decodeLE (inbound.stream.take 4))) :=
      if_neg (not_or.mpr ⟨short, torn⟩)
    refine .handed ?_ (eq_frame_append_of_takeFrame? taken) rfl rfl ?_ rfl
    · rw [Receivable, List.length_take, Nat.min_eq_left (Nat.not_lt.mp torn)]
      omega
    · exact (List.length_take_of_le (Nat.not_lt.mp short))

/-- The bodies the loop hands on are the longest prefix of receivable frames, whatever
was handed on before. -/
theorem readLoop_spec (iterations : Nat) (inbound : Inbound)
    (header : inbound.readHeader.length = 4) (connected : inbound.connected = true)
    (enough : inbound.stream.length < iterations) :
    ∃ bodies rest, (readLoop iterations inbound).handed = inbound.handed ++ bodies ∧
      (readLoop iterations inbound).connected = false ∧
      inbound.stream = bodies.flatMap (frame 4) ++ rest ∧ (∀ body ∈ bodies, Receivable body) ∧
      ∀ body after, Receivable body → rest ≠ frame 4 body ++ after := by
  induction iterations generalizing inbound with
  | zero => exact absurd enough (Nat.not_lt_zero _)
  | succ iterations ih =>
      have turn : readLoop (iterations + 1) inbound = readLoop iterations inbound.readPacket :=
        if_pos connected
      rw [turn]
      cases inbound.readPacket_outcome header with
      | @handed body rest _ receivable stream_eq rest_eq handed_eq nextHeader stays =>
          have shorter : inbound.readPacket.stream.length < iterations := by
            rw [stream_eq, List.length_append, length_frame] at enough
            rw [rest_eq]
            omega
          obtain ⟨bodies, left, handed, closed, split, accepted, maximal⟩ :=
            ih _ nextHeader (stays.trans connected) shorter
          refine ⟨body :: bodies, left, ?_, closed, ?_, ?_, maximal⟩
          · rw [handed, handed_eq, List.append_assoc, List.singleton_append]
          · rw [stream_eq, ← rest_eq, split, List.flatMap_cons, List.append_assoc]
          · exact List.forall_mem_cons.mpr ⟨receivable, accepted⟩
      | disconnected handed_eq closed noFrame =>
          have stopped : readLoop iterations inbound.readPacket = inbound.readPacket := by
            cases iterations with
            | zero => rfl
            | succ iterations => exact if_neg (by simp [closed])
          rw [stopped]
          exact ⟨[], inbound.stream, by simpa using handed_eq, closed, rfl, by simp, noFrame⟩

/-- What comes in from the wire, for every stream a client can send. -/
structure Received (stream : Bytes) (finish : Inbound) : Prop where
  disconnected : finish.connected = false
  receivable : ∀ body ∈ finish.handed, Receivable body
  prefix_eq : ∃ rest, stream = finish.handed.flatMap (frame 4) ++ rest
  longest : ∀ bodies rest, (∀ body ∈ bodies, Receivable body) →
    stream = bodies.flatMap (frame 4) ++ rest → bodies <+: finish.handed

theorem received (stream : Bytes) :
    (∀ iterations, stream.length < iterations →
      Received stream (readLoop iterations { stream })) ∧
    ∀ bodies, (∀ body ∈ bodies, Receivable body) → stream = bodies.flatMap sendPacket →
      ∀ iterations, stream.length < iterations →
        (readLoop iterations { stream }).handed = bodies := by
  have loop : ∀ iterations, stream.length < iterations →
      Received stream (readLoop iterations { stream }) := by
    intro iterations enough
    obtain ⟨bodies, rest, handed, closed, split, accepted, maximal⟩ :=
      readLoop_spec iterations { stream } rfl rfl enough
    rw [List.nil_append] at handed
    rw [← handed] at split accepted
    exact ⟨closed, accepted, ⟨rest, split⟩, fun others tail othersAccepted otherSplit =>
      prefix_of_maximal Receivable.fits accepted othersAccepted maximal (split.symm.trans otherSplit)⟩
  refine ⟨loop, fun bodies accepted encoded iterations enough => ?_⟩
  have framing : stream = bodies.flatMap (frame 4) ++ [] := by
    rw [encoded, List.append_nil]
    exact List.flatMap_congr fun body member =>
      sendPacket_eq_frame ((accepted body member).2.trans_lt (by decide))
  obtain ⟨-, receivable, ⟨rest, split⟩, longest⟩ := loop iterations enough
  -- Nothing is left after the given bodies, so neither list of bodies is longer.
  have isPrefix : bodies <+: (readLoop iterations { stream }).handed :=
    longest bodies [] accepted framing
  have isSuffix : (readLoop iterations { stream }).handed <+: bodies :=
    prefix_of_maximal Receivable.fits accepted receivable
      (fun body after receivableBody same => by
        have lengths := congrArg List.length same
        rw [List.length_append, length_frame, List.length_nil] at lengths
        omega)
      (framing.symm.trans split)
  exact (isPrefix.eq_of_length_le isSuffix.length_le).symm

end Inbound

end CppMMO.Network
