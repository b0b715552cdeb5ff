import CppMMO.Common.Protocol
import CppMMO.Lib.Frame
import CppMMO.Lib.MultiQueue

/-! The byte level of a session: what `Send` and `SendBatch` put on the write queue,
what `WriteLoop` writes, and what `ReadLoop` hands on. -/

set_option autoImplicit false

namespace CppMMO.Network

open CppMMO.Lib CppMMO.Protocol

/-! ## Sending -/

/-- The four bytes of a `uint32_t` on a little-endian host. -/
def header (bodyLength : UInt32) : Bytes := encodeLE 4 bodyLength.toNat

def sendPacket (data : Bytes) : Bytes :=
  let bodyLength := UInt32.ofNat data.length
  header bodyLength ++ data

def sizeMax : UInt64 := 0xFFFFFFFFFFFFFFFF
def maxBatchSize : UInt64 := 64 * 1024 * 1024

/-- The first loop of `SendBatch`, from a running total: nothing where the batch is
dropped. -/
def batchSize? : UInt64 → List Bytes → Option UInt64
  | totalSize, [] => some totalSize
  | totalSize, packet :: rest =>
      let size := UInt64.ofNat packet.length
      if totalSize > sizeMax - 4 - size then none
      else
        let totalSize := totalSize + (4 + size)
        if totalSize > maxBatchSize then none else batchSize? totalSize rest

/-- The second loop: every packet is appended after its header. -/
def combine (packets : List Bytes) : Bytes :=
  packets.foldl (fun batchPacket packet =>
    let bodyLength := UInt32.ofNat packet.length
    batchPacket ++ header bodyLength ++ packet) []

/-- What `SendBatch` enqueues, if anything. -/
def batchPacket? (packets : List Bytes) : Option Bytes :=
  if packets = [] then none else (batchSize? 0 packets).map fun _ => combine packets

/-- One session's way out. The queue keeps the order of each producer thread. -/
structure Outbound (Producer : Type) where
  writeQueue : MultiQueue Producer Bytes := .empty
  written : Bytes := []

/-- `write` is one turn of `WriteLoop` that found a packet, and whose it found. -/
inductive Outbound.Label (Producer : Type) where
  | send (producer : Producer) (data : Bytes)
  | sendBatch (producer : Producer) (packets : List Bytes)
  | write (producer : Producer)

def Outbound.step? {Producer : Type} [DecidableEq Producer] (outbound : Outbound Producer) :
    Outbound.Label Producer → Option (Outbound Producer)
  | .send producer data =>
      some { outbound with
        writeQueue := outbound.writeQueue.enqueue producer (sendPacket data) }
  | .sendBatch producer packets =>
      match batchPacket? packets with
      | none => some outbound
      | some batchPacket =>
          some { outbound with writeQueue := outbound.writeQueue.enqueue producer batchPacket }
  | .write producer =>
      (outbound.writeQueue.dequeue? producer).map fun (packetToSend, writeQueue) =>
        { writeQueue, written := outbound.written ++ packetToSend }

/-! ## Receiving -/

/-- One session's way in. `stream` is what the client still sends before the connection
ends, `handed` what went to `HandlePacket`. -/
structure Inbound where
  readHeader : Bytes := List.replicate 4 0
  readBody : Bytes := []
  stream : Bytes
  handed : List Bytes := []
  connected : Bool := true

/-- Fill a buffer from its front. The read fails where the stream ends first. -/
def asyncRead (buffer stream : Bytes) : Bytes × Bytes × Bool :=
  (stream.take buffer.length ++ buffer.drop stream.length, stream.drop buffer.length,
    stream.length < buffer.length)

/-- A vector keeps its old bytes when it is resized. -/
def resize (buffer : Bytes) (length : Nat) : Bytes :=
  buffer.take length ++ List.replicate (length - buffer.length) 0

namespace Inbound

def disconnect (inbound : Inbound) : Inbound :=
  { inbound with readHeader := List.replicate 4 0, readBody := [], connected := false }

def readPacket (inbound : Inbound) : Inbound :=
  let (readHeader, stream, error) := asyncRead inbound.readHeader inbound.stream
  let inbound := { inbound with readHeader, stream }
  if error then inbound.disconnect
  else
    let bodyLength := decodeLE readHeader
    if bodyLength = 0 ∨ bodyLength > 100000 then inbound.disconnect
    else
      let (readBody, stream, error) := asyncRead (resize inbound.readBody bodyLength) inbound.stream
      let inbound := { inbound with readBody, stream }
      if error then inbound.disconnect
      else { inbound with handed := inbound.handed ++ [readBody] }

/-- At most the given number of iterations; the loop returns once it has disconnected. -/
def readLoop : Nat → Inbound → Inbound
  | 0, inbound => inbound
  | iterations + 1, inbound =>
      if inbound.connected then readLoop iterations inbound.readPacket else inbound

end Inbound

end CppMMO.Network
