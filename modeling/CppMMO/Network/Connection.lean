import CppMMO.Lib.Transition
import CppMMO.Network.Session

/-! A session over its life: `ReadLoop` and `WriteLoop`, each with its own calls of `Disconnect`,
beside threads that send. Nothing else calls `Disconnect`; what the reads hand on is `Inbound`.

An asynchronous operation fails if it begins on a closed socket. One that is under way when the
socket is closed may still succeed. The timer has no expiry, so a wait is over at once. -/

set_option autoImplicit false

namespace CppMMO.Network

open CppMMO.Lib CppMMO.Protocol

/-- A call of `Disconnect` before it closes the socket, while it drains the write queue, and
before the callback. -/
inductive DisconnectPhase where
  | closing
  | draining
  | callingBack
deriving DecidableEq

/-- `isOpen` is whether the operation began on an open socket, `inTry` whether the call stands in
the `try` block: if its callback throws, the handler calls `Disconnect` once more. -/
inductive ReadLoop where
  | starting
  | reading (isOpen : Bool)
  | disconnecting (phase : DisconnectPhase) (inTry : Bool)
  | ended
deriving DecidableEq

def ReadLoop.setPhase (phase : DisconnectPhase) : ReadLoop → ReadLoop
  | .disconnecting _ inTry => .disconnecting phase inTry
  | other => other

def ReadLoop.afterCallback (throws : Bool) : ReadLoop → ReadLoop
  | .disconnecting _ true => if throws then .disconnecting .closing false else .ended
  | _ => .ended

/-- All calls of `WriteLoop` stand in its handlers. -/
inductive WriteLoop where
  | checking
  | dequeuing
  | sending (packetToSend : Bytes)
  | writing (packetToSend : Bytes) (isOpen : Bool)
  | waiting
  | disconnecting (phase : DisconnectPhase)
  | ended
deriving DecidableEq

inductive SessionLoop where
  | read
  | write
deriving DecidableEq

/-- `wire` is what the socket took, `callbacks` how often the disconnected callback ran. -/
structure Connection (Producer : Type) where
  isOpen : Bool := true
  writeQueue : MultiQueue Producer Bytes := .empty
  readLoop : ReadLoop := .starting
  writeLoop : WriteLoop := .checking
  wire : Bytes := []
  callbacks : Nat := 0

namespace Connection

/-- A read is one of a header or of a body; it also fails for a header out of range, and throws
for an exception in between. A write that fails may have sent the front of its packet. The
callback throws where it asks the closed socket for its endpoint, for the log. -/
inductive Label (Producer : Type) where
  | send (producer : Producer) (data : Bytes)
  | sendBatch (producer : Producer) (packets : List Bytes)
  | startRead
  | readDone
  | readFails (throws : Bool)
  | checkOpen
  | dequeue (producer : Producer)
  | findEmpty
  | startWrite
  | writeDone
  | writeFails (written : Nat)
  | waitDone
  | waitFails
  | close (loop : SessionLoop)
  | drain (loop : SessionLoop) (producer : Producer)
  | drained (loop : SessionLoop)
  | callBack (loop : SessionLoop) (throws : Bool)

variable {Producer : Type}

/-- Where the loop's call of `Disconnect` is. -/
def phase? (connection : Connection Producer) : SessionLoop → Option DisconnectPhase
  | .read =>
      match connection.readLoop with
      | .disconnecting phase _ => some phase
      | _ => none
  | .write =>
      match connection.writeLoop with
      | .disconnecting phase => some phase
      | _ => none

def setPhase (connection : Connection Producer) (phase : DisconnectPhase) :
    SessionLoop → Connection Producer
  | .read => { connection with readLoop := connection.readLoop.setPhase phase }
  | .write => { connection with writeLoop := .disconnecting phase }

/-- What a loop goes on with after the callback. -/
def afterCallback (connection : Connection Producer) (throws : Bool) :
    SessionLoop → Connection Producer
  | .read => { connection with readLoop := connection.readLoop.afterCallback throws }
  | .write => { connection with writeLoop := .ended }

/-- `try_dequeue` may come back empty-handed while others enqueue. -/
def step? [DecidableEq Producer] (connection : Connection Producer) :
    Label Producer → Option (Connection Producer)
  | .send producer data =>
      some { connection with
        writeQueue := connection.writeQueue.enqueue producer (sendPacket data) }
  | .sendBatch producer packets =>
      match batchPacket? packets with
      | none => some connection
      | some batchPacket =>
          some { connection with writeQueue := connection.writeQueue.enqueue producer batchPacket }
  | .startRead =>
      match connection.readLoop with
      | .starting => some { connection with readLoop := .reading connection.isOpen }
      | _ => none
  | .readDone =>
      match connection.readLoop with
      | .reading true => some { connection with readLoop := .starting }
      | _ => none
  | .readFails throws =>
      match connection.readLoop with
      | .reading _ => some { connection with readLoop := .disconnecting .closing !throws }
      | _ => none
  | .checkOpen =>
      match connection.writeLoop with
      | .checking =>
          some { connection with writeLoop := if connection.isOpen then .dequeuing else .ended }
      | _ => none
  | .dequeue producer =>
      match connection.writeLoop with
      | .dequeuing =>
          (connection.writeQueue.dequeue? producer).map fun (packetToSend, writeQueue) =>
            { connection with writeQueue, writeLoop := .sending packetToSend }
      | _ => none
  | .findEmpty =>
      match connection.writeLoop with
      | .dequeuing => some { connection with writeLoop := .waiting }
      | _ => none
  | .startWrite =>
      match connection.writeLoop with
      | .sending packetToSend =>
          some { connection with writeLoop := .writing packetToSend connection.isOpen }
      | _ => none
  | .writeDone =>
      match connection.writeLoop with
      | .writing packetToSend true =>
          some { connection with writeLoop := .checking, wire := connection.wire ++ packetToSend }
      | _ => none
  | .writeFails written =>
      match connection.writeLoop with
      | .writing packetToSend isOpen =>
          some { connection with
            writeLoop := .disconnecting .closing
            wire := connection.wire ++ if isOpen then packetToSend.take written else [] }
      | _ => none
  | .waitDone =>
      match connection.writeLoop with
      | .waiting => some { connection with writeLoop := .checking }
      | _ => none
  | .waitFails =>
      match connection.writeLoop with
      | .waiting => some { connection with writeLoop := .disconnecting .closing }
      | _ => none
  | .close loop =>
      if connection.phase? loop = some .closing then
        some { connection.setPhase .draining loop with isOpen := false }
      else none
  | .drain loop producer =>
      if connection.phase? loop = some .draining then
        (connection.writeQueue.dequeue? producer).map fun (_, writeQueue) =>
          { connection with writeQueue }
      else none
  | .drained loop =>
      if connection.phase? loop = some .draining then
        some (connection.setPhase .callingBack loop)
      else none
  | .callBack loop throws =>
      if connection.phase? loop = some .callingBack then
        some { connection.afterCallback throws loop with callbacks := connection.callbacks + 1 }
      else none

abbrev Runs [DecidableEq Producer] (start : Connection Producer) (labels : List (Label Producer))
    (finish : Connection Producer) : Prop :=
  Run (Taken step?) start labels finish

/-- What a call puts on the write queue. -/
def Label.packet? : Label Producer → Option (Producer × Bytes)
  | .send producer data => some (producer, sendPacket data)
  | .sendBatch producer packets => (batchPacket? packets).map (producer, ·)
  | _ => none

/-- The packets of a call that it does not drop. -/
def Label.bodies : Label Producer → List (Producer × Bytes)
  | .send producer data => [(producer, data)]
  | .sendBatch producer packets =>
      if (batchPacket? packets).isSome then packets.map (producer, ·) else []
  | _ => []

/-- The loop whose step it is. -/
def Label.loop? : Label Producer → Option SessionLoop
  | .send _ _ | .sendBatch _ _ => none
  | .startRead | .readDone | .readFails _ => some .read
  | .checkOpen | .dequeue _ | .findEmpty | .startWrite | .writeDone | .writeFails _ | .waitDone
  | .waitFails => some .write
  | .close loop | .drain loop _ | .drained loop | .callBack loop _ => some loop

def hasEnded (connection : Connection Producer) : SessionLoop → Bool
  | .read => connection.readLoop = .ended
  | .write => connection.writeLoop = .ended

/-- The packet of a write that began before the socket was closed. -/
def underWay (connection : Connection Producer) : Bytes :=
  match connection.writeLoop with
  | .writing packetToSend true => packetToSend
  | _ => []

end Connection

end CppMMO.Network
