import CppMMO.Lib.Progress
import CppMMO.Network.ConnectionProperties

/-! How a session ends: what its loops still do once the socket is closed. -/

set_option autoImplicit false

namespace CppMMO.Network

open CppMMO.Lib CppMMO.Protocol

variable {Producer : Type}

/-- The steps of `Disconnect` but for the packets it drops. -/
def DisconnectPhase.stepsLeft : DisconnectPhase → Nat
  | .closing => 3
  | .draining => 2
  | .callingBack => 1

/-- The steps a loop takes at most once the socket is closed, but for the packets it drops. -/
def ReadLoop.stepsLeft : ReadLoop → Nat
  | .starting => 8
  | .reading true => 9
  | .reading false => 7
  | .disconnecting phase inTry => phase.stepsLeft + if inTry then 3 else 0
  | .ended => 0

def WriteLoop.stepsLeft : WriteLoop → Nat
  | .checking => 1
  | .dequeuing => 6
  | .sending _ => 5
  | .writing _ _ | .waiting => 4
  | .disconnecting phase => phase.stepsLeft
  | .ended => 0

/-- The callbacks a loop still has to make at most. -/
def ReadLoop.callbacksLeft : ReadLoop → Nat
  | .starting | .reading _ => 2
  | .disconnecting _ inTry => if inTry then 2 else 1
  | .ended => 0

def WriteLoop.callbacksLeft : WriteLoop → Nat
  | .ended => 0
  | _ => 1

namespace Connection

def stepsLeft (connection : Connection Producer) : Nat :=
  connection.readLoop.stepsLeft + connection.writeLoop.stepsLeft

theorem stepsLeft_le (connection : Connection Producer) : connection.stepsLeft ≤ 15 := by
  have read : connection.readLoop.stepsLeft ≤ 9 := by
    rcases connection.readLoop with _ | (_ | _) | ⟨(_ | _ | _), (_ | _)⟩ | _ <;>
      simp [ReadLoop.stepsLeft, DisconnectPhase.stepsLeft]
  have write : connection.writeLoop.stepsLeft ≤ 6 := by
    rcases connection.writeLoop with _ | _ | _ | _ | _ | (_ | _ | _) | _ <;>
      simp [WriteLoop.stepsLeft, DisconnectPhase.stepsLeft]
  exact Nat.add_le_add read write

/-- A step of a loop that is not the dropping of a packet. -/
def Label.advances (label : Label Producer) : Bool := label.loop?.isSome && !label.drains

theorem countP_loop? (labels : List (Label Producer)) :
    labels.countP (·.loop?.isSome) = labels.countP Label.advances + labels.countP Label.drains := by
  induction labels with
  | nil => rfl
  | cons label rest ih =>
      have split : (if label.loop?.isSome = true then 1 else 0) =
          (if label.advances = true then 1 else 0) + if label.drains = true then 1 else 0 := by
        cases label <;> rfl
      rw [List.countP_cons, List.countP_cons, List.countP_cons, ih, split]
      omega

/-- What the loops do once the socket is closed: they use up their steps, and nothing goes out
but a write that is under way. -/
structure Winds (before : Connection Producer) (advances : Bool) (after : Connection Producer) :
    Prop where
  isClosed : after.isOpen = false
  stepsLeft_le : after.stepsLeft + advances.toNat ≤ before.stepsLeft
  wire_prefix : before.wire <+: after.wire
  underWay_prefix : after.wire ++ after.underWay <+: before.wire ++ before.underWay

theorem Winds.of_read {before after : Connection Producer} {advances : Bool}
    (isClosed : after.isOpen = false) (wire : after.wire = before.wire)
    (writeLoop : after.writeLoop = before.writeLoop)
    (left : after.readLoop.stepsLeft + advances.toNat ≤ before.readLoop.stepsLeft) :
    before.Winds advances after := by
  have underWay_eq : after.underWay = before.underWay := by rw [underWay, underWay, writeLoop]
  refine ⟨isClosed, ?_, wire ▸ List.prefix_rfl, by simp [wire, underWay_eq]⟩
  simp only [stepsLeft, writeLoop]
  omega

theorem Winds.of_write {before after : Connection Producer} (isClosed : after.isOpen = false)
    (readLoop : after.readLoop = before.readLoop)
    (left : after.writeLoop.stepsLeft + 1 ≤ before.writeLoop.stepsLeft)
    (wire : before.wire <+: after.wire)
    (underWay : after.wire ++ after.underWay <+: before.wire ++ before.underWay) :
    before.Winds true after := by
  refine ⟨isClosed, ?_, wire, underWay⟩
  simp only [stepsLeft, readLoop, Bool.toNat_true]
  omega

/-- The calls of `Disconnect` and the callbacks they make. -/
structure Accounted (connection : Connection Producer) : Prop where
  closes : connection.ClosesFirst
  callbacks_le : connection.callbacks + connection.readLoop.callbacksLeft +
    connection.writeLoop.callbacksLeft ≤ 3
  calledBack : connection.hasEnded .read = true → 1 ≤ connection.callbacks
  isClosed : ∀ loop, connection.hasEnded loop = true → connection.isOpen = false

theorem Accounted.initial : Accounted ({} : Connection Producer) := by
  refine ⟨?_, Nat.le_refl 3, (fun ended => by cases ended), ?_⟩
  · intro loop phase under
    cases loop <;> cases under
  · intro loop ended
    cases loop <;> cases ended

/-- A step without a callback, after which no loop has ended that had not. -/
theorem Accounted.frame {before after : Connection Producer} (accounted : before.Accounted)
    (closes : after.ClosesFirst) (callbacks : after.callbacks = before.callbacks)
    (isOpen : before.isOpen = false → after.isOpen = false)
    (ends : ∀ loop, after.hasEnded loop = before.hasEnded loop)
    (left : after.readLoop.callbacksLeft + after.writeLoop.callbacksLeft ≤
      before.readLoop.callbacksLeft + before.writeLoop.callbacksLeft) : after.Accounted where
  closes := closes
  callbacks_le := by
    have bound := accounted.callbacks_le
    rw [callbacks]
    omega
  calledBack := by
    rw [callbacks, ends]
    exact accounted.calledBack
  isClosed loop ended := isOpen (accounted.isClosed loop (ends loop ▸ ended))

/-- `WriteLoop` also returns without a call of `Disconnect`, when it finds the socket closed. -/
theorem Accounted.checkOpen {before : Connection Producer} (accounted : before.Accounted)
    (checking : before.writeLoop = .checking) {next : WriteLoop}
    (next_eq : next = if before.isOpen then .dequeuing else .ended)
    (closes : ClosesFirst { before with writeLoop := next }) :
    Accounted { before with writeLoop := next } := by
  rcases Bool.eq_false_or_eq_true before.isOpen with isOpen | isClosed
  · refine accounted.frame closes rfl id (fun loop => ?_) ?_
    · cases loop with
      | read => rfl
      | write => simp [hasEnded, checking, next_eq, isOpen]
    · simp [checking, next_eq, isOpen, WriteLoop.callbacksLeft]
  · refine ⟨closes, ?_, accounted.calledBack, fun _ _ => isClosed⟩
    have bound := accounted.callbacks_le
    simp only [checking, WriteLoop.callbacksLeft] at bound
    simp only [next_eq, isClosed, WriteLoop.callbacksLeft, Bool.false_eq_true, ↓reduceIte]
    omega

theorem Accounted.callBack {before : Connection Producer} (accounted : before.Accounted)
    {loop : SessionLoop} {throws : Bool} (under : before.phase? loop = some .callingBack)
    (closes : ClosesFirst
      { before.afterCallback throws loop with callbacks := before.callbacks + 1 }) :
    Accounted { before.afterCallback throws loop with callbacks := before.callbacks + 1 } := by
  have isClosed := accounted.closes loop .callingBack under (by decide)
  have bound := accounted.callbacks_le
  refine ⟨closes, ?_, fun _ => Nat.le_add_left 1 _, ?_⟩
  · cases loop with
    | read =>
        obtain ⟨inTry, disconnecting⟩ := readLoop_of_phase? under
        rw [disconnecting] at bound
        simp only [afterCallback, disconnecting]
        cases inTry <;> cases throws <;>
          simp only [ReadLoop.afterCallback, ReadLoop.callbacksLeft, Bool.false_eq_true,
            ↓reduceIte] at bound ⊢ <;> omega
    | write =>
        rw [writeLoop_of_phase? under] at bound
        simp only [afterCallback, WriteLoop.callbacksLeft] at bound ⊢
        omega
  · cases loop <;> exact fun _ _ => isClosed

theorem hasEnded_setPhase {connection : Connection Producer} {phase next : DisconnectPhase}
    {loop : SessionLoop} (under : connection.phase? loop = some phase) (other : SessionLoop) :
    (connection.setPhase next loop).hasEnded other = connection.hasEnded other := by
  cases loop with
  | read =>
      obtain ⟨inTry, disconnecting⟩ := readLoop_of_phase? under
      cases other with
      | read => simp [setPhase, hasEnded, disconnecting, ReadLoop.setPhase]
      | write => rfl
  | write =>
      cases other with
      | read => rfl
      | write => simp [setPhase, hasEnded, writeLoop_of_phase? under]

theorem callbacksLeft_setPhase {connection : Connection Producer} {phase next : DisconnectPhase}
    {loop : SessionLoop} (under : connection.phase? loop = some phase) :
    (connection.setPhase next loop).readLoop.callbacksLeft +
      (connection.setPhase next loop).writeLoop.callbacksLeft =
    connection.readLoop.callbacksLeft + connection.writeLoop.callbacksLeft := by
  cases loop with
  | read =>
      obtain ⟨inTry, disconnecting⟩ := readLoop_of_phase? under
      simp [setPhase, disconnecting, ReadLoop.setPhase, ReadLoop.callbacksLeft]
  | write => simp [setPhase, writeLoop_of_phase? under, WriteLoop.callbacksLeft]

variable [DecidableEq Producer]

theorem winds_step {before after : Connection Producer} (isClosed : before.isOpen = false)
    {label : Label Producer} (taken : before.step? label = some after) :
    before.Winds label.advances after := by
  cases step_cases taken with
  | send | dropBatch | sendBatch | drain => exact .of_read isClosed rfl rfl (Nat.le_refl _)
  | startRead was | readDone was =>
      refine .of_read isClosed rfl rfl ?_
      simp [was, isClosed, ReadLoop.stepsLeft, Label.advances, Label.loop?, Label.drains]
  | @readFails throws wasOpen was =>
      refine .of_read isClosed rfl rfl ?_
      cases wasOpen <;> cases throws <;> simp [was, ReadLoop.stepsLeft,
        DisconnectPhase.stepsLeft, Label.advances, Label.loop?, Label.drains]
  | checkOpen checking =>
      refine .of_write isClosed rfl ?_ List.prefix_rfl ?_
      · simp [checking, isClosed, WriteLoop.stepsLeft]
      · simp [underWay, isClosed, checking]
  | dequeue was | findEmpty was | waitDone was | waitFails was =>
      refine .of_write isClosed rfl ?_ List.prefix_rfl ?_
      · simp [was, WriteLoop.stepsLeft, DisconnectPhase.stepsLeft]
      · simp [underWay, was]
  | startWrite sending =>
      refine .of_write isClosed rfl ?_ List.prefix_rfl ?_
      · simp [sending, WriteLoop.stepsLeft]
      · simp [underWay, isClosed, sending]
  | writeDone writing =>
      refine .of_write isClosed rfl ?_ (List.prefix_append _ _) ?_
      · simp [writing, WriteLoop.stepsLeft]
      · simp [underWay, writing]
  | @writeFails _ packetToSend wasOpen writing =>
      refine .of_write isClosed rfl ?_ (List.prefix_append _ _) ?_
      · simp [writing, WriteLoop.stepsLeft, DisconnectPhase.stepsLeft]
      · cases wasOpen <;> simp [underWay, writing, List.take_prefix]
  | @close loop under | @drained loop under =>
      cases loop with
      | read =>
          obtain ⟨inTry, disconnecting⟩ := readLoop_of_phase? under
          refine .of_read ?_ rfl rfl ?_
          · first | rfl | exact isClosed
          · simp only [setPhase, disconnecting, ReadLoop.setPhase, ReadLoop.stepsLeft,
              DisconnectPhase.stepsLeft, Label.advances, Label.loop?, Label.drains,
              Option.isSome_some, Bool.not_false, Bool.and_true, Bool.toNat_true]
            omega
      | write =>
          refine .of_write ?_ rfl ?_ List.prefix_rfl ?_
          · first | rfl | exact isClosed
          · simp [writeLoop_of_phase? under, setPhase, WriteLoop.stepsLeft,
              DisconnectPhase.stepsLeft]
          · simp [underWay, setPhase, writeLoop_of_phase? under]
  | @callBack loop throws under =>
      cases loop with
      | read =>
          obtain ⟨inTry, disconnecting⟩ := readLoop_of_phase? under
          refine .of_read isClosed rfl rfl ?_
          cases inTry <;> cases throws <;>
            simp [afterCallback, disconnecting, ReadLoop.afterCallback, ReadLoop.stepsLeft,
              DisconnectPhase.stepsLeft, Label.advances, Label.loop?, Label.drains]
      | write =>
          refine .of_write isClosed rfl ?_ List.prefix_rfl ?_
          · simp [writeLoop_of_phase? under, afterCallback, WriteLoop.stepsLeft,
              DisconnectPhase.stepsLeft]
          · simp [underWay, afterCallback, writeLoop_of_phase? under]

theorem Accounted.step {before after : Connection Producer} (accounted : before.Accounted)
    {label : Label Producer} (taken : before.step? label = some after) : after.Accounted := by
  have closes := accounted.closes.step taken
  cases step_cases taken with
  | dropBatch => exact accounted
  | send | sendBatch | drain =>
      exact accounted.frame closes rfl id (fun loop => by cases loop <;> rfl) (Nat.le_refl _)
  | startRead was | readDone was =>
      refine accounted.frame closes rfl id (fun loop => ?_) ?_
      · cases loop with
        | read => simp [hasEnded, was]
        | write => rfl
      · simp [was, ReadLoop.callbacksLeft]
  | readFails throws was =>
      refine accounted.frame closes rfl id (fun loop => ?_) ?_
      · cases loop with
        | read => simp [hasEnded, was]
        | write => rfl
      · cases throws <;> simp [was, ReadLoop.callbacksLeft]
  | checkOpen checking => exact accounted.checkOpen checking rfl closes
  | dequeue was | findEmpty was | startWrite was | writeDone was | waitDone was
  | waitFails was =>
      refine accounted.frame closes rfl id (fun loop => ?_) ?_
      · cases loop with
        | read => rfl
        | write => simp [hasEnded, was]
      · simp [was, WriteLoop.callbacksLeft]
  | writeFails _ was =>
      refine accounted.frame closes rfl id (fun loop => ?_) ?_
      · cases loop with
        | read => rfl
        | write => simp [hasEnded, was]
      · simp [was, WriteLoop.callbacksLeft]
  | @close loop under =>
      exact accounted.frame closes (by cases loop <;> rfl) (fun _ => rfl)
        (hasEnded_setPhase under) (callbacksLeft_setPhase under).le
  | @drained loop under =>
      have isOpen : (before.setPhase .callingBack loop).isOpen = before.isOpen := by
        cases loop <;> rfl
      exact accounted.frame closes (by cases loop <;> rfl) (isOpen ▸ id)
        (hasEnded_setPhase under) (callbacksLeft_setPhase under).le
  | callBack _ under => exact accounted.callBack under closes

/-- How a session ends, seen from any moment of its life. -/
structure TearsDown (past : List (Label Producer)) (connection : Connection Producer) : Prop where
  callbacks_le : connection.callbacks ≤ 3
  /-- The session is over only when its socket is closed and the server has been told. -/
  ends : (∀ loop, connection.hasEnded loop = true) →
    connection.isOpen = false ∧ 1 ≤ connection.callbacks
  /-- Once the socket is closed, the loops take a bounded number of steps, whoever still sends,
  and dropping a packet takes one more. -/
  bounded : connection.isOpen = false → ∀ more later, Runs connection more later →
    more.countP (·.loop?.isSome) ≤ 15 + (past ++ more).countP (·.packet?.isSome)
  /-- Neither loop is stuck before it has ended. -/
  able : connection.isOpen = false → ∀ loop, connection.hasEnded loop = false →
    ∃ label, label.loop? = some loop ∧ (connection.step? label).isSome = true
  /-- Nothing goes out any more but the write that is under way. -/
  silent : connection.isOpen = false → ∀ more later, Runs connection more later →
    connection.wire <+: later.wire ∧ later.wire <+: connection.wire ++ connection.underWay

theorem exists_turn {connection : Connection Producer} {loop : SessionLoop}
    (lives : connection.hasEnded loop = false) :
    ∃ label, label.loop? = some loop ∧ (connection.step? label).isSome = true := by
  cases loop with
  | read =>
      cases at_ : connection.readLoop with
      | starting => exact ⟨.startRead, rfl, by simp [step?, at_]⟩
      | reading => exact ⟨.readFails false, rfl, by simp [step?, at_]⟩
      | disconnecting phase =>
          cases phase with
          | closing => exact ⟨.close .read, rfl, by simp [step?, phase?, at_]⟩
          | draining => exact ⟨.drained .read, rfl, by simp [step?, phase?, at_]⟩
          | callingBack => exact ⟨.callBack .read true, rfl, by simp [step?, phase?, at_]⟩
      | ended => simp [hasEnded, at_] at lives
  | write =>
      cases at_ : connection.writeLoop with
      | checking => exact ⟨.checkOpen, rfl, by simp [step?, at_]⟩
      | dequeuing => exact ⟨.findEmpty, rfl, by simp [step?, at_]⟩
      | sending => exact ⟨.startWrite, rfl, by simp [step?, at_]⟩
      | writing => exact ⟨.writeFails 0, rfl, by simp [step?, at_]⟩
      | waiting => exact ⟨.waitDone, rfl, by simp [step?, at_]⟩
      | disconnecting phase =>
          cases phase with
          | closing => exact ⟨.close .write, rfl, by simp [step?, phase?, at_]⟩
          | draining => exact ⟨.drained .write, rfl, by simp [step?, phase?, at_]⟩
          | callingBack => exact ⟨.callBack .write true, rfl, by simp [step?, phase?, at_]⟩
      | ended => simp [hasEnded, at_] at lives

theorem countP_drains_le {labels : List (Label Producer)} {finish : Connection Producer}
    (run : Runs {} labels finish) :
    labels.countP Label.drains ≤ labels.countP (·.packet?.isSome) := by
  obtain ⟨-, order, rest, torn, tracks, drains⟩ := Tracked.of_run run
  have pushed := tracks.merges.subperm.length_le
  rw [List.length_filterMap_eq_countP] at pushed
  exact drains.trans pushed

theorem tears_down {past : List (Label Producer)} {connection : Connection Producer}
    (run : Runs {} past connection) : TearsDown past connection := by
  have accounted : connection.Accounted :=
    run.preserves Accounted (fun before taken => before.step taken) Accounted.initial
  refine ⟨?_, ?_, ?_, fun _ loop lives => exists_turn lives, ?_⟩
  · exact (Nat.le_add_right _ _).trans ((Nat.le_add_right _ _).trans accounted.callbacks_le)
  · intro ended
    exact ⟨accounted.isClosed .read (ended .read), accounted.calledBack (ended .read)⟩
  · intro isClosed more later further
    have steps := further.countP_add_measure_le (·.isOpen = false) stepsLeft Label.advances
      (fun isClosed taken =>
        have winds := winds_step isClosed taken
        ⟨winds.isClosed, winds.stepsLeft_le⟩) isClosed
    have drains := countP_drains_le (run.append further)
    have bound := connection.stepsLeft_le
    rw [List.countP_append] at drains
    rw [countP_loop?]
    omega
  · intro isClosed more later further
    have wound : later.isOpen = false ∧ connection.wire <+: later.wire ∧
        later.wire ++ later.underWay <+: connection.wire ++ connection.underWay := by
      refine further.preserves (fun state => state.isOpen = false ∧
        connection.wire <+: state.wire ∧
        state.wire ++ state.underWay <+: connection.wire ++ connection.underWay) ?_
        ⟨isClosed, List.prefix_rfl, List.prefix_rfl⟩
      rintro before label after ⟨wasClosed, sent, bound⟩ taken
      have winds := winds_step wasClosed taken
      exact ⟨winds.isClosed, sent.trans winds.wire_prefix, winds.underWay_prefix.trans bound⟩
    exact ⟨wound.2.1, (List.prefix_append _ _).trans wound.2.2⟩

/-- The socket is closed while a packet is written and another one waits. -/
theorem tears_down_of_write :
    ∃ connection : Connection Nat, Runs {} (cutOff.take 18) connection ∧
      connection.isOpen = false ∧ connection.underWay = [1, 0, 0, 0, 5] ∧
      TearsDown (cutOff.take 18) connection := by
  obtain ⟨_, connection, created, run, isClosed, underWay_eq⟩ := exists_run_of_execute step?
    (some ({} : Connection Nat)) (cutOff.take 18)
    (fun connection : Connection Nat =>
      connection.isOpen = false ∧ connection.underWay = [1, 0, 0, 0, 5])
    (by decide +kernel)
  cases created
  exact ⟨connection, run, isClosed, underWay_eq, tears_down run⟩

end Connection

end CppMMO.Network
