import Mathlib.Algebra.Group.Nat.Defs
import Mathlib.Data.List.Basic

/-! Length-prefixed frames: a little-endian length of fixed width, then that many
bytes. -/

set_option autoImplicit false

namespace CppMMO.Lib

/-- The low `width` bytes of a number, least significant first. -/
def encodeLE : Nat → Nat → List UInt8
  | 0, _ => []
  | width + 1, value => UInt8.ofNat (value % 256) :: encodeLE width (value / 256)

def decodeLE : List UInt8 → Nat
  | [] => 0
  | byte :: rest => byte.toNat + 256 * decodeLE rest

@[simp] theorem length_encodeLE (width value : Nat) : (encodeLE width value).length = width := by
  induction width generalizing value with
  | zero => rfl
  | succ width ih => simp [encodeLE, ih]

theorem decodeLE_encodeLE {width value : Nat} (fits : value < 256 ^ width) :
    decodeLE (encodeLE width value) = value := by
  induction width generalizing value with
  | zero =>
      have isZero : value = 0 := by simpa using fits
      rw [isZero]
      rfl
  | succ width ih =>
      have quotientFits : value / 256 < 256 ^ width :=
        Nat.div_lt_of_lt_mul (by rwa [Nat.pow_succ, Nat.mul_comm] at fits)
      have lowByte : (UInt8.ofNat (value % 256)).toNat = value % 256 := by simp
      rw [encodeLE, decodeLE, lowByte, ih quotientFits]
      exact Nat.mod_add_div value 256

theorem encodeLE_decodeLE (bytes : List UInt8) :
    encodeLE bytes.length (decodeLE bytes) = bytes := by
  induction bytes with
  | nil => rfl
  | cons byte rest ih =>
      have small : byte.toNat < 256 := byte.toNat_lt
      have low : (byte.toNat + 256 * decodeLE rest) % 256 = byte.toNat := by omega
      have high : (byte.toNat + 256 * decodeLE rest) / 256 = decodeLE rest := by omega
      rw [List.length_cons, decodeLE, encodeLE, low, high, ih, UInt8.ofNat_toNat]

theorem decodeLE_lt (bytes : List UInt8) : decodeLE bytes < 256 ^ bytes.length := by
  induction bytes with
  | nil => exact Nat.one_pos
  | cons byte rest ih =>
      have small : byte.toNat < 256 := byte.toNat_lt
      rw [decodeLE, List.length_cons, Nat.pow_succ]
      omega

def frame (width : Nat) (body : List UInt8) : List UInt8 := encodeLE width body.length ++ body

theorem length_frame (width : Nat) (body : List UInt8) :
    (frame width body).length = width + body.length := by
  simp [frame]

def takeFrame? (width : Nat) (stream : List UInt8) : Option (List UInt8 × List UInt8) :=
  let length := decodeLE (stream.take width)
  let rest := stream.drop width
  if stream.length < width ∨ rest.length < length then none
  else some (rest.take length, rest.drop length)

theorem decodeLE_take_frame {width : Nat} {body : List UInt8} (fits : body.length < 256 ^ width)
    (rest : List UInt8) : decodeLE ((frame width body ++ rest).take width) = body.length := by
  have header : (frame width body ++ rest).take width = encodeLE width body.length := by
    simp [frame, List.take_left']
  rw [header, decodeLE_encodeLE fits]

theorem drop_frame (width : Nat) (body rest : List UInt8) :
    (frame width body ++ rest).drop width = body ++ rest := by
  simp [frame, List.drop_left']

theorem takeFrame?_frame_append {width : Nat} {body : List UInt8}
    (fits : body.length < 256 ^ width) (rest : List UInt8) :
    takeFrame? width (frame width body ++ rest) = some (body, rest) := by
  unfold takeFrame?
  rw [decodeLE_take_frame fits, drop_frame]
  have complete : ¬ ((frame width body ++ rest).length < width ∨
      (body ++ rest).length < body.length) := by
    simp only [List.length_append, length_frame]
    omega
  simp only [complete, ↓reduceIte, List.take_left, List.drop_left]

theorem eq_frame_append_of_takeFrame? {width : Nat} {stream body rest : List UInt8}
    (taken : takeFrame? width stream = some (body, rest)) :
    stream = frame width body ++ rest := by
  simp only [takeFrame?] at taken
  split at taken
  · cases taken
  · next complete =>
      obtain ⟨longEnough, bodyThere⟩ := not_or.mp complete
      simp only [Option.some.injEq, Prod.mk.injEq] at taken
      obtain ⟨rfl, rfl⟩ := taken
      have headerLength : (stream.take width).length = width := by
        rw [List.length_take]
        omega
      have bodyLength : ((stream.drop width).take (decodeLE (stream.take width))).length =
          decodeLE (stream.take width) := by
        rw [List.length_take]
        omega
      have header := encodeLE_decodeLE (stream.take width)
      rw [headerLength] at header
      rw [frame, bodyLength, header, List.append_assoc, List.take_append_drop,
        List.take_append_drop]

theorem lt_of_takeFrame? {width : Nat} {stream body rest : List UInt8}
    (taken : takeFrame? width stream = some (body, rest)) : body.length < 256 ^ width := by
  simp only [takeFrame?] at taken
  split at taken
  · cases taken
  · next complete =>
      simp only [Option.some.injEq, Prod.mk.injEq] at taken
      obtain ⟨rfl, -⟩ := taken
      have header := decodeLE_lt (stream.take width)
      rw [List.length_take_of_le (Nat.not_lt.mp (not_or.mp complete).1)] at header
      exact Nat.lt_of_le_of_lt (List.length_take_le _ _) header

theorem frame_append_inj {width : Nat} {body other rest tail : List UInt8}
    (fits : body.length < 256 ^ width) (otherFits : other.length < 256 ^ width)
    (same : frame width body ++ rest = frame width other ++ tail) : body = other ∧ rest = tail := by
  have left := takeFrame?_frame_append fits rest
  rw [same, takeFrame?_frame_append otherFits] at left
  cases left
  exact ⟨rfl, rfl⟩

def cutFrames (width : Nat) : Nat → List UInt8 → List (List UInt8) × List UInt8
  | 0, stream => ([], stream)
  | fuel + 1, stream =>
      match takeFrame? width stream with
      | none => ([], stream)
      | some (body, rest) =>
          let (bodies, left) := cutFrames width fuel rest
          (body :: bodies, left)

/-- Cut a whole stream: with a header of at least one byte it has no more frames than
bytes. -/
def cut (width : Nat) (stream : List UInt8) : List (List UInt8) × List UInt8 :=
  cutFrames width stream.length stream

theorem cutFrames_flatMap_frame {width : Nat} {bodies : List (List UInt8)}
    (fits : ∀ body ∈ bodies, body.length < 256 ^ width) {rest : List UInt8}
    (torn : takeFrame? width rest = none) {fuel : Nat} (enough : bodies.length ≤ fuel) :
    cutFrames width fuel (bodies.flatMap (frame width) ++ rest) = (bodies, rest) := by
  induction bodies generalizing fuel with
  | nil => cases fuel <;> simp [cutFrames, torn]
  | cons body bodies ih =>
      cases fuel with
      | zero => simp at enough
      | succ fuel =>
          have bodyFits := fits body List.mem_cons_self
          have ihRest := ih (fun other member => fits other (List.mem_cons_of_mem body member))
            (Nat.le_of_succ_le_succ enough)
          rw [List.flatMap_cons, List.append_assoc, cutFrames, takeFrame?_frame_append bodyFits]
          simp only [ihRest]

theorem length_le_length_flatMap_frame {width : Nat} (positive : 0 < width)
    (bodies : List (List UInt8)) : bodies.length ≤ (bodies.flatMap (frame width)).length := by
  induction bodies with
  | nil => exact Nat.le_refl 0
  | cons body bodies ih =>
      rw [List.flatMap_cons, List.length_append, length_frame, List.length_cons]
      omega

theorem takeFrame?_nil {width : Nat} (positive : 0 < width) : takeFrame? width [] = none := by
  simp [takeFrame?, positive]

theorem cut_flatMap_frame {width : Nat} (positive : 0 < width) {bodies : List (List UInt8)}
    (fits : ∀ body ∈ bodies, body.length < 256 ^ width) :
    cut width (bodies.flatMap (frame width)) = (bodies, []) := by
  have whole := cutFrames_flatMap_frame fits (takeFrame?_nil positive)
    (length_le_length_flatMap_frame positive bodies)
  rwa [List.append_nil] at whole

theorem cutFrames_spec {width : Nat} (positive : 0 < width) {fuel : Nat} {stream : List UInt8}
    (enough : stream.length ≤ fuel) :
    (cutFrames width fuel stream).1.flatMap (frame width) ++ (cutFrames width fuel stream).2 =
        stream ∧
      takeFrame? width (cutFrames width fuel stream).2 = none ∧
      ∀ body ∈ (cutFrames width fuel stream).1, body.length < 256 ^ width := by
  induction fuel generalizing stream with
  | zero =>
      obtain rfl := List.length_eq_zero_iff.mp (Nat.le_zero.mp enough)
      exact ⟨rfl, takeFrame?_nil positive, by simp [cutFrames]⟩
  | succ fuel ih =>
      rw [cutFrames]
      split
      · next torn => exact ⟨rfl, torn, by simp⟩
      · next body rest taken =>
          have stream_eq := eq_frame_append_of_takeFrame? taken
          have shorter : rest.length ≤ fuel := by
            rw [stream_eq, List.length_append, length_frame] at enough
            omega
          obtain ⟨whole, torn, fits⟩ := ih shorter
          refine ⟨?_, torn, ?_⟩
          · rw [List.flatMap_cons, List.append_assoc, whole, stream_eq]
          · intro other member
            rcases List.mem_cons.mp member with rfl | later
            · exact lt_of_takeFrame? taken
            · exact fits other later

/-- Whole frames are cut off one by one, whatever comes after them. -/
theorem cut_flatMap_frame_append {width : Nat} (positive : 0 < width)
    {bodies : List (List UInt8)} (fits : ∀ body ∈ bodies, body.length < 256 ^ width)
    (rest : List UInt8) :
    cut width (bodies.flatMap (frame width) ++ rest) =
      (bodies ++ (cut width rest).1, (cut width rest).2) := by
  obtain ⟨whole, torn, restFits⟩ := cutFrames_spec positive (Nat.le_refl rest.length)
  have allFit : ∀ body ∈ bodies ++ (cut width rest).1, body.length < 256 ^ width := by
    intro body member
    rcases List.mem_append.mp member with early | late
    · exact fits body early
    · exact restFits body late
  have split : bodies.flatMap (frame width) ++ rest =
      (bodies ++ (cut width rest).1).flatMap (frame width) ++ (cut width rest).2 := by
    rw [List.flatMap_append, List.append_assoc, cut, whole]
  rw [split]
  have enough := length_le_length_flatMap_frame positive (bodies ++ (cut width rest).1)
  exact cutFrames_flatMap_frame allFit torn
    (Nat.le_trans enough (List.length_append ▸ Nat.le_add_right _ _))

/-- Frames that are followed by no further acceptable one are the longest prefix of
acceptable frames: every other such prefix is a prefix of it. -/
theorem prefix_of_maximal {width : Nat} {accepts : List UInt8 → Prop}
    (fits : ∀ {body}, accepts body → body.length < 256 ^ width)
    {bodies others : List (List UInt8)} {rest tail : List UInt8}
    (accepted : ∀ body ∈ bodies, accepts body) (othersAccepted : ∀ body ∈ others, accepts body)
    (maximal : ∀ body after, accepts body → rest ≠ frame width body ++ after)
    (same : bodies.flatMap (frame width) ++ rest = others.flatMap (frame width) ++ tail) :
    others <+: bodies := by
  induction others generalizing bodies with
  | nil => exact List.nil_prefix
  | cons other others ih =>
      have otherAccepted := othersAccepted other List.mem_cons_self
      rw [List.flatMap_cons, List.append_assoc] at same
      cases bodies with
      | nil => exact absurd same (maximal other _ otherAccepted)
      | cons body bodies =>
          rw [List.flatMap_cons, List.append_assoc] at same
          obtain ⟨rfl, restSame⟩ :=
            frame_append_inj (fits (accepted body List.mem_cons_self)) (fits otherAccepted) same
          refine (List.prefix_cons_inj body).mpr (ih ?_ ?_ restSame)
          · exact fun next member => accepted next (List.mem_cons_of_mem body member)
          · exact fun next member => othersAccepted next (List.mem_cons_of_mem body member)

/-- A front of a stream of frames is cut into a front of the bodies. -/
theorem cut_of_isFront {width : Nat} (positive : 0 < width) {bodies : List (List UInt8)}
    (fits : ∀ body ∈ bodies, body.length < 256 ^ width) {front : List UInt8}
    (isFront : front <+: bodies.flatMap (frame width)) : (cut width front).1 <+: bodies := by
  obtain ⟨back, whole⟩ := isFront
  obtain ⟨front_eq, -, frontFits⟩ := cutFrames_spec positive (Nat.le_refl front.length)
  have same : bodies.flatMap (frame width) ++ [] =
      (cut width front).1.flatMap (frame width) ++ ((cut width front).2 ++ back) := by
    rw [List.append_nil, ← List.append_assoc, cut, front_eq, whole]
  refine prefix_of_maximal id fits frontFits ?_ same
  intro body after _ empty
  have length := congrArg List.length empty
  rw [List.length_append, length_frame, List.length_nil] at length
  omega

end CppMMO.Lib
