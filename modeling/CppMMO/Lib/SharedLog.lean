import Mathlib.Data.List.Induction
import Mathlib.Data.List.TakeWhile

/-! A log that only grows, the part of it between two positions, and readers that are given
its entries one after the other from the time on at which they joined. -/

set_option autoImplicit false

namespace CppMMO.Lib

variable {Entry : Type}

/-- The entries from one position up to another. -/
def segment (log : List Entry) (first last : Nat) : List Entry := (log.take last).drop first

@[simp] theorem segment_self (log : List Entry) (position : Nat) :
    segment log position position = [] :=
  List.drop_eq_nil_of_le (List.length_take_le position log)

/-- What is appended later is beyond the reader. -/
theorem segment_append {log : List Entry} {last : Nat} (within : last ≤ log.length) (first : Nat)
    (more : List Entry) : segment (log ++ more) first last = segment log first last := by
  rw [segment, List.take_append_of_le_length within]
  rfl

/-- The reader moves on by one entry. -/
theorem segment_succ {log : List Entry} {first last : Nat} (ordered : first ≤ last) {entry : Entry}
    (found : log[last]? = some entry) :
    segment log first (last + 1) = segment log first last ++ [entry] := by
  obtain ⟨inside, rfl⟩ := List.getElem?_eq_some_iff.mp found
  have reached : first ≤ (log.take last).length := by
    rw [List.length_take]
    omega
  rw [segment, List.take_succ_eq_append_getElem inside, List.drop_append_of_le_length reached]
  rfl

/-- Two readings one after the other are one reading. -/
theorem segment_append_segment (log : List Entry) {first middle last : Nat}
    (ordered : first ≤ middle) (orderedLater : middle ≤ last) :
    segment log first middle ++ segment log middle last = segment log first last := by
  have front : log.take middle = (log.take last).take middle := by
    rw [List.take_take, Nat.min_eq_left orderedLater]
  have back : (log.take last).drop middle = ((log.take last).drop first).drop (middle - first) := by
    rw [List.drop_drop, Nat.add_sub_cancel' ordered]
  rw [segment, segment, segment, front, back, List.drop_take, List.take_append_drop]

theorem length_segment {log : List Entry} {last : Nat} (within : last ≤ log.length) (first : Nat) :
    (segment log first last).length = last - first := by
  rw [segment, List.length_drop, List.length_take, Nat.min_eq_left within]

/-- What the labels of a run do to a log: which entry they write, which entry they give to which
reader, and which reader they let join. -/
structure SharedLog (Label Reader Entry : Type) where
  written? : Label → Option Entry
  given? : Label → Option (Reader × Entry)
  joins? : Label → Option Reader

namespace SharedLog

variable {Label Reader : Type} [DecidableEq Reader] (log : SharedLog Label Reader Entry)

def written (labels : List Label) : List Entry := labels.filterMap log.written?

def givenTo (reader : Reader) (labels : List Label) : List Entry :=
  ((labels.filterMap log.given?).filter (·.1 = reader)).map (·.2)

/-- Where in the log the reader begins. -/
def joinedAt (reader : Reader) (labels : List Label) : Nat :=
  (log.written (labels.takeWhile fun label => log.joins? label ≠ some reader)).length

def position (reader : Reader) (labels : List Label) : Nat :=
  log.joinedAt reader labels + (log.givenTo reader labels).length

/-- What is given to a reader is each time the entry at its position. -/
def InOrder (labels : List Label) : Prop :=
  ∀ index : Fin labels.length, ∀ given ∈ log.given? labels[index],
    (log.written (labels.take index))[log.position given.1 (labels.take index)]? = some given.2

instance [DecidableEq Entry] (labels : List Label) : Decidable (log.InOrder labels) :=
  inferInstanceAs (Decidable (∀ index : Fin labels.length, ∀ given ∈ log.given? labels[index], _))

variable {log}

theorem InOrder.snoc {front : List Label} {label : Label} (inOrder : log.InOrder (front ++ [label])) :
    log.InOrder front ∧ ∀ given ∈ log.given? label,
      (log.written front)[log.position given.1 front]? = some given.2 := by
  constructor
  · intro index given isGiven
    have inside : index < (front ++ [label]).length := by
      rw [List.length_append]
      omega
    have next := inOrder ⟨index, inside⟩ given
    have shorter : (front ++ [label]).take index = front.take index :=
      List.take_append_of_le_length (Nat.le_of_lt index.isLt)
    simp only [Fin.getElem_fin, List.getElem_append_left index.isLt, shorter] at next
    exact next isGiven
  · intro given isGiven
    have next := inOrder ⟨front.length, by simp⟩ given
    simp only [Fin.getElem_fin, List.getElem_concat_length, List.take_left'] at next
    exact next isGiven

omit [DecidableEq Reader] in
theorem written_snoc (front : List Label) (label : Label) :
    log.written (front ++ [label]) = log.written front ++ (log.written? label).toList := by
  cases made : log.written? label <;> simp [written, made]

theorem givenTo_snoc_of_given {reader : Reader} {front : List Label} {label : Label} {entry : Entry}
    (given : log.given? label = some (reader, entry)) :
    log.givenTo reader (front ++ [label]) = log.givenTo reader front ++ [entry] := by
  simp [givenTo, given]

theorem givenTo_snoc_of_not_given {reader : Reader} {front : List Label} {label : Label}
    (others : ∀ entry, log.given? label ≠ some (reader, entry)) :
    log.givenTo reader (front ++ [label]) = log.givenTo reader front := by
  cases given : log.given? label with
  | none => simp [givenTo, given]
  | some pair =>
      obtain ⟨other, entry⟩ := pair
      have isOther : other ≠ reader := by
        rintro rfl
        exact others entry given
      simp [givenTo, given, isOther]

theorem joinedAt_le (reader : Reader) (labels : List Label) :
    log.joinedAt reader labels ≤ (log.written labels).length := by
  have front := (List.takeWhile_prefix (l := labels) fun label => log.joins? label ≠ some reader)
  exact (front.sublist.filterMap log.written?).length_le

theorem joinedAt_le_position (reader : Reader) (labels : List Label) :
    log.joinedAt reader labels ≤ log.position reader labels :=
  Nat.le_add_right _ _

theorem joinedAt_of_not_joined {reader : Reader} {labels : List Label}
    (outside : ∀ label ∈ labels, log.joins? label ≠ some reader) :
    log.joinedAt reader labels = (log.written labels).length := by
  rw [joinedAt, List.takeWhile_eq_self_iff.mpr]
  simpa using outside

theorem joinedAt_append_of_joined {reader : Reader} {front : List Label} {label : Label}
    (member : label ∈ front) (joins : log.joins? label = some reader) (back : List Label) :
    log.joinedAt reader (front ++ back) = log.joinedAt reader front := by
  have stops : (front.takeWhile fun label => log.joins? label ≠ some reader).length ≠
      front.length := by
    intro whole
    have all := List.takeWhile_eq_self_iff.mp
      ((List.takeWhile_prefix (l := front) fun label => log.joins? label ≠ some reader).eq_of_length whole)
    simpa [joins] using all label member
  rw [joinedAt, List.takeWhile_append, if_neg stops]
  rfl

/-- What a reader is given is the part of the log from where it joined up to its position. -/
theorem InOrder.givenTo_eq_segment {labels : List Label} (inOrder : log.InOrder labels)
    (reader : Reader) :
    log.position reader labels ≤ (log.written labels).length ∧
      log.givenTo reader labels =
        segment (log.written labels) (log.joinedAt reader labels) (log.position reader labels) := by
  induction labels using List.reverseRecOn with
  | nil => exact ⟨le_rfl, rfl⟩
  | append_singleton front label ih =>
      obtain ⟨before, next⟩ := inOrder.snoc
      obtain ⟨within, same⟩ := ih before
      by_cases joined : ∃ other ∈ front, log.joins? other = some reader
      · obtain ⟨other, member, joins⟩ := joined
        have sameStart := joinedAt_append_of_joined member joins [label]
        by_cases given : ∃ entry, log.given? label = some (reader, entry)
        · obtain ⟨entry, given⟩ := given
          have found : (log.written front)[log.position reader front]? = some entry := next _ given
          have inside : log.position reader front + 1 ≤ (log.written front).length :=
            (List.getElem?_eq_some_iff.mp found).1
          have moved : log.position reader (front ++ [label]) = log.position reader front + 1 := by
            rw [position, sameStart, givenTo_snoc_of_given given, List.length_append, ← Nat.add_assoc]
            rfl
          rw [moved, sameStart, written_snoc, givenTo_snoc_of_given given, segment_append inside,
            segment_succ (joinedAt_le_position reader front) found, ← same, List.length_append]
          exact ⟨inside.trans (Nat.le_add_right _ _), rfl⟩
        · have others := not_exists.mp given
          have stays : log.position reader (front ++ [label]) = log.position reader front := by
            rw [position, sameStart, givenTo_snoc_of_not_given others]
            rfl
          rw [stays, sameStart, written_snoc, givenTo_snoc_of_not_given others,
            segment_append within, List.length_append]
          exact ⟨within.trans (Nat.le_add_right _ _), same⟩
      · -- a reader that has not joined is at the end of the log, where it is given nothing
        have atEnd : log.joinedAt reader front = (log.written front).length :=
          joinedAt_of_not_joined fun other member joins => joined ⟨other, member, joins⟩
        have nothing : log.givenTo reader front = [] := by
          rw [position, atEnd] at within
          exact List.eq_nil_of_length_eq_zero (by omega)
        have others : ∀ entry, log.given? label ≠ some (reader, entry) := by
          intro entry given
          have inside := (List.getElem?_eq_some_iff.mp (next _ given)).1
          rw [position, atEnd] at inside
          omega
        rw [position, givenTo_snoc_of_not_given others, nothing]
        exact ⟨joinedAt_le reader _, (segment_self _ _).symm⟩

/-- What a reader is given from some time on goes on where it was. -/
theorem InOrder.givenTo_back_eq_segment {front back : List Label}
    (inOrder : log.InOrder (front ++ back)) (reader : Reader) {first : Nat}
    (here : first = log.joinedAt reader (front ++ back) + (log.givenTo reader front).length) :
    first + (log.givenTo reader back).length ≤ (log.written (front ++ back)).length ∧
      log.givenTo reader back = segment (log.written (front ++ back)) first
        (first + (log.givenTo reader back).length) := by
  obtain ⟨within, same⟩ := inOrder.givenTo_eq_segment reader
  have parts : log.givenTo reader (front ++ back) =
      log.givenTo reader front ++ log.givenTo reader back := by
    simp [givenTo, List.filterMap_append]
  have last : log.position reader (front ++ back) = first + (log.givenTo reader back).length := by
    rw [position, parts, List.length_append, here, Nat.add_assoc]
  rw [last] at within same
  refine ⟨within, ?_⟩
  rw [parts, ← segment_append_segment _ (here ▸ Nat.le_add_right _ _) (Nat.le_add_right first _)] at same
  refine (List.append_inj same ?_).2
  rw [length_segment (Nat.le_trans (Nat.le_add_right first _) within), here, Nat.add_sub_cancel_left]

end SharedLog

end CppMMO.Lib
