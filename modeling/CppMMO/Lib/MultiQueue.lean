import Mathlib.Logic.Function.Basic
import Mathlib.Data.List.Basic
import Mathlib.Data.List.Perm.Subperm

/-! Queues that keep the order of each producer and nothing more: one list for each
producer, and the consumer takes the front of any of them. -/

set_option autoImplicit false

namespace CppMMO.Lib

abbrev MultiQueue (Producer α : Type) : Type := Producer → List α

namespace MultiQueue

variable {Producer α : Type}

def empty : MultiQueue Producer α := fun _ => []

variable [DecidableEq Producer]

def enqueue (queue : MultiQueue Producer α) (producer : Producer) (item : α) :
    MultiQueue Producer α :=
  Function.update queue producer (queue producer ++ [item])

def dequeue? (queue : MultiQueue Producer α) (producer : Producer) :
    Option (α × MultiQueue Producer α) :=
  match queue producer with
  | [] => none
  | item :: rest => some (item, Function.update queue producer rest)

def ofProducer (producer : Producer) (items : List (Producer × α)) : List α :=
  (items.filter (·.1 = producer)).map (·.2)

@[simp] theorem ofProducer_append (producer : Producer) (items more : List (Producer × α)) :
    ofProducer producer (items ++ more) = ofProducer producer items ++ ofProducer producer more := by
  simp [ofProducer]

theorem ofProducer_singleton (producer owner : Producer) (item : α) :
    ofProducer producer [(owner, item)] = if owner = producer then [item] else [] := by
  unfold ofProducer
  split <;> simp [*]

theorem ofProducer_cons (producer : Producer) (first : Producer × α) (rest : List (Producer × α)) :
    ofProducer producer (first :: rest) =
      ofProducer producer [first] ++ ofProducer producer rest :=
  ofProducer_append producer [first] rest

theorem ofProducer_map {β : Type} (encode : α → β) (producer : Producer)
    (items : List (Producer × α)) :
    ofProducer producer (items.map (Prod.map id encode)) =
      (ofProducer producer items).map encode := by
  simp [ofProducer, List.filter_map, Function.comp_def]

/-- Each item may be taken apart before or after the items are told apart. -/
theorem ofProducer_flatMap {β : Type} (unpack : α → List β) (producer : Producer)
    (items : List (Producer × α)) :
    ofProducer producer (items.flatMap fun item => (unpack item.2).map (item.1, ·)) =
      (ofProducer producer items).flatMap unpack := by
  induction items with
  | nil => rfl
  | cons first rest ih =>
      obtain ⟨owner, item⟩ := first
      rw [List.flatMap_cons, ofProducer_append, ih, ofProducer_cons, List.flatMap_append,
        ofProducer_singleton]
      congr 1
      by_cases same : owner = producer <;>
        simp [ofProducer, same, List.filter_map, Function.comp_def]

/-- What concerns the items of one producer only. -/
theorem filterMap_ofProducer {β : Type} {select : α → Option β} {owner : Producer}
    {items : List (Producer × α)}
    (others : ∀ producer item, (producer, item) ∈ items → producer ≠ owner → select item = none) :
    (ofProducer owner items).filterMap select = items.filterMap fun item => select item.2 := by
  induction items with
  | nil => rfl
  | cons first rest ih =>
      obtain ⟨producer, item⟩ := first
      have rest_eq := ih fun other item member => others other item (List.mem_cons_of_mem _ member)
      rw [ofProducer_cons, List.filterMap_append, rest_eq, ofProducer_singleton]
      by_cases same : producer = owner
      · cases selected : select item <;> simp [same, selected]
      · simp [same, others producer item List.mem_cons_self same]

/-- Codes in the order of each producer are the codes of items in that order. -/
theorem exists_map_of_prefix {β : Type} {encode : α → β} {codes : List (Producer × β)}
    {plain : MultiQueue Producer α}
    (fronts : ∀ producer, ofProducer producer codes <+: (plain producer).map encode) :
    ∃ items : List (Producer × α), codes = items.map (Prod.map id encode) ∧
      ∀ producer, ofProducer producer items <+: plain producer := by
  induction codes generalizing plain with
  | nil => exact ⟨[], rfl, fun producer => List.nil_prefix⟩
  | cons first codes ih =>
      obtain ⟨owner, code⟩ := first
      have own := fronts owner
      rw [ofProducer_cons, ofProducer_singleton, if_pos rfl, List.singleton_append] at own
      obtain ⟨item, rest, plain_eq, rfl⟩ : ∃ item rest, plain owner = item :: rest ∧
          encode item = code := by
        cases queued : plain owner with
        | nil => simp [queued] at own
        | cons item rest =>
            rw [queued, List.map_cons] at own
            exact ⟨item, rest, rfl, (List.cons_prefix_cons.mp own).1.symm⟩
      obtain ⟨items, rfl, inOrder⟩ := @ih (Function.update plain owner rest) (by
        intro producer
        by_cases same : producer = owner
        · subst same
          rw [plain_eq, List.map_cons] at own
          simpa using (List.cons_prefix_cons.mp own).2
        · have other := fronts producer
          rw [ofProducer_cons, ofProducer_singleton, if_neg (Ne.symm same)] at other
          simpa [Function.update_of_ne same] using other)
      refine ⟨(owner, item) :: items, rfl, fun producer => ?_⟩
      have front := inOrder producer
      rw [ofProducer_cons, ofProducer_singleton]
      by_cases same : owner = producer
      · subst same
        rw [Function.update_self] at front
        rw [if_pos rfl, plain_eq]
        exact List.cons_prefix_cons.mpr ⟨rfl, front⟩
      · rw [Function.update_of_ne (Ne.symm same)] at front
        rwa [if_neg same, List.nil_append]

/-- What went in is what came out, producer by producer, followed by what is queued. -/
def Merges (queue : MultiQueue Producer α) (pushed popped : List (Producer × α)) : Prop :=
  ∀ producer, ofProducer producer pushed = ofProducer producer popped ++ queue producer

theorem Merges.empty : Merges (MultiQueue.empty : MultiQueue Producer α) [] [] := fun _ => rfl

theorem Merges.enqueue {queue : MultiQueue Producer α} {pushed popped : List (Producer × α)}
    (merges : queue.Merges pushed popped) (owner : Producer) (item : α) :
    (queue.enqueue owner item).Merges (pushed ++ [(owner, item)]) popped := by
  intro producer
  rw [ofProducer_append, ofProducer_singleton, merges producer, MultiQueue.enqueue]
  by_cases same : owner = producer
  · subst same
    simp
  · rw [if_neg same, Function.update_of_ne (Ne.symm same), List.append_nil]

theorem Merges.dequeue {queue : MultiQueue Producer α} {pushed popped : List (Producer × α)}
    (merges : queue.Merges pushed popped) {owner : Producer} {item : α} {rest : List α}
    (front : queue owner = item :: rest) :
    Merges (Function.update queue owner rest) pushed (popped ++ [(owner, item)]) := by
  intro producer
  rw [ofProducer_append, ofProducer_singleton, merges producer]
  by_cases same : owner = producer
  · subst same
    simp [front]
  · rw [if_neg same, Function.update_of_ne (Ne.symm same), List.append_nil]

theorem mem_ofProducer_iff (producer : Producer) (items : List (Producer × α)) (item : α) :
    item ∈ ofProducer producer items ↔ (producer, item) ∈ items := by
  simp [ofProducer]

theorem Merges.mem_pushed {queue : MultiQueue Producer α} {pushed popped : List (Producer × α)}
    (merges : queue.Merges pushed popped) {producer : Producer} {item : α}
    (member : (producer, item) ∈ popped) : (producer, item) ∈ pushed := by
  rw [← mem_ofProducer_iff, merges producer]
  exact List.mem_append_left _ ((mem_ofProducer_iff producer popped item).mpr member)

theorem count_ofProducer [DecidableEq α] (producer : Producer) (items : List (Producer × α))
    (item : α) : (ofProducer producer items).count item = items.count (producer, item) := by
  induction items with
  | nil => rfl
  | cons first rest ih =>
      obtain ⟨owner, other⟩ := first
      rw [ofProducer_cons, List.count_append, ofProducer_singleton, ih, List.count_cons, Nat.add_comm]
      by_cases same : owner = producer
      · simp [same, List.count_singleton]
      · simp [same]

/-- Nothing is popped more often than it was pushed. -/
theorem Merges.subperm {queue : MultiQueue Producer α} {pushed popped : List (Producer × α)}
    (merges : queue.Merges pushed popped) : popped.Subperm pushed := by
  classical
  rw [List.subperm_ext_iff]
  rintro ⟨producer, item⟩ -
  rw [← count_ofProducer, ← count_ofProducer, merges producer, List.count_append]
  exact Nat.le_add_right _ _

theorem Merges.perm_of_empty {queue : MultiQueue Producer α} {pushed popped : List (Producer × α)}
    (merges : queue.Merges pushed popped) (empty : ∀ producer, queue producer = []) :
    popped.Perm pushed := by
  classical
  rw [List.perm_iff_count]
  rintro ⟨producer, item⟩
  rw [← count_ofProducer, ← count_ofProducer, merges producer, empty producer, List.append_nil]

/-- As many items popped as pushed leave nothing queued. -/
theorem Merges.empty_of_length_le {queue : MultiQueue Producer α}
    {pushed popped : List (Producer × α)} (merges : queue.Merges pushed popped)
    (enough : pushed.length ≤ popped.length) (producer : Producer) : queue producer = [] := by
  have all : popped.Perm pushed := merges.subperm.perm_of_length_le enough
  have lengths : (ofProducer producer popped).length = (ofProducer producer pushed).length :=
    ((all.filter _).map _).length_eq
  rw [merges producer, List.length_append] at lengths
  exact List.eq_nil_of_length_eq_zero (by omega)

def Encodes {β : Type} (encode : α → β) (queue : MultiQueue Producer β)
    (plain : MultiQueue Producer α) : Prop :=
  ∀ producer, queue producer = (plain producer).map encode

theorem Encodes.enqueue {β : Type} {encode : α → β} {queue : MultiQueue Producer β}
    {plain : MultiQueue Producer α} (encodes : Encodes encode queue plain) (owner : Producer)
    (item : α) : Encodes encode (queue.enqueue owner (encode item)) (plain.enqueue owner item) := by
  intro producer
  unfold MultiQueue.enqueue
  by_cases same : producer = owner
  · subst same
    simp [encodes producer]
  · simp [Function.update_of_ne same, encodes producer]

theorem Encodes.dequeue {β : Type} {encode : α → β} {queue : MultiQueue Producer β}
    {plain : MultiQueue Producer α} (encodes : Encodes encode queue plain) {owner : Producer}
    {code : β} {rest : List β} (front : queue owner = code :: rest) :
    ∃ item items, plain owner = item :: items ∧ encode item = code ∧
      Encodes encode (Function.update queue owner rest) (Function.update plain owner items) := by
  rw [encodes owner] at front
  obtain ⟨item, items, plain_eq, rfl, rfl⟩ := List.map_eq_cons_iff.mp front
  refine ⟨item, items, plain_eq, rfl, fun producer => ?_⟩
  by_cases same : producer = owner
  · subst same
    simp
  · simp [Function.update_of_ne same, encodes producer]

theorem dequeue?_eq_some_iff (queue : MultiQueue Producer α) (producer : Producer) (item : α)
    (after : MultiQueue Producer α) :
    queue.dequeue? producer = some (item, after) ↔
      ∃ rest, queue producer = item :: rest ∧ after = Function.update queue producer rest := by
  unfold dequeue?
  cases queue producer with
  | nil => simp
  | cons first rest => simp [eq_comm]

end MultiQueue

end CppMMO.Lib
