import CppMMO.Lib.Ownership
import CppMMO.Utils.MemoryPool

/-! Who owns a pooled object: at any time one queue or one wrapper. -/

set_option autoImplicit false

namespace CppMMO.Utils

open CppMMO.Lib

/-- Where a pointer to an object can be. -/
inductive Place where
  | queue (pool : PoolId)
  | wrapper (wrapper : WrapperId)
deriving DecidableEq

def Wrapper.pointers (held : Option Wrapper) : List ObjectId := (held.bind (·.object)).toList

namespace Memory

variable {Element : Type}

/-- The pointers kept at a place. -/
def keeps (memory : Memory Element) : Place → List ObjectId
  | .queue pool => (memory.pools pool).elim [] (·.available)
  | .wrapper wrapper => Wrapper.pointers (memory.wrappers wrapper)

def Live (memory : Memory Element) (object : ObjectId) : Prop :=
  (memory.objects object).isSome = true

@[simp] theorem keeps_setObject (memory : Memory Element) (object : ObjectId)
    (value : Option (PooledObject Element)) :
    (memory.setObject object value).keeps = memory.keeps := by
  funext place
  cases place <;> rfl

@[simp] theorem keeps_setPool (memory : Memory Element) (pool : PoolId) (value : PoolState) :
    (memory.setPool pool value).keeps =
      Function.update memory.keeps (.queue pool) value.available := by
  funext place
  cases place with
  | queue other =>
      by_cases same : other = pool
      · subst same
        simp [keeps, setPool]
      · simp [keeps, setPool, same]
  | wrapper => simp [keeps, setPool]

@[simp] theorem keeps_setWrapper (memory : Memory Element) (wrapper : WrapperId)
    (value : Option Wrapper) :
    (memory.setWrapper wrapper value).keeps =
      Function.update memory.keeps (.wrapper wrapper) (Wrapper.pointers value) := by
  funext place
  cases place with
  | queue => simp [keeps, setWrapper]
  | wrapper other =>
      by_cases same : other = wrapper
      · subst same
        simp [keeps, setWrapper]
      · simp [keeps, setWrapper, same]

theorem live_setObject_iff (memory : Memory Element) (object other : ObjectId)
    (value : Option (PooledObject Element)) :
    (memory.setObject object value).Live other ↔
      if other = object then value.isSome = true else memory.Live other := by
  change (Function.update memory.objects object value other).isSome = true ↔ _
  rw [Function.update_apply]
  split <;> rfl

theorem live_clear_iff (memory : Memory Element) (object other : ObjectId) :
    (memory.clear object).Live other ↔ memory.Live other := by
  rw [clear, live_setObject_iff]
  split
  · next same => simp [same, Live]
  · rfl

/-- What every call keeps. `loose` is an object that a call has in its hands. -/
structure Consistent (memory : Memory Element) (loose : Option ObjectId) : Prop where
  exclusive : Exclusive memory.keeps fun object => memory.Live object ∧ loose ≠ some object
  sized : ∀ {pool found}, memory.pools pool = some found →
    found.available.length ≤ found.poolSize
  sourced : ∀ {wrapper held object}, memory.wrappers wrapper = some held →
    held.object = some object → ∃ pool, held.pool = some pool ∧
      memory.acquiredFrom object = some pool ∧ (memory.pools pool).isSome = true
  fresh : ∀ {object}, memory.Live object → object < memory.nextObject

namespace Consistent

theorem empty : ({} : Memory Element).Consistent none := by
  refine ⟨?_, fun found => ?_, fun found => ?_, fun alive => ?_⟩
  · refine Exclusive.nowhere.congr ?_ fun object => by simp [Live]
    funext place
    cases place <;> rfl
  · cases found
  · cases found
  · cases alive

variable {memory : Memory Element}

/-- A new object, in nobody's queue or wrapper yet. -/
theorem createObject (consistent : memory.Consistent none) (capacity : Nat) :
    (memory.createObject capacity).1.Consistent (some (memory.createObject capacity).2) ∧
      (memory.createObject capacity).1.objects (memory.createObject capacity).2 =
        some { capacity } := by
  have dead : ¬ memory.Live memory.nextObject := fun alive =>
    absurd (consistent.fresh alive) (Nat.lt_irrefl _)
  have live_iff : ∀ object, (memory.createObject capacity).1.Live object ↔
      object = memory.nextObject ∨ memory.Live object := by
    intro object
    change (memory.setObject memory.nextObject (some { capacity })).Live object ↔ _
    rw [live_setObject_iff]
    split <;> simp [*]
  refine ⟨⟨consistent.exclusive.congr ?_ fun object => ?_, consistent.sized,
    consistent.sourced, fun {object} alive => ?_⟩, ?_⟩
  · exact keeps_setObject memory memory.nextObject (some { capacity })
  · rw [live_iff]
    simp only [Memory.createObject, ne_eq, Option.some.injEq, reduceCtorEq, not_false_eq_true,
      and_true]
    constructor
    · rintro ⟨rfl | alive, different⟩
      · exact absurd rfl different
      · exact alive
    · exact fun alive => ⟨.inr alive, fun same => dead (same ▸ alive)⟩
  · rcases (live_iff object).mp alive with rfl | alive
    · exact Nat.lt_succ_self _
    · exact Nat.lt_succ_of_lt (consistent.fresh alive)
  · exact Function.update_self ..

/-- Objects and wrappers stay as they are while one queue changes. -/
theorem setPool {loose kept : Option ObjectId} (consistent : memory.Consistent loose)
    {pool : PoolId} {value : PoolState}
    (exclusive : Exclusive (Function.update memory.keeps (.queue pool) value.available)
      fun object => memory.Live object ∧ kept ≠ some object)
    (fits : value.available.length ≤ value.poolSize) :
    (memory.setPool pool value).Consistent kept := by
  refine ⟨?_, fun {other found} present => ?_, fun located pointed => ?_, consistent.fresh⟩
  · rw [keeps_setPool]
    exact exclusive
  · change Function.update memory.pools pool (some value) other = some found at present
    rw [Function.update_apply] at present
    split at present
    · cases present
      exact fits
    · exact consistent.sized present
  · obtain ⟨source, points, acquired, exists_⟩ := consistent.sourced located pointed
    refine ⟨source, points, acquired, ?_⟩
    change (Function.update memory.pools pool (some value) source).isSome = true
    rw [Function.update_apply]
    split
    · rfl
    · exact exists_

/-- A loose object joins a queue. -/
theorem enqueue {object : ObjectId} (consistent : memory.Consistent (some object))
    (alive : memory.Live object) {pool : PoolId} {found : PoolState}
    (present : memory.pools pool = some found)
    (room : found.available.length < found.poolSize) :
    (memory.setPool pool { found with available := found.available ++ [object] }).Consistent
      none := by
  have kept : memory.keeps (.queue pool) = found.available := by simp [keeps, present]
  have loose : ¬ (memory.Live object ∧ some object ≠ some object) := by simp
  have added := consistent.exclusive.put loose (.queue pool)
  rw [kept] at added
  refine consistent.setPool (added.congr rfl fun other => ?_) ?_
  · by_cases same : other = object
    · subst same
      simp [alive]
    · simp [same, Ne.symm same]
  · rw [List.length_append]
    exact room

/-- The front of a queue comes loose. -/
theorem dequeue {object : ObjectId} {rest : List ObjectId} (consistent : memory.Consistent none)
    {pool : PoolId} {found : PoolState} (present : memory.pools pool = some found)
    (front : found.available = object :: rest) :
    memory.Live object ∧
      (memory.setPool pool { found with available := rest }).Consistent (some object) := by
  have kept : memory.keeps (.queue pool) = object :: rest := by simp [keeps, present, front]
  have inQueue : object ∈ memory.keeps (.queue pool) := by simp [kept]
  have alive := (consistent.exclusive.live_iff.mpr ⟨_, inQueue⟩).1
  have dropped := consistent.exclusive.drop inQueue
  rw [kept, List.erase_cons_head] at dropped
  have fits := consistent.sized present
  rw [front] at fits
  refine ⟨alive, consistent.setPool (dropped.congr rfl fun other => ?_) (Nat.le_of_succ_le fits)⟩
  simp [eq_comm]

theorem fill {pool : PoolId} (count : Nat) {found : PoolState} {memory : Memory Element}
    (consistent : memory.Consistent none) (present : memory.pools pool = some found)
    (room : found.available.length + count ≤ found.poolSize) :
    (Memory.fill pool count found memory).Consistent none := by
  induction count generalizing found memory with
  | zero => exact consistent
  | succ count ih =>
      obtain ⟨created, born⟩ := consistent.createObject found.initialCapacity
      have alive : (memory.createObject found.initialCapacity).1.Live
          (memory.createObject found.initialCapacity).2 := by
        rw [Live, born]
        rfl
      have queued := created.enqueue alive present (by omega)
      refine ih queued (Function.update_self ..) ?_
      simp only [List.length_append, List.length_singleton]
      omega

theorem createPool {pool : PoolId} {poolSize initialCapacity : Nat} {after : Memory Element}
    (consistent : memory.Consistent none)
    (created : memory.createPool pool poolSize initialCapacity = some after) :
    after.Consistent none := by
  unfold Memory.createPool at created
  split at created
  · cases created
  · next absent =>
      cases created
      have kept : memory.keeps (.queue pool) = [] := by simp [keeps, absent]
      have opened : (memory.setPool pool { poolSize, initialCapacity }).Consistent none := by
        refine consistent.setPool (consistent.exclusive.congr ?_ fun _ => Iff.rfl) (Nat.zero_le _)
        rw [← kept, Function.update_eq_self]
      exact opened.fill poolSize (Function.update_self ..) (by simp)

/-- Writing to an object, or clearing it, moves no pointer. -/
theorem setContents {loose : Option ObjectId} (consistent : memory.Consistent loose)
    (object : ObjectId) (contents : List Element) :
    (memory.setObject object ((memory.objects object).map ({ · with contents }))).Consistent
      loose := by
  have live_iff : ∀ other, (memory.setObject object
      ((memory.objects object).map ({ · with contents }))).Live other ↔ memory.Live other := by
    intro other
    rw [live_setObject_iff]
    split
    · next same => simp [same, Live]
    · rfl
  refine ⟨consistent.exclusive.congr (keeps_setObject ..) fun other => ?_, consistent.sized,
    consistent.sourced, fun alive => consistent.fresh ((live_iff _).mp alive)⟩
  rw [live_iff]

/-- A loose object is destroyed. -/
theorem destroy {object : ObjectId} (consistent : memory.Consistent (some object)) :
    (memory.setObject object none).Consistent none := by
  refine ⟨consistent.exclusive.congr (keeps_setObject ..) fun other => ?_, consistent.sized,
    consistent.sourced, fun {other} alive => ?_⟩
  · rw [live_setObject_iff]
    by_cases same : other = object
    · simp [same]
    · simp [same, Ne.symm same]
  · rw [live_setObject_iff] at alive
    split at alive
    · cases alive
    · exact consistent.fresh alive

theorem mem_keeps_wrapper {memory : Memory Element} {wrapper : WrapperId} {held : Wrapper}
    {object : ObjectId} (located : memory.wrappers wrapper = some held)
    (pointed : held.object = some object) : object ∈ memory.keeps (.wrapper wrapper) := by
  simp [keeps, Wrapper.pointers, located, pointed]

/-- No wrapper holds a loose object, so its source may change. -/
theorem mark {object : ObjectId} (consistent : memory.Consistent (some object)) (pool : PoolId) :
    Consistent { memory with
      acquiredFrom := Function.update memory.acquiredFrom object (some pool) } (some object) := by
  refine ⟨consistent.exclusive, consistent.sized, fun {wrapper held other} located pointed => ?_,
    consistent.fresh⟩
  obtain ⟨source, points, acquired, exists_⟩ := consistent.sourced located pointed
  have kept := consistent.exclusive.live_iff.mpr ⟨_, mem_keeps_wrapper located pointed⟩
  have different : other ≠ object := fun same => kept.2 (by rw [same])
  exact ⟨source, points, (Function.update_of_ne different ..).trans acquired, exists_⟩

/-- What `Acquire` hands out: a cleared object that nobody else has. -/
theorem acquire {pool : PoolId} {after : Memory Element} {object : ObjectId}
    (consistent : memory.Consistent none) (acquired : memory.acquire pool = some (after, object)) :
    after.Consistent (some object) ∧
      (∃ value, after.objects object = some value ∧ value.contents = []) ∧
      after.acquiredFrom object = some pool ∧ (after.pools pool).isSome = true ∧
      after.wrappers = memory.wrappers := by
  obtain ⟨found, present, same⟩ := Option.map_eq_some_iff.mp acquired
  cases queue : found.available with
  | nil =>
      simp only [queue] at same
      cases same
      obtain ⟨created, born⟩ := consistent.createObject found.initialCapacity
      exact ⟨created.mark pool, ⟨_, born, rfl⟩, Function.update_self ..,
        Option.isSome_of_eq_some present, rfl⟩
  | cons first rest =>
      simp only [queue] at same
      cases same
      obtain ⟨alive, dequeued⟩ := consistent.dequeue present queue
      obtain ⟨value, exists_⟩ := Option.isSome_iff_exists.mp alive
      refine ⟨(dequeued.setContents object []).mark pool, ⟨{ value with contents := [] }, ?_, rfl⟩,
        Function.update_self .., ?_, rfl⟩
      · change Function.update memory.objects object
          ((memory.objects object).map ({ · with contents := [] })) object = _
        rw [Function.update_self, exists_]
        rfl
      · change (Function.update memory.pools pool (some { found with available := rest })
          pool).isSome = true
        rw [Function.update_self]
        rfl

/-- `Release` takes a loose object into the queue, or destroys it when the queue is full. -/
theorem release {pool : PoolId} {after : Memory Element} {object : ObjectId}
    (consistent : memory.Consistent (some object)) (alive : memory.Live object)
    (released : memory.release pool object = some after) :
    after.Consistent none ∧ after.wrappers = memory.wrappers := by
  obtain ⟨found, present, rfl⟩ := Option.map_eq_some_iff.mp released
  split
  · next room =>
      have cleared := consistent.setContents object []
      exact ⟨cleared.enqueue ((live_clear_iff memory object object).mpr alive) present room, rfl⟩
  · exact ⟨consistent.destroy, rfl⟩

/-! ### Wrappers -/

/-- Queues and objects stay as they are while one wrapper changes. -/
theorem setWrapper {loose kept : Option ObjectId} (consistent : memory.Consistent loose)
    {wrapper : WrapperId} {value : Option Wrapper}
    (exclusive : Exclusive
      (Function.update memory.keeps (.wrapper wrapper) (Wrapper.pointers value))
      fun object => memory.Live object ∧ kept ≠ some object)
    (sourced : ∀ {held object}, value = some held → held.object = some object →
      ∃ pool, held.pool = some pool ∧ memory.acquiredFrom object = some pool ∧
        (memory.pools pool).isSome = true) :
    (memory.setWrapper wrapper value).Consistent kept := by
  refine ⟨?_, consistent.sized, fun {other held object} located pointed => ?_, consistent.fresh⟩
  · rw [keeps_setWrapper]
    exact exclusive
  · change Function.update memory.wrappers wrapper value other = some held at located
    rw [Function.update_apply] at located
    split at located
    · exact sourced located pointed
    · exact consistent.sourced located pointed

/-- A wrapper without an object is replaced by another one without an object. -/
theorem replaceEmpty (consistent : memory.Consistent none) {wrapper : WrapperId}
    {value : Option Wrapper} (before : Wrapper.pointers (memory.wrappers wrapper) = [])
    (now : Wrapper.pointers value = []) : (memory.setWrapper wrapper value).Consistent none := by
  have unchanged : Function.update memory.keeps (.wrapper wrapper) (Wrapper.pointers value) =
      memory.keeps := by
    rw [now, ← before]
    exact Function.update_eq_self ..
  refine consistent.setWrapper (unchanged.symm ▸ consistent.exclusive) fun located pointed => ?_
  simp [Wrapper.pointers, located, pointed] at now

/-- A wrapper's object comes loose. -/
theorem loosen (consistent : memory.Consistent none) {wrapper : WrapperId} {held : Wrapper}
    {object : ObjectId} (located : memory.wrappers wrapper = some held)
    (pointed : held.object = some object) (value : Option Wrapper)
    (now : Wrapper.pointers value = []) :
    memory.Live object ∧ (memory.setWrapper wrapper value).Consistent (some object) := by
  have member := mem_keeps_wrapper located pointed
  have kept : memory.keeps (.wrapper wrapper) = [object] := by
    simp [keeps, Wrapper.pointers, located, pointed]
  have alive := (consistent.exclusive.live_iff.mpr ⟨_, member⟩).1
  have dropped := consistent.exclusive.drop member
  rw [kept, List.erase_cons_head] at dropped
  refine ⟨alive, consistent.setWrapper (dropped.congr (by rw [now]) fun other => ?_)
    fun located pointed => ?_⟩
  · simp [eq_comm]
  · simp [Wrapper.pointers, located, pointed] at now

/-- A loose object goes into a wrapper that has none. -/
theorem hold {object : ObjectId} {pool : PoolId} (consistent : memory.Consistent (some object))
    (alive : memory.Live object) (acquired : memory.acquiredFrom object = some pool)
    (present : (memory.pools pool).isSome = true) {wrapper : WrapperId}
    (before : Wrapper.pointers (memory.wrappers wrapper) = []) :
    (memory.setWrapper wrapper (some { pool := some pool, object := some object })).Consistent
      none := by
  have kept : memory.keeps (.wrapper wrapper) = [] := before
  have loose : ¬ (memory.Live object ∧ some object ≠ some object) := by simp
  have added := consistent.exclusive.put loose (.wrapper wrapper)
  rw [kept, List.nil_append] at added
  refine consistent.setWrapper (added.congr rfl fun other => ?_) fun located pointed => ?_
  · by_cases same : other = object
    · subst same
      simp [alive]
    · simp [same, Ne.symm same]
  · cases located
    cases pointed
    exact ⟨pool, rfl, acquired, present⟩

theorem construct {wrapper : WrapperId} {pool : PoolId} {after : Memory Element}
    (consistent : memory.Consistent none) (constructed : memory.construct wrapper pool = some after) :
    after.Consistent none ∧ ∃ object value, after.keeps (.wrapper wrapper) = [object] ∧
      after.objects object = some value ∧ value.contents = [] := by
  unfold Memory.construct at constructed
  split at constructed
  · cases constructed
  · next absent =>
      obtain ⟨⟨acquiredMemory, object⟩, acquired, rfl⟩ := Option.map_eq_some_iff.mp constructed
      obtain ⟨loose, ⟨value, exists_, cleared⟩, source, present, sameWrappers⟩ :=
        consistent.acquire acquired
      have before : Wrapper.pointers (acquiredMemory.wrappers wrapper) = [] := by
        rw [sameWrappers, absent]
        rfl
      have alive : acquiredMemory.Live object := Option.isSome_of_eq_some exists_
      refine ⟨loose.hold alive source present before, object, value, ?_, exists_, cleared⟩
      rw [keeps_setWrapper, Function.update_self]
      rfl

theorem giveUp {wrapper : WrapperId} {held : Wrapper} {after : Memory Element}
    (consistent : memory.Consistent none) (located : memory.wrappers wrapper = some held)
    (givenUp : memory.giveUp wrapper held = some after) :
    after.Consistent none ∧ Wrapper.pointers (after.wrappers wrapper) = [] ∧
      ∀ other, other ≠ wrapper → after.wrappers other = memory.wrappers other := by
  obtain ⟨heldPool, heldObject⟩ := held
  cases heldObject with
  | none =>
      cases givenUp
      exact ⟨consistent, by rw [located]; rfl, fun _ _ => rfl⟩
  | some object =>
      obtain ⟨pool, points, -, -⟩ := consistent.sourced located rfl
      cases points
      obtain ⟨alive, loose⟩ :=
        consistent.loosen located rfl (some { pool := some pool, object := none }) rfl
      obtain ⟨released, sameWrappers⟩ := loose.release alive givenUp
      refine ⟨released, ?_, fun other different => ?_⟩
      · rw [sameWrappers]
        change Wrapper.pointers (Function.update memory.wrappers wrapper _ wrapper) = []
        rw [Function.update_self]
        rfl
      · rw [sameWrappers]
        exact Function.update_of_ne different ..

/-- The members of one wrapper move to another one that has no object. -/
theorem take {wrapper other : WrapperId} {members : Wrapper} (consistent : memory.Consistent none)
    (different : wrapper ≠ other) (located : memory.wrappers other = some members)
    (before : Wrapper.pointers (memory.wrappers wrapper) = []) :
    (memory.take wrapper other members).Consistent none := by
  have reordered : memory.take wrapper other members =
      (memory.setWrapper other (some {})).setWrapper wrapper (some members) := by
    simp only [Memory.take, Memory.setWrapper]
    rw [Function.update_comm different]
  have stillEmpty : Wrapper.pointers ((memory.setWrapper other (some {})).wrappers wrapper) = [] := by
    change Wrapper.pointers (Function.update memory.wrappers other (some {}) wrapper) = []
    rw [Function.update_of_ne different]
    exact before
  rw [reordered]
  obtain ⟨memberPool, memberObject⟩ := members
  cases memberObject with
  | none =>
      have emptied : (memory.setWrapper other (some {})).Consistent none :=
        consistent.replaceEmpty (by rw [located]; rfl) rfl
      exact emptied.replaceEmpty stillEmpty rfl
  | some object =>
      obtain ⟨pool, points, acquired, present⟩ := consistent.sourced located rfl
      cases points
      obtain ⟨alive, loose⟩ := consistent.loosen located rfl (some {}) rfl
      exact loose.hold alive acquired present stillEmpty

theorem moveConstruct {wrapper other : WrapperId} {after : Memory Element}
    (consistent : memory.Consistent none)
    (constructed : memory.moveConstruct wrapper other = some after) : after.Consistent none := by
  unfold Memory.moveConstruct at constructed
  split at constructed
  · cases constructed
  · next absent =>
      obtain ⟨members, located, rfl⟩ := Option.map_eq_some_iff.mp constructed
      refine consistent.take ?_ located (by rw [absent]; rfl)
      rintro rfl
      rw [absent] at located
      cases located

theorem moveAssign {wrapper other : WrapperId} {after : Memory Element}
    (consistent : memory.Consistent none)
    (assigned : memory.moveAssign wrapper other = some after) : after.Consistent none := by
  obtain ⟨held, located, assigned⟩ := Option.bind_eq_some_iff.mp assigned
  obtain ⟨members, locatedOther, assigned⟩ := Option.bind_eq_some_iff.mp assigned
  split at assigned
  · cases assigned
    exact consistent
  · next different =>
      obtain ⟨between, givenUp, rfl⟩ := Option.map_eq_some_iff.mp assigned
      obtain ⟨emptied, before, others⟩ := consistent.giveUp located givenUp
      exact emptied.take different ((others other (Ne.symm different)).trans locatedOther) before

theorem destruct {wrapper : WrapperId} {after : Memory Element}
    (consistent : memory.Consistent none) (destroyed : memory.destruct wrapper = some after) :
    after.Consistent none := by
  obtain ⟨held, located, destroyed⟩ := Option.bind_eq_some_iff.mp destroyed
  obtain ⟨between, givenUp, rfl⟩ := Option.map_eq_some_iff.mp destroyed
  obtain ⟨emptied, before, -⟩ := consistent.giveUp located givenUp
  exact emptied.replaceEmpty before rfl

theorem step {label : Label Element} {after : Memory Element} (consistent : memory.Consistent none)
    (taken : memory.step label = some after) : after.Consistent none := by
  cases label with
  | createPool pool poolSize initialCapacity => exact consistent.createPool taken
  | construct wrapper pool => exact (consistent.construct taken).1
  | moveConstruct wrapper other => exact consistent.moveConstruct taken
  | moveAssign wrapper other => exact consistent.moveAssign taken
  | destruct wrapper => exact consistent.destruct taken
  | write wrapper contents =>
      obtain ⟨object, -, rfl⟩ := Option.map_eq_some_iff.mp taken
      exact consistent.setContents object contents

/-- A wrapper can always let go of its object: the pool it points to is there. -/
theorem exists_giveUp {wrapper : WrapperId} {held : Wrapper} (consistent : memory.Consistent none)
    (located : memory.wrappers wrapper = some held) :
    (memory.giveUp wrapper held).isSome = true := by
  obtain ⟨heldPool, heldObject⟩ := held
  cases heldObject with
  | none => rfl
  | some object =>
      obtain ⟨pool, points, -, present⟩ := consistent.sourced located rfl
      cases points
      simp [Memory.giveUp, Memory.release, Memory.setWrapper, present]

end Consistent

/-- A label that only needs its wrappers: destruction and both moves. -/
def Moves (memory : Memory Element) : Label Element → Prop
  | .destruct wrapper => (memory.wrappers wrapper).isSome = true
  | .moveAssign wrapper other =>
      (memory.wrappers wrapper).isSome = true ∧ (memory.wrappers other).isSome = true
  | .moveConstruct wrapper other =>
      (memory.wrappers wrapper).isSome = false ∧ (memory.wrappers other).isSome = true
  | .createPool _ _ _ | .construct _ _ | .write _ _ => False

/-- Every object is at one place and there once, a wrapper knows where its object came from,
queues keep to their size, and what `Acquire` hands out is empty. -/
structure Owned (memory : Memory Element) : Prop where
  one_place : ∀ object, memory.Live object → ∃! place, object ∈ memory.keeps place
  once : ∀ place, (memory.keeps place).Nodup
  kept_live : ∀ place, ∀ object ∈ memory.keeps place, memory.Live object
  pool_of_held : ∀ wrapper held object, memory.wrappers wrapper = some held →
    held.object = some object → held.pool.isSome = true ∧ held.pool = memory.acquiredFrom object
  queue_le : ∀ pool found, memory.pools pool = some found →
    found.available.length ≤ found.poolSize
  handed_out_cleared : ∀ wrapper pool after, memory.construct wrapper pool = some after →
    ∃ object value, after.keeps (.wrapper wrapper) = [object] ∧
      after.objects object = some value ∧ value.contents = []
  moves_complete : ∀ label, memory.Moves label → (memory.step label).isSome = true
  none_held : (∀ wrapper, memory.wrappers wrapper = none) →
    ∀ object, memory.Live object → ∃ pool, object ∈ memory.keeps (.queue pool)

theorem Consistent.moves_complete {memory : Memory Element} (consistent : memory.Consistent none)
    {label : Label Element} (moves : memory.Moves label) : (memory.step label).isSome = true := by
  cases label with
  | destruct wrapper =>
      obtain ⟨held, located⟩ := Option.isSome_iff_exists.mp moves
      simp [Memory.step, Memory.destruct, located, consistent.exists_giveUp located]
  | moveAssign wrapper other =>
      obtain ⟨held, located⟩ := Option.isSome_iff_exists.mp moves.1
      obtain ⟨members, locatedOther⟩ := Option.isSome_iff_exists.mp moves.2
      simp only [Memory.step, Memory.moveAssign, located, locatedOther, Option.bind_some]
      split
      · rfl
      · rw [Option.isSome_map]
        exact consistent.exists_giveUp located
  | moveConstruct wrapper other =>
      obtain ⟨members, locatedOther⟩ := Option.isSome_iff_exists.mp moves.2
      have absent : memory.wrappers wrapper = none := by simpa using moves.1
      simp [Memory.step, Memory.moveConstruct, absent, locatedOther]
  | createPool | construct | write => cases moves

theorem Consistent.owned {memory : Memory Element} (consistent : memory.Consistent none) :
    memory.Owned where
  one_place _ alive := consistent.exclusive.existsUnique ⟨alive, by simp⟩
  once := consistent.exclusive.nodup
  kept_live place _ member := (consistent.exclusive.live_iff.mpr ⟨place, member⟩).1
  pool_of_held wrapper held object located pointed := by
    obtain ⟨pool, points, acquired, -⟩ := consistent.sourced located pointed
    exact ⟨by rw [points]; rfl, points.trans acquired.symm⟩
  queue_le _ _ present := consistent.sized present
  handed_out_cleared _ _ _ constructed := (consistent.construct constructed).2
  moves_complete _ moves := consistent.moves_complete moves
  none_held gone object alive := by
    obtain ⟨place, member⟩ := consistent.exclusive.live_iff.mp ⟨alive, by simp⟩
    cases place with
    | queue pool => exact ⟨pool, member⟩
    | wrapper wrapper => simp [keeps, Wrapper.pointers, gone wrapper] at member

theorem owned_of_run {memory : Memory Element} {labels : List (Label Element)}
    (run : Run (Taken Memory.step) {} labels memory) : memory.Owned :=
  (run.preserves (fun memory : Memory Element => memory.Consistent none)
    (fun consistent taken => consistent.step taken) .empty).owned

end Memory

/-- For builders and for vectors, after any calls in any order. -/
theorem pooled_objects_owned :
    (∀ (labels : List (Memory.Label UInt8)) (memory : Memory UInt8),
      Run (Taken PooledFlatBufferBuilder.step) {} labels memory → memory.Owned) ∧
    ∀ (labels : List (Memory.Label UInt32)) (memory : Memory UInt32),
      Run (Taken PooledPlayerStateVector.step) {} labels memory → memory.Owned :=
  ⟨fun _ _ run => Memory.owned_of_run run, fun _ _ run => Memory.owned_of_run run⟩

/-- Two pools of one builder each: the first is exhausted, a wrapper is assigned a builder of the
second one, and the builder created in between finds its pool full. -/
theorem pooled_objects_owned_between_pools :
    ∃ memory, Run (Taken PooledFlatBufferBuilder.step) {}
        [.createPool 0 1 1024, .createPool 1 1 1024, .construct 0 0, .construct 1 1,
          .construct 2 0, .write 0 [7], .moveAssign 0 1, .moveAssign 0 0, .moveConstruct 3 0,
          .destruct 0, .destruct 1, .destruct 2, .destruct 3] memory ∧
      memory.keeps (.queue 0) = [0] ∧ memory.keeps (.queue 1) = [1] ∧
      memory.objects 2 = none ∧ memory.Owned := by
  obtain ⟨start, memory, started, run, kept⟩ :=
    exists_run_of_execute PooledFlatBufferBuilder.step (some {})
      [.createPool 0 1 1024, .createPool 1 1 1024, .construct 0 0, .construct 1 1,
        .construct 2 0, .write 0 [7], .moveAssign 0 1, .moveAssign 0 0, .moveConstruct 3 0,
        .destruct 0, .destruct 1, .destruct 2, .destruct 3]
      (fun memory => memory.keeps (.queue 0) = [0] ∧ memory.keeps (.queue 1) = [1] ∧
        memory.objects 2 = none) (by decide +kernel)
  cases started
  exact ⟨memory, run, kept.1, kept.2.1, kept.2.2, pooled_objects_owned.1 _ _ run⟩

end CppMMO.Utils
