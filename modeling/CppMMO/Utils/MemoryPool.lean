import CppMMO.Lib.Transition
import Mathlib.Logic.Function.Basic

/-! `FlatBufferBuilderPool` and `PlayerStateVectorPool` with their wrappers: the two classes
are the same over different objects. A pointer is an address; an object that its last owner
lets go of is gone.

Every call takes the pool's mutex, so calls of several threads come in some order. -/

set_option autoImplicit false

namespace CppMMO.Utils

open CppMMO.Lib

abbrev ObjectId := Nat
abbrev PoolId := Nat
abbrev WrapperId := Nat

/-- A builder or a vector: what was written to it, and the room it was created with. -/
structure PooledObject (Element : Type) where
  contents : List Element := []
  capacity : Nat
deriving DecidableEq

structure PoolState where
  poolSize : Nat
  initialCapacity : Nat
  available : List ObjectId := []
deriving DecidableEq

structure Wrapper where
  pool : Option PoolId := none
  object : Option ObjectId := none
deriving DecidableEq

/-- Everything the wrappers and pools share. `acquiredFrom` is for reference only: the pool
whose `Acquire` handed the object out last. -/
structure Memory (Element : Type) where
  objects : ObjectId → Option (PooledObject Element) := fun _ => none
  nextObject : ObjectId := 0
  pools : PoolId → Option PoolState := fun _ => none
  wrappers : WrapperId → Option Wrapper := fun _ => none
  acquiredFrom : ObjectId → Option PoolId := fun _ => none

namespace Memory

variable {Element : Type}

def setObject (memory : Memory Element) (object : ObjectId)
    (value : Option (PooledObject Element)) : Memory Element :=
  { memory with objects := Function.update memory.objects object value }

def setPool (memory : Memory Element) (pool : PoolId) (value : PoolState) : Memory Element :=
  { memory with pools := Function.update memory.pools pool (some value) }

def setWrapper (memory : Memory Element) (wrapper : WrapperId) (value : Option Wrapper) :
    Memory Element :=
  { memory with wrappers := Function.update memory.wrappers wrapper value }

/-- `CreateBuilder` and `CreateVector`. -/
def createObject (memory : Memory Element) (capacity : Nat) : Memory Element × ObjectId :=
  ({ memory.setObject memory.nextObject (some { capacity }) with
      nextObject := memory.nextObject + 1 }, memory.nextObject)

def clear (memory : Memory Element) (object : ObjectId) : Memory Element :=
  memory.setObject object ((memory.objects object).map ({ · with contents := [] }))

/-- The loop of the pool's constructor. -/
def fill (pool : PoolId) : Nat → PoolState → Memory Element → Memory Element
  | 0, _, memory => memory
  | count + 1, found, memory =>
      let (memory, object) := memory.createObject found.initialCapacity
      let found := { found with available := found.available ++ [object] }
      fill pool count found (memory.setPool pool found)

def createPool (memory : Memory Element) (pool : PoolId) (poolSize initialCapacity : Nat) :
    Option (Memory Element) :=
  match memory.pools pool with
  | some _ => none
  | none =>
      let found : PoolState := { poolSize, initialCapacity }
      some (fill pool poolSize found (memory.setPool pool found))

def acquire (memory : Memory Element) (pool : PoolId) : Option (Memory Element × ObjectId) :=
  (memory.pools pool).map fun found =>
    let (memory, object) := match found.available with
      | object :: rest => ((memory.setPool pool { found with available := rest }).clear object, object)
      | [] => memory.createObject found.initialCapacity
    ({ memory with acquiredFrom := Function.update memory.acquiredFrom object (some pool) }, object)

/-- An object that finds the pool full is destroyed. -/
def release (memory : Memory Element) (pool : PoolId) (object : ObjectId) :
    Option (Memory Element) :=
  (memory.pools pool).map fun found =>
    if found.available.length < found.poolSize then
      (memory.clear object).setPool pool { found with available := found.available ++ [object] }
    else memory.setObject object none

/-- A wrapper lets go of its object, when it is destroyed or overwritten: the object goes back to
the pool, and without a pool it is destroyed with its `unique_ptr`. -/
def giveUp (memory : Memory Element) (wrapper : WrapperId) (held : Wrapper) :
    Option (Memory Element) :=
  match held.object with
  | none => some memory
  | some object =>
      let memory := memory.setWrapper wrapper (some { held with object := none })
      match held.pool with
      | some pool => memory.release pool object
      | none => some (memory.setObject object none)

def construct (memory : Memory Element) (wrapper : WrapperId) (pool : PoolId) :
    Option (Memory Element) :=
  match memory.wrappers wrapper with
  | some _ => none
  | none => (memory.acquire pool).map fun (memory, object) =>
      memory.setWrapper wrapper (some { pool := some pool, object := some object })

/-- The members of `other` move to `wrapper`; a moved `unique_ptr` is null, the pool is set to
null. -/
def take (memory : Memory Element) (wrapper other : WrapperId) (members : Wrapper) :
    Memory Element :=
  (memory.setWrapper wrapper (some members)).setWrapper other (some {})

def moveConstruct (memory : Memory Element) (wrapper other : WrapperId) : Option (Memory Element) :=
  match memory.wrappers wrapper with
  | some _ => none
  | none => (memory.wrappers other).map (memory.take wrapper other)

def moveAssign (memory : Memory Element) (wrapper other : WrapperId) : Option (Memory Element) :=
  (memory.wrappers wrapper).bind fun held =>
    (memory.wrappers other).bind fun members =>
      if wrapper = other then some memory
      else (memory.giveUp wrapper held).map (·.take wrapper other members)

def destruct (memory : Memory Element) (wrapper : WrapperId) : Option (Memory Element) :=
  (memory.wrappers wrapper).bind fun held =>
    (memory.giveUp wrapper held).map (·.setWrapper wrapper none)

/-- The owner of a wrapper writes through it. -/
def write (memory : Memory Element) (wrapper : WrapperId) (contents : List Element) :
    Option (Memory Element) :=
  ((memory.wrappers wrapper).bind (·.object)).map fun object =>
    memory.setObject object ((memory.objects object).map ({ · with contents }))

inductive Label (Element : Type) where
  | createPool (pool : PoolId) (poolSize initialCapacity : Nat)
  | construct (wrapper : WrapperId) (pool : PoolId)
  | moveConstruct (wrapper other : WrapperId)
  | moveAssign (wrapper other : WrapperId)
  | destruct (wrapper : WrapperId)
  | write (wrapper : WrapperId) (contents : List Element)

def step (memory : Memory Element) : Label Element → Option (Memory Element)
  | .createPool pool poolSize initialCapacity => memory.createPool pool poolSize initialCapacity
  | .construct wrapper pool => memory.construct wrapper pool
  | .moveConstruct wrapper other => memory.moveConstruct wrapper other
  | .moveAssign wrapper other => memory.moveAssign wrapper other
  | .destruct wrapper => memory.destruct wrapper
  | .write wrapper contents => memory.write wrapper contents

end Memory

/-- A builder holds bytes. -/
def PooledFlatBufferBuilder.step : Memory UInt8 → Memory.Label UInt8 → Option (Memory UInt8) :=
  Memory.step

/-- A vector holds the offsets of player states. -/
def PooledPlayerStateVector.step : Memory UInt32 → Memory.Label UInt32 → Option (Memory UInt32) :=
  Memory.step

end CppMMO.Utils
