import CppMMO.Game.Spatial.QuadTreeProperties
import CppMMO.Lib.Transition
import Mathlib.Data.List.Induction

/-! Histories of calls on one QuadTree, against the finite map that a history
describes: first with positions inside the root bounds, then with any positions. -/

set_option autoImplicit false

namespace CppMMO.Game.Spatial

open CppMMO.Lib

inductive Operation where
  | insert (playerId : PlayerId) (position : Vec3)
  | update (playerId : PlayerId) (newPosition : Vec3)
  | remove (playerId : PlayerId)
  | clear

namespace Operation

def puts? : Operation → Option (PlayerId × Vec3)
  | insert playerId position => some (playerId, position)
  | update playerId newPosition => some (playerId, newPosition)
  | remove _ => none
  | clear => none

/-- The calls after which an earlier position of the id counts no longer. -/
def concerns (id : PlayerId) : Operation → Bool
  | insert playerId _ => playerId = id
  | update playerId _ => playerId = id
  | remove playerId => playerId = id
  | clear => true

def Inside (bounds : Bounds) (operation : Operation) : Prop :=
  ∀ put ∈ operation.puts?, Bounds.Contains bounds put.2

instance (bounds : Bounds) (operation : Operation) : Decidable (operation.Inside bounds) :=
  inferInstanceAs (Decidable (∀ put ∈ operation.puts?, Bounds.Contains bounds put.2))

def inserts? : Operation → Option PlayerId
  | insert playerId _ => some playerId
  | _ => none

def InsertsAbsent (tree : QuadTree) (operation : Operation) : Prop :=
  ∀ id ∈ operation.inserts?, tree.playerPositions.find? id = none

instance (tree : QuadTree) (operation : Operation) : Decidable (operation.InsertsAbsent tree) :=
  Option.decidableForallMem operation.inserts?

/-- What a call does to the map the tree stands for. -/
def record (index : PlayerId → Option Vec3) : Operation → PlayerId → Option Vec3
  | insert playerId position => Function.update index playerId (some position)
  | update playerId newPosition => Function.update index playerId (some newPosition)
  | remove playerId => Function.update index playerId none
  | clear => fun _ => none

end Operation

def QuadTree.perform (tree : QuadTree) : Operation → QuadTree
  | .insert playerId position => tree.insert playerId position
  | .update playerId newPosition => tree.update playerId newPosition
  | .remove playerId => tree.remove playerId
  | .clear => tree.clear

/-- The latest call about the id is an `Insert` or `Update` that puts it at `position`. -/
def LastPut (history : List Operation) (id : PlayerId) (position : Vec3) : Prop :=
  ∃ front operation back, history = front ++ operation :: back ∧
    operation.puts? = some (id, position) ∧ ∀ later ∈ back, later.concerns id = false

theorem not_lastPut_nil (id : PlayerId) (position : Vec3) : ¬ LastPut [] id position := by
  rintro ⟨front, operation, back, split, -⟩
  simp at split

theorem lastPut_snoc_iff {history : List Operation} {operation : Operation} {id : PlayerId}
    {position : Vec3} :
    LastPut (history ++ [operation]) id position ↔ operation.puts? = some (id, position) ∨
      operation.concerns id = false ∧ LastPut history id position := by
  constructor
  · rintro ⟨front, put, back, split, puts, untouched⟩
    rcases List.eq_nil_or_concat back with rfl | ⟨between, last, rfl⟩
    · obtain ⟨-, same⟩ := List.append_inj' split rfl
      cases same
      exact .inl puts
    · rw [List.concat_eq_append] at split untouched
      have resplit : history ++ [operation] = (front ++ put :: between) ++ [last] := by
        simpa using split
      obtain ⟨rfl, same⟩ := List.append_inj' resplit rfl
      cases same
      exact .inr ⟨untouched operation (by simp), front, put, between, rfl, puts,
        fun later member => untouched later (by simp [member])⟩
  · rintro (puts | ⟨untouched, front, put, back, rfl, puts, untouchedBefore⟩)
    · exact ⟨history, operation, [], rfl, puts, by simp⟩
    · refine ⟨front, put, back ++ [operation], by simp, puts, fun later member => ?_⟩
      rcases List.mem_append.mp member with earlier | last
      · exact untouchedBefore later earlier
      · rw [List.mem_singleton.mp last]
        exact untouched

theorem Operation.record_eq_some_iff {index : PlayerId → Option Vec3} {operation : Operation}
    {id : PlayerId} {position : Vec3} :
    operation.record index id = some position ↔ operation.puts? = some (id, position) ∨
      operation.concerns id = false ∧ index id = some position := by
  cases operation with
  | insert playerId put =>
      simp only [record, puts?, concerns, Function.update_apply]
      split <;> simp_all [eq_comm]
  | update playerId put =>
      simp only [record, puts?, concerns, Function.update_apply]
      split <;> simp_all [eq_comm]
  | remove playerId =>
      simp only [record, puts?, concerns, Function.update_apply]
      split <;> simp_all [eq_comm]
  | clear => simp [record, puts?, concerns]

/-- The map that the calls of a history build up. -/
def latest (history : List Operation) : PlayerId → Option Vec3 :=
  history.foldl Operation.record fun _ => none

@[simp] theorem latest_snoc (history : List Operation) (operation : Operation) :
    latest (history ++ [operation]) = operation.record (latest history) := by
  simp [latest]

theorem latest_eq_some_iff {history : List Operation} {id : PlayerId} {position : Vec3} :
    latest history id = some position ↔ LastPut history id position := by
  induction history using List.reverseRecOn with
  | nil => simp [latest, not_lastPut_nil]
  | append_singleton history operation ih =>
      rw [latest_snoc, Operation.record_eq_some_iff, lastPut_snoc_iff, ih]

theorem isSome_latest_iff {history : List Operation} {id : PlayerId} :
    (latest history id).isSome ↔ ∃ position, LastPut history id position := by
  rw [Option.isSome_iff_exists]
  exact exists_congr fun _ => latest_eq_some_iff

/-! ## Positions inside the root bounds -/

namespace QuadTree.Represents

variable {tree : QuadTree} {index : PlayerId → Option Vec3}

theorem clear (tree : QuadTree) : tree.clear.Represents fun _ => none :=
  ⟨by simp [QuadTree.clear], by simp [QuadTree.clear, Node.Placed],
    by simp [QuadTree.clear, Node.ids], by simp [QuadTree.clear, Node.ids]⟩

theorem perform (represents : tree.Represents index) {operation : Operation}
    (inside : operation.Inside tree.root.bounds) (absent : operation.InsertsAbsent tree) :
    (tree.perform operation).Represents (operation.record index) ∧
      (tree.perform operation).root.bounds = tree.root.bounds := by
  cases operation with
  | insert playerId position =>
      have fresh : index playerId = none :=
        (represents.positions playerId).symm.trans (absent playerId rfl)
      exact represents.insert fresh (inside (playerId, position) rfl)
  | update playerId newPosition => exact represents.update (inside (playerId, newPosition) rfl)
  | remove playerId => exact represents.remove playerId
  | clear => exact ⟨clear tree, rfl⟩

theorem ids_perm_keys (represents : tree.Represents index) :
    tree.root.ids.Perm tree.playerPositions.keys := by
  refine (List.perm_ext_iff_of_nodup represents.nodup tree.playerPositions.keys_nodup).mpr ?_
  intro id
  rw [represents.mem_iff, UnorderedMap.mem_keys_iff_isSome, represents.positions]

end QuadTree.Represents

theorem Node.countPlayers_eq (node : Node) : node.countPlayers = node.ids.length := by
  induction node with
  | leaf bounds playerIds => rfl
  | inner bounds playerIds nw ne sw se nwIH neIH swIH seIH =>
      simp only [countPlayers, ids, List.length_append, nwIH, neIH, swIH, seIH]

/-- The tree answers as the finite map of the history does, and its leaves hold as
many ids as it counts players. -/
structure QuadTree.UpsertLaw (tree : QuadTree) (history : List Operation) : Prop where
  query_nodup : ∀ center radius, (tree.query center radius).Nodup
  mem_query_iff : ∀ center radius id, id ∈ tree.query center radius ↔
    ∃ position, LastPut history id position ∧ position.distSqXY center ≤ radius * radius
  leaves_total : (tree.root.leaves.flatMap Prod.snd).length = tree.getTotalPlayers
  countPlayers_total : tree.root.countPlayers = tree.getTotalPlayers

/-- Calls with positions inside the root bounds. -/
def QuadTree.boundedStep (tree : QuadTree) (operation : Operation) : Option QuadTree :=
  if operation.Inside tree.root.bounds then some (tree.perform operation) else none

/-- Such calls in which `Insert` does not meet an id that is already there. -/
def QuadTree.freshBoundedStep (tree : QuadTree) (operation : Operation) : Option QuadTree :=
  if operation.InsertsAbsent tree then tree.boundedStep operation else none

theorem upsertLaw_of_insertsAbsent {x y width height : ℚ} {start finish : QuadTree}
    {history : List Operation} (created : QuadTree.create? x y width height = some start)
    (run : Run (Taken QuadTree.freshBoundedStep) start history finish) :
    finish.UpsertLaw history := by
  have initially : start.Represents (latest []) := .create created
  have represents : finish.Represents (latest history) := by
    refine run.preserves_history (fun past tree => tree.Represents (latest past)) ?_ initially
    intro past before operation after represents taken
    obtain ⟨absent, bounded⟩ := Option.ite_none_right_eq_some.mp taken
    obtain ⟨inside, performed⟩ := Option.ite_none_right_eq_some.mp bounded
    cases performed
    rw [latest_snoc]
    exact (represents.perform inside absent).1
  refine ⟨represents.query_nodup, fun center radius id => ?_, ?_, ?_⟩
  · rw [represents.mem_query_iff]
    simp only [latest_eq_some_iff]
  · rw [← represents.placed.ids_eq_leaves]
    exact represents.ids_perm_keys.length_eq
  · rw [Node.countPlayers_eq]
    exact represents.ids_perm_keys.length_eq

/-- Five ids split the root; one of them then moves and another one is removed. -/
theorem upsertLaw_after_split :
    ∃ start finish, QuadTree.create? 0 0 200 200 = some start ∧
      Run (Taken QuadTree.freshBoundedStep) start
        [.insert 1 ⟨10, 10, 0⟩, .insert 2 ⟨190, 10, 0⟩, .insert 3 ⟨10, 190, 0⟩,
          .insert 4 ⟨190, 190, 0⟩, .update 5 ⟨20, 20, 0⟩, .update 1 ⟨180, 180, 0⟩, .remove 2]
        finish ∧
      finish.getTotalPlayers = 4 ∧ finish.UpsertLaw
        [.insert 1 ⟨10, 10, 0⟩, .insert 2 ⟨190, 10, 0⟩, .insert 3 ⟨10, 190, 0⟩,
          .insert 4 ⟨190, 190, 0⟩, .update 5 ⟨20, 20, 0⟩, .update 1 ⟨180, 180, 0⟩, .remove 2] := by
  obtain ⟨start, finish, created, run, total⟩ :=
    exists_run_of_execute QuadTree.freshBoundedStep (QuadTree.create? 0 0 200 200)
      [.insert 1 ⟨10, 10, 0⟩, .insert 2 ⟨190, 10, 0⟩, .insert 3 ⟨10, 190, 0⟩,
        .insert 4 ⟨190, 190, 0⟩, .update 5 ⟨20, 20, 0⟩, .update 1 ⟨180, 180, 0⟩, .remove 2]
      (fun finish => finish.getTotalPlayers = 4) (by decide +kernel)
  exact ⟨start, finish, created, run, total, upsertLaw_of_insertsAbsent created run⟩

/-- `Insert` of an id that is already there leaves the old leaf entry beside the new one. -/
theorem duplicate_after_second_insert :
    ∃ start history finish, QuadTree.create? 0 0 200 200 = some start ∧
      Run (Taken QuadTree.boundedStep) start history finish ∧
      finish.query ⟨150, 150, 0⟩ 1 = [7, 7] ∧ ¬ finish.UpsertLaw history := by
  obtain ⟨start, finish, created, run, twice⟩ :=
    exists_run_of_execute QuadTree.boundedStep (QuadTree.create? 0 0 200 200)
      [.insert 7 ⟨10, 10, 0⟩, .insert 7 ⟨150, 150, 0⟩]
      (fun finish => finish.query ⟨150, 150, 0⟩ 1 = [7, 7]) (by decide +kernel)
  refine ⟨start, _, finish, created, run, twice, fun law => ?_⟩
  have once := law.query_nodup ⟨150, 150, 0⟩ 1
  rw [twice] at once
  exact absurd once (by decide)

/-! ## Positions anywhere -/

namespace Node

/-- A root that is a leaf takes positions from anywhere; once it is split, the ids
outside its bounds are gone from the leaves. -/
def Settled (positions : Positions) : Node → Prop
  | leaf _ playerIds => playerIds.Nodup ∧ ∀ id ∈ playerIds, (positions.find? id).isSome
  | inner bounds playerIds nw ne sw se =>
      (inner bounds playerIds nw ne sw se).ids.Nodup ∧
        (inner bounds playerIds nw ne sw se).Placed positions

def isLeaf : Node → Bool
  | leaf _ _ => true
  | inner _ _ _ _ _ _ => false

theorem Settled.of_isInner {positions : Positions} {node : Node} (isInner : node.IsInner)
    (nodup : node.ids.Nodup) (placed : node.Placed positions) : node.Settled positions := by
  cases node with
  | leaf => exact isInner.elim
  | inner => exact ⟨nodup, placed⟩

theorem Settled.nodup {positions : Positions} {node : Node} (settled : node.Settled positions) :
    node.ids.Nodup := by
  cases node with
  | leaf => exact settled.1
  | inner => exact settled.1

theorem Settled.known {positions : Positions} {node : Node} (settled : node.Settled positions)
    {id : PlayerId} (member : id ∈ node.ids) : (positions.find? id).isSome := by
  cases node with
  | leaf => exact settled.2 id member
  | inner =>
      obtain ⟨position, found, -⟩ := settled.2.position member
      simp [found]

theorem Settled.congr {positions other : Positions} {node : Node}
    (settled : node.Settled positions)
    (agree : ∀ id ∈ node.ids, other.find? id = positions.find? id) : node.Settled other := by
  cases node with
  | leaf bounds playerIds =>
      refine ⟨settled.1, fun id member => ?_⟩
      rw [agree id member]
      exact settled.2 id member
  | inner => exact ⟨settled.1, settled.2.congr agree⟩

theorem leaves_subset_ids {node : Node} {leaf : Bounds × List PlayerId}
    (isLeaf : leaf ∈ node.leaves) {id : PlayerId} (member : id ∈ leaf.2) : id ∈ node.ids := by
  induction node with
  | leaf bounds playerIds =>
      cases List.mem_singleton.mp isLeaf
      exact member
  | inner bounds playerIds nw ne sw se nwIH neIH swIH seIH =>
      simp only [leaves, List.mem_append] at isLeaf
      simp only [ids, List.mem_append]
      rcases isLeaf with ((isLeaf | isLeaf) | isLeaf) | isLeaf
      · exact .inl (.inl (.inl (.inr (nwIH isLeaf))))
      · exact .inl (.inl (.inr (neIH isLeaf)))
      · exact .inl (.inr (swIH isLeaf))
      · exact .inr (seIH isLeaf)

theorem known_of_mem_queryNode {positions : Positions} {center : Vec3} {radius : ℚ} {node : Node}
    {id : PlayerId} (answered : id ∈ node.queryNode positions center radius) :
    (positions.find? id).isSome := by
  induction node with
  | leaf bounds playerIds =>
      simp only [queryNode] at answered
      split at answered
      · cases answered
      · obtain ⟨position, found, -⟩ := inRange_iff.mp (List.mem_filter.mp answered).2
        simp [found]
  | inner bounds playerIds nw ne sw se nwIH neIH swIH seIH =>
      simp only [queryNode] at answered
      split at answered
      · cases answered
      · simp only [List.mem_append] at answered
        rcases answered with ((answered | answered) | answered) | answered
        · exact nwIH answered
        · exact neIH answered
        · exact swIH answered
        · exact seIH answered

theorem Settled.insertAbove {positions : Positions} {id : PlayerId} {position : Vec3} {node : Node}
    (levels : Nat) (settled : node.Settled positions) (absent : id ∉ node.ids)
    (recorded : positions.find? id = some position) :
    (insertAbove (levels + 1) id position positions node).1 = positions ∧
      (insertAbove (levels + 1) id position positions node).2.Settled positions := by
  cases node with
  | leaf bounds playerIds =>
      obtain ⟨nodup, known⟩ := settled
      have nodup' : (playerIds ++ [id]).Nodup := by
        refine List.nodup_append.mpr ⟨nodup, by simp, ?_⟩
        intro old oldMember new newMember same
        rw [List.mem_singleton.mp newMember] at same
        exact absent (same ▸ oldMember)
      have known' : ∀ other ∈ playerIds ++ [id], (positions.find? other).isSome := by
        intro other member
        rcases List.mem_append.mp member with old | new
        · exact known other old
        · rw [List.mem_singleton.mp new, recorded]
          rfl
      simp only [Node.insertAbove]
      split
      · obtain ⟨keeps, -, placed, perm, isInner⟩ := reinsert_spec
          (fun _ _ _ found childPlaced childInside => insertAbove_spec levels found childPlaced
            childInside)
          recorded bounds (playerIds ++ [id]) (subdivideNode bounds) trivial
          (subdivideNode_placed positions bounds) rfl known'
        refine ⟨keeps, .of_isInner isInner (perm.nodup_iff.mpr ?_) placed⟩
        simpa [subdivideNode, createNode, ids] using nodup'.filter (standsIn positions bounds)
      · exact ⟨rfl, nodup', known'⟩
  | inner bounds playerIds nw ne sw se =>
      obtain ⟨nodup, placed⟩ := settled
      by_cases inside : Bounds.Contains bounds position
      · obtain ⟨inserted, isInner⟩ := insertIntoChild_spec
          (Node.insertAbove levels id position) (inner bounds playerIds nw ne sw se)
          (fun _ _ childPlaced childInside => insertAbove_spec levels recorded childPlaced
            childInside) trivial placed inside
        refine ⟨inserted.positions_eq, .of_isInner isInner ?_ inserted.placed⟩
        exact inserted.ids_perm.nodup_iff.mpr (List.nodup_cons.mpr ⟨absent, nodup⟩)
      · simp only [Node.insertAbove]
        rw [insertIntoChild_of_outside _ placed inside]
        exact ⟨rfl, nodup, placed⟩

end Node

theorem Node.isInner_removeFromNode {id : PlayerId} {position : Vec3} {bounds : Bounds}
    {playerIds : List PlayerId} {nw ne sw se : Node} :
    (removeFromNode id position (.inner bounds playerIds nw ne sw se)).2.IsInner := by
  simp only [removeFromNode]
  split
  · trivial
  · split
    · trivial
    · split
      · trivial
      · split
        · trivial
        · trivial

theorem Node.Settled.removeFromNode {positions : Positions} {id : PlayerId} {position : Vec3}
    {node : Node} (settled : node.Settled positions) (recorded : positions.find? id = some position)
    (reached : node.isLeaf = true → Bounds.Contains node.bounds position) :
    id ∉ (node.removeFromNode id position).2.ids ∧
      (node.removeFromNode id position).2.Settled positions := by
  cases node with
  | leaf bounds playerIds =>
      obtain ⟨nodup, known⟩ := settled
      have inside : Bounds.Contains bounds position := reached rfl
      simp only [Node.removeFromNode, inside, not_true_eq_false, ↓reduceIte]
      split
      · exact ⟨nodup.not_mem_erase, nodup.erase id,
          fun other member => known other (List.mem_of_mem_erase member)⟩
      · next absent => exact ⟨absent, nodup, known⟩
  | inner bounds playerIds nw ne sw se =>
      obtain ⟨nodup, placed⟩ := settled
      have removed := removeFromNode_spec recorded placed
      have once := List.nodup_iff_count_le_one.mp nodup
      refine ⟨fun remains => ?_, .of_isInner isInner_removeFromNode ?_ removed.placed⟩
      · have count := removed.count_eq id
        have atMost := once id
        have positive := List.count_pos_iff.mpr remains
        have present : id ∈ (Node.inner bounds playerIds nw ne sw se).ids :=
          List.count_pos_iff.mp (by omega)
        rw [if_pos ⟨removed.found_iff.mpr present, rfl⟩] at count
        omega
      · refine List.nodup_iff_count_le_one.mpr fun other => ?_
        have count := removed.count_eq other
        have atMost := once other
        omega

/-- The recorded positions are those of `index`, and the leaves hold recorded ids only. -/
structure QuadTree.Tracks (tree : QuadTree) (index : PlayerId → Option Vec3) : Prop where
  positions : ∀ id, tree.playerPositions.find? id = index id
  settled : tree.root.Settled tree.playerPositions

/-- The root is a leaf and the id is recorded outside its bounds: `RemoveFromNode` gives
up on such an id before it looks at the leaf. -/
def QuadTree.stranded (tree : QuadTree) (id : PlayerId) : Bool :=
  tree.root.isLeaf && (tree.playerPositions.find? id).any
    fun position => !decide (Bounds.Contains tree.root.bounds position)

namespace QuadTree.Tracks

variable {tree : QuadTree} {index : PlayerId → Option Vec3}

theorem create {x y width height : ℚ} (created : QuadTree.create? x y width height = some tree) :
    tree.Tracks fun _ => none := by
  obtain ⟨-, same⟩ := Option.ite_none_left_eq_some.mp created
  cases same
  exact ⟨by simp, by simp [Node.createNode, Node.Settled]⟩

theorem insert (tracks : tree.Tracks index) {id : PlayerId} (position : Vec3)
    (fresh : index id = none) :
    (tree.insert id position).Tracks (Function.update index id (some position)) := by
  have absent : id ∉ tree.root.ids := by
    intro member
    have known := tracks.settled.known member
    simp [tracks.positions, fresh] at known
  have settled : tree.root.Settled (tree.playerPositions.assign id position) :=
    tracks.settled.congr fun other member =>
      UnorderedMap.find?_assign_of_ne _ _ fun same => absent (same ▸ member)
  obtain ⟨keeps, settled'⟩ := settled.insertAbove 5 absent
    (UnorderedMap.find?_assign_self tree.playerPositions id position)
  have positions_eq : (tree.insert id position).playerPositions =
      tree.playerPositions.assign id position := keeps
  refine ⟨fun other => ?_, ?_⟩
  · rw [positions_eq, UnorderedMap.find?_assign, Function.update_apply, tracks.positions]
  · rw [positions_eq]
    exact settled'

theorem remove (tracks : tree.Tracks index) {id : PlayerId}
    (reached : tree.stranded id = false) :
    (tree.remove id).Tracks (Function.update index id none) := by
  cases found : tree.playerPositions.find? id with
  | none =>
      rw [remove_of_find?_eq_none found]
      have unchanged : Function.update index id none = index := by
        rw [← found, tracks.positions, Function.update_eq_self]
      rw [unchanged]
      exact tracks
  | some position =>
      rw [remove_of_find?_eq_some found]
      obtain ⟨gone, settled⟩ := tracks.settled.removeFromNode found fun isLeaf => by
        simpa [stranded, isLeaf, found] using reached
      refine ⟨fun other => ?_, settled.congr fun other member => ?_⟩
      · rw [UnorderedMap.find?_erase, Function.update_apply, tracks.positions]
      · exact UnorderedMap.find?_erase_of_ne _ fun same => gone (same ▸ member)

theorem update (tracks : tree.Tracks index) {id : PlayerId} (position : Vec3)
    (reached : tree.stranded id = false) :
    (tree.update id position).Tracks (Function.update index id (some position)) := by
  have inserted := (tracks.remove reached).insert position (Function.update_self id none index)
  rwa [Function.update_idem] at inserted

end QuadTree.Tracks

def Operation.takesOut? : Operation → Option PlayerId
  | insert _ _ => none
  | update playerId _ => some playerId
  | remove playerId => some playerId
  | clear => none

def Operation.TakesOutReached (tree : QuadTree) (operation : Operation) : Prop :=
  ∀ id ∈ operation.takesOut?, tree.stranded id = false

instance (tree : QuadTree) (operation : Operation) : Decidable (operation.TakesOutReached tree) :=
  Option.decidableForallMem operation.takesOut?

/-- Calls in which `Insert` does not meet an id that is already there. -/
def QuadTree.freshStep (tree : QuadTree) (operation : Operation) : Option QuadTree :=
  if operation.InsertsAbsent tree then some (tree.perform operation) else none

/-- Such calls that take out no id outside the bounds of a root that is a leaf. -/
def QuadTree.reachingStep (tree : QuadTree) (operation : Operation) : Option QuadTree :=
  if operation.TakesOutReached tree then tree.freshStep operation else none

theorem QuadTree.Tracks.perform {tree : QuadTree} {index : PlayerId → Option Vec3}
    (tracks : tree.Tracks index) {operation : Operation} (absent : operation.InsertsAbsent tree)
    (reached : operation.TakesOutReached tree) :
    (tree.perform operation).Tracks (operation.record index) := by
  cases operation with
  | insert playerId position =>
      have fresh : index playerId = none :=
        (tracks.positions playerId).symm.trans (absent playerId rfl)
      exact tracks.insert position fresh
  | update playerId newPosition => exact tracks.update newPosition (reached playerId rfl)
  | remove playerId => exact tracks.remove (reached playerId rfl)
  | clear => exact ⟨fun _ => UnorderedMap.find?_empty _, List.nodup_nil, by simp⟩

/-- Nothing is kept or answered but the ids that were put and not removed since. -/
structure QuadTree.KeepsOnlyPut (tree : QuadTree) (history : List Operation) : Prop where
  mem_keys_iff : ∀ id, id ∈ tree.playerPositions.keys ↔ ∃ position, LastPut history id position
  leaf_mem_keys : ∀ leaf ∈ tree.root.leaves, ∀ id ∈ leaf.2, id ∈ tree.playerPositions.keys
  query_lastPut : ∀ center radius, ∀ id ∈ tree.query center radius,
    ∃ position, LastPut history id position

theorem keepsOnlyPut_of_reachingSteps {x y width height : ℚ} {start finish : QuadTree}
    {history : List Operation} (created : QuadTree.create? x y width height = some start)
    (run : Run (Taken QuadTree.reachingStep) start history finish) :
    finish.KeepsOnlyPut history := by
  have initially : start.Tracks (latest []) := .create created
  have tracks : finish.Tracks (latest history) := by
    refine run.preserves_history (fun past tree => tree.Tracks (latest past)) ?_ initially
    intro past before operation after tracks taken
    obtain ⟨reached, fresh⟩ := Option.ite_none_right_eq_some.mp taken
    obtain ⟨absent, performed⟩ := Option.ite_none_right_eq_some.mp fresh
    cases performed
    rw [latest_snoc]
    exact tracks.perform absent reached
  have keys : ∀ id, id ∈ finish.playerPositions.keys ↔ ∃ position, LastPut history id position := by
    intro id
    rw [UnorderedMap.mem_keys_iff_isSome, tracks.positions, isSome_latest_iff]
  refine ⟨keys, ?_, ?_⟩
  · intro leaf isLeaf id member
    rw [UnorderedMap.mem_keys_iff_isSome]
    exact tracks.settled.known (Node.leaves_subset_ids isLeaf member)
  · intro center radius id answered
    exact (keys id).mp ((UnorderedMap.mem_keys_iff_isSome _ _).mpr
      (Node.known_of_mem_queryNode answered))

/-- An id outside the bounds is inserted, survives as a key when the root splits, and is
then removed. -/
theorem keepsOnlyPut_after_split :
    ∃ start finish, QuadTree.create? 0 0 200 200 = some start ∧
      Run (Taken QuadTree.reachingStep) start
        [.insert 1 ⟨-5, 0, 0⟩, .insert 2 ⟨10, 10, 0⟩, .insert 3 ⟨10, 190, 0⟩,
          .insert 4 ⟨190, 190, 0⟩, .insert 5 ⟨20, 20, 0⟩, .update 2 ⟨300, 0, 0⟩, .remove 1]
        finish ∧
      finish.playerPositions.keys.length = 4 ∧ finish.KeepsOnlyPut
        [.insert 1 ⟨-5, 0, 0⟩, .insert 2 ⟨10, 10, 0⟩, .insert 3 ⟨10, 190, 0⟩,
          .insert 4 ⟨190, 190, 0⟩, .insert 5 ⟨20, 20, 0⟩, .update 2 ⟨300, 0, 0⟩, .remove 1] := by
  obtain ⟨start, finish, created, run, keys⟩ :=
    exists_run_of_execute QuadTree.reachingStep (QuadTree.create? 0 0 200 200)
      [.insert 1 ⟨-5, 0, 0⟩, .insert 2 ⟨10, 10, 0⟩, .insert 3 ⟨10, 190, 0⟩,
        .insert 4 ⟨190, 190, 0⟩, .insert 5 ⟨20, 20, 0⟩, .update 2 ⟨300, 0, 0⟩, .remove 1]
      (fun finish => finish.playerPositions.keys.length = 4) (by decide +kernel)
  exact ⟨start, finish, created, run, keys, keepsOnlyPut_of_reachingSteps created run⟩

/-- An id outside the bounds is removed while the root is a leaf; the split by later
insertions brings it back at the origin. -/
theorem removed_player_returns :
    ∃ start history finish, QuadTree.create? 0 0 200 200 = some start ∧
      Run (Taken QuadTree.freshStep) start history finish ∧
      finish.query ⟨0, 0, 0⟩ 1 = [1] ∧ ¬ finish.KeepsOnlyPut history := by
  obtain ⟨start, finish, created, run, answered⟩ :=
    exists_run_of_execute QuadTree.freshStep (QuadTree.create? 0 0 200 200)
      [.insert 1 ⟨-5, 0, 0⟩, .remove 1, .insert 2 ⟨10, 10, 0⟩, .insert 3 ⟨10, 190, 0⟩,
        .insert 4 ⟨190, 190, 0⟩, .insert 5 ⟨20, 20, 0⟩]
      (fun finish => finish.query ⟨0, 0, 0⟩ 1 = [1]) (by decide +kernel)
  refine ⟨start, _, finish, created, run, answered, fun keeps => ?_⟩
  obtain ⟨position, put⟩ := keeps.query_lastPut ⟨0, 0, 0⟩ 1 1 (by simp [answered])
  rw [← latest_eq_some_iff] at put
  simp [latest, Operation.record] at put

end CppMMO.Game.Spatial
