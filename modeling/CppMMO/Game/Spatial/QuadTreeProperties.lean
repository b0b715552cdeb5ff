import CppMMO.Game.Spatial.QuadTree
import Mathlib.Data.List.Perm.Basic
import Mathlib.Data.List.Perm.Lattice
import Mathlib.Data.List.Count
import Mathlib.Tactic.Ring

/-! The QuadTree as a point index. `Represents` ties a tree to the partial map it
stands for; each operation is shown to act on that map. -/

set_option autoImplicit false

namespace CppMMO.Game.Spatial

open CppMMO.Lib

namespace Node

def ids : Node → List PlayerId
  | leaf _ playerIds => playerIds
  | inner _ playerIds nw ne sw se => playerIds ++ nw.ids ++ ne.ids ++ sw.ids ++ se.ids

def leaves : Node → List (Bounds × List PlayerId)
  | leaf bounds playerIds => [(bounds, playerIds)]
  | inner _ _ nw ne sw se => nw.leaves ++ ne.leaves ++ sw.leaves ++ se.leaves

/-- Inner nodes hold no ids and are tiled by their children, and every id of a leaf
has a recorded position inside that leaf. -/
def Placed (positions : Positions) : Node → Prop
  | leaf bounds playerIds =>
      ∀ id ∈ playerIds, ∃ position, positions.find? id = some position ∧
        Bounds.Contains bounds position
  | inner bounds playerIds nw ne sw se =>
      playerIds = [] ∧
        (nw.bounds = bounds.nw ∧ ne.bounds = bounds.ne ∧
          sw.bounds = bounds.sw ∧ se.bounds = bounds.se) ∧
        nw.Placed positions ∧ ne.Placed positions ∧ sw.Placed positions ∧ se.Placed positions

theorem Placed.position {positions : Positions} {node : Node} (placed : node.Placed positions)
    {id : PlayerId} (member : id ∈ node.ids) :
    ∃ position, positions.find? id = some position ∧ Bounds.Contains node.bounds position := by
  induction node with
  | leaf bounds playerIds => exact placed id member
  | inner bounds playerIds nw ne sw se nwIH neIH swIH seIH =>
      obtain ⟨rfl, ⟨nwBounds, neBounds, swBounds, seBounds⟩, inNw, inNe, inSw, inSe⟩ := placed
      have covers := fun point : Vec3 => (Rect.contains_iff_quadrant bounds point.x point.y).mpr
      simp only [ids, List.nil_append, List.mem_append] at member
      rcases member with ((member | member) | member) | member
      · obtain ⟨position, found, inside⟩ := nwIH inNw member
        exact ⟨position, found, covers position (.inl (nwBounds ▸ inside))⟩
      · obtain ⟨position, found, inside⟩ := neIH inNe member
        exact ⟨position, found, covers position (.inr (.inl (neBounds ▸ inside)))⟩
      · obtain ⟨position, found, inside⟩ := swIH inSw member
        exact ⟨position, found, covers position (.inr (.inr (.inl (swBounds ▸ inside))))⟩
      · obtain ⟨position, found, inside⟩ := seIH inSe member
        exact ⟨position, found, covers position (.inr (.inr (.inr (seBounds ▸ inside))))⟩

theorem Placed.congr {positions other : Positions} {node : Node} (placed : node.Placed positions)
    (agree : ∀ id ∈ node.ids, other.find? id = positions.find? id) : node.Placed other := by
  induction node with
  | leaf bounds playerIds =>
      intro id member
      obtain ⟨position, found, inside⟩ := placed id member
      exact ⟨position, (agree id member).trans found, inside⟩
  | inner bounds playerIds nw ne sw se nwIH neIH swIH seIH =>
      obtain ⟨none, tiled, inNw, inNe, inSw, inSe⟩ := placed
      refine ⟨none, tiled, nwIH inNw ?_, neIH inNe ?_, swIH inSw ?_, seIH inSe ?_⟩ <;>
        exact fun id member => agree id (by simp [ids, member])

theorem Placed.leaf_contains {positions : Positions} {node : Node}
    (placed : node.Placed positions) {bounds : Bounds} {playerIds : List PlayerId}
    (isLeaf : (bounds, playerIds) ∈ node.leaves) {id : PlayerId} (member : id ∈ playerIds) :
    ∃ position, positions.find? id = some position ∧ Bounds.Contains bounds position := by
  induction node with
  | leaf leafBounds leafIds =>
      simp only [leaves, List.mem_singleton, Prod.mk.injEq] at isLeaf
      obtain ⟨rfl, rfl⟩ := isLeaf
      exact placed id member
  | inner _ _ nw ne sw se nwIH neIH swIH seIH =>
      obtain ⟨-, -, inNw, inNe, inSw, inSe⟩ := placed
      simp only [leaves, List.mem_append] at isLeaf
      rcases isLeaf with ((isLeaf | isLeaf) | isLeaf) | isLeaf
      · exact nwIH inNw isLeaf
      · exact neIH inNe isLeaf
      · exact swIH inSw isLeaf
      · exact seIH inSe isLeaf

theorem Placed.ids_eq_leaves {positions : Positions} {node : Node}
    (placed : node.Placed positions) : node.ids = node.leaves.flatMap Prod.snd := by
  induction node with
  | leaf bounds playerIds => simp [ids, leaves]
  | inner bounds playerIds nw ne sw se nwIH neIH swIH seIH =>
      obtain ⟨rfl, -, inNw, inNe, inSw, inSe⟩ := placed
      simp only [ids, leaves, List.flatMap_append, ← nwIH inNw, ← neIH inNe, ← swIH inSw,
        ← seIH inSe, List.nil_append]

/-- What inserting one id into a subtree must do: leave the position map alone and
add exactly that id. -/
structure Inserted (positions : Positions) (id : PlayerId) (node : Node)
    (result : Positions × Node) : Prop where
  positions_eq : result.1 = positions
  bounds_eq : result.2.bounds = node.bounds
  placed : result.2.Placed positions
  ids_perm : result.2.ids.Perm (id :: node.ids)

theorem Inserted.ids_perm_of_count {positions : Positions} {id : PlayerId} {part whole whole' : Node}
    {result : Positions × Node} (inserted : Inserted positions id part result)
    (replaced : ∀ other, whole'.ids.count other + part.ids.count other =
      whole.ids.count other + result.2.ids.count other) :
    whole'.ids.Perm (id :: whole.ids) := by
  refine List.perm_iff_count.mpr fun other => ?_
  have counts := inserted.ids_perm.count_eq other
  have total := replaced other
  simp only [List.count_cons] at counts ⊢
  omega

def children : Node → List Node
  | leaf _ _ => []
  | inner _ _ nw ne sw se => [nw, ne, sw, se]

def IsInner : Node → Prop
  | leaf _ _ => False
  | inner _ _ _ _ _ _ => True

theorem insertIntoChild_spec {positions : Positions} {id : PlayerId} {position : Vec3}
    (insert : Positions → Node → Positions × Node) (node : Node)
    (insertChild : ∀ child ∈ node.children, child.Placed positions →
      Bounds.Contains child.bounds position → Inserted positions id child (insert positions child))
    (isInner : node.IsInner) (placed : node.Placed positions)
    (inside : Bounds.Contains node.bounds position) :
    Inserted positions id node (insertIntoChild insert positions position node) ∧
      (insertIntoChild insert positions position node).2.IsInner := by
  cases node with
  | leaf => exact isInner.elim
  | inner bounds playerIds nw ne sw se =>
      obtain ⟨rfl, ⟨nwBounds, neBounds, swBounds, seBounds⟩, inNw, inNe, inSw, inSe⟩ := placed
      simp only [insertIntoChild]
      split_ifs with atNw atNe atSw atSe
      · have child := insertChild nw (by simp [children]) inNw atNw
        exact ⟨⟨child.positions_eq, rfl, ⟨rfl, ⟨child.bounds_eq.trans nwBounds, neBounds, swBounds,
          seBounds⟩, child.placed, inNe, inSw, inSe⟩,
          child.ids_perm_of_count (by intro other; simp only [ids, List.count_append]; omega)⟩,
          trivial⟩
      · have child := insertChild ne (by simp [children]) inNe atNe
        exact ⟨⟨child.positions_eq, rfl, ⟨rfl, ⟨nwBounds, child.bounds_eq.trans neBounds, swBounds,
          seBounds⟩, inNw, child.placed, inSw, inSe⟩,
          child.ids_perm_of_count (by intro other; simp only [ids, List.count_append]; omega)⟩,
          trivial⟩
      · have child := insertChild sw (by simp [children]) inSw atSw
        exact ⟨⟨child.positions_eq, rfl, ⟨rfl, ⟨nwBounds, neBounds, child.bounds_eq.trans swBounds,
          seBounds⟩, inNw, inNe, child.placed, inSe⟩,
          child.ids_perm_of_count (by intro other; simp only [ids, List.count_append]; omega)⟩,
          trivial⟩
      · have child := insertChild se (by simp [children]) inSe atSe
        exact ⟨⟨child.positions_eq, rfl, ⟨rfl, ⟨nwBounds, neBounds, swBounds,
          child.bounds_eq.trans seBounds⟩, inNw, inNe, inSw, child.placed⟩,
          child.ids_perm_of_count (by intro other; simp only [ids, List.count_append]; omega)⟩,
          trivial⟩
      · exfalso
        rcases (Rect.contains_iff_quadrant bounds position.x position.y).mp inside with
          quadrant | quadrant | quadrant | quadrant
        · exact atNw (nwBounds ▸ quadrant)
        · exact atNe (neBounds ▸ quadrant)
        · exact atSw (swBounds ▸ quadrant)
        · exact atSe (seBounds ▸ quadrant)

theorem subdivideNode_placed (positions : Positions) (bounds : Bounds) :
    (subdivideNode bounds).Placed positions := by
  have half : ∀ side : ℚ, side * 0.5 = side / 2 := fun side => by norm_num [div_eq_mul_inv]
  simp [subdivideNode, createNode, Placed, Node.bounds, Rect.nw, Rect.ne, Rect.sw, Rect.se, half]

/-- A position outside a tiled node is outside its four children, and is dropped. -/
theorem insertIntoChild_of_outside {positions : Positions} {position : Vec3}
    (insert : Positions → Node → Positions × Node) {node : Node}
    (placed : node.Placed positions) (outside : ¬ Bounds.Contains node.bounds position) :
    insertIntoChild insert positions position node = (positions, node) := by
  cases node with
  | leaf => rfl
  | inner bounds playerIds nw ne sw se =>
      obtain ⟨-, ⟨nwBounds, neBounds, swBounds, seBounds⟩, -⟩ := placed
      have none := mt (Rect.contains_iff_quadrant bounds position.x position.y).mpr outside
      simp only [← nwBounds, ← neBounds, ← swBounds, ← seBounds, not_or] at none
      obtain ⟨notNw, notNe, notSw, notSe⟩ := none
      simp only [insertIntoChild, Bounds.Contains, notNw, notNe, notSw, notSe, ↓reduceIte]

/-- Whether the recorded position of an id lies in the rectangle. -/
def standsIn (positions : Positions) (bounds : Bounds) (id : PlayerId) : Bool :=
  (positions.find? id).any fun position => Bounds.Contains bounds position

theorem standsIn_iff {positions : Positions} {bounds : Bounds} {id : PlayerId} :
    standsIn positions bounds id = true ↔ ∃ position, positions.find? id = some position ∧
      Bounds.Contains bounds position := by
  simp [standsIn, Option.any_eq_true]

theorem reinsert_spec {positions : Positions} {playerId : PlayerId} {position : Vec3}
    {insert : PlayerId → Vec3 → Positions → Node → Positions × Node}
    (insertChild : ∀ (id : PlayerId) (idPosition : Vec3) (child : Node),
      positions.find? id = some idPosition → child.Placed positions →
      Bounds.Contains child.bounds idPosition →
      Inserted positions id child (insert id idPosition positions child))
    (recorded : positions.find? playerId = some position) (bounds : Bounds) :
    ∀ (pids : List PlayerId) (node : Node), node.IsInner → node.Placed positions →
      node.bounds = bounds → (∀ id ∈ pids, (positions.find? id).isSome) →
      (reinsert insert playerId position pids positions node).1 = positions ∧
        (reinsert insert playerId position pids positions node).2.bounds = bounds ∧
        (reinsert insert playerId position pids positions node).2.Placed positions ∧
        (reinsert insert playerId position pids positions node).2.ids.Perm
          (pids.filter (standsIn positions bounds) ++ node.ids) ∧
        (reinsert insert playerId position pids positions node).2.IsInner := by
  intro pids
  induction pids with
  | nil => exact fun node isInner placed sameBounds _ => ⟨rfl, sameBounds, placed, .refl _, isInner⟩
  | cons pid rest ih =>
      intro node isInner placed sameBounds known
      obtain ⟨pidPosition, found⟩ := Option.isSome_iff_exists.mp (known pid List.mem_cons_self)
      have knownRest := fun id member => known id (List.mem_cons_of_mem pid member)
      have looked : (if pid = playerId then (positions, position)
          else positions.subscript pid {}) = (positions, pidPosition) := by
        split
        · next same =>
            subst same
            rw [recorded] at found
            rw [Option.some.inj found]
        · exact UnorderedMap.subscript_of_find?_eq_some _ found
      simp only [reinsert, looked]
      by_cases within : Bounds.Contains bounds pidPosition
      · obtain ⟨moved, movedInner⟩ := insertIntoChild_spec (insert pid pidPosition) node
          (fun child _ childPlaced childInside =>
            insertChild pid pidPosition child found childPlaced childInside)
          isInner placed (sameBounds ▸ within)
        obtain ⟨keeps, restBounds, restPlaced, restPerm, restInner⟩ := ih _ movedInner moved.placed
          (moved.bounds_eq.trans sameBounds) knownRest
        have stands : standsIn positions bounds pid = true := standsIn_iff.mpr ⟨_, found, within⟩
        rw [moved.positions_eq, List.filter_cons_of_pos stands]
        refine ⟨keeps, restBounds, restPlaced, restPerm.trans ?_, restInner⟩
        exact (moved.ids_perm.append_left _).trans List.perm_middle
      · have strays : ¬ standsIn positions bounds pid = true := by
          intro stands
          obtain ⟨_, same, inside⟩ := standsIn_iff.mp stands
          exact within (Option.some.inj (found.symm.trans same) ▸ inside)
        rw [insertIntoChild_of_outside _ placed (sameBounds ▸ within),
          List.filter_cons_of_neg strays]
        exact ih node isInner placed sameBounds knownRest

theorem insertDeep_spec {positions : Positions} {id : PlayerId} {position : Vec3}
    (recorded : positions.find? id = some position) {node : Node}
    (placed : node.Placed positions) (inside : Bounds.Contains node.bounds position) :
    Inserted positions id node (insertDeep id position positions node) := by
  induction node with
  | leaf bounds playerIds =>
      refine ⟨rfl, rfl, ?_, List.perm_append_singleton id playerIds⟩
      intro other member
      rcases List.mem_append.mp member with old | new
      · exact placed other old
      · rw [List.mem_singleton.mp new]
        exact ⟨position, recorded, inside⟩
  | inner bounds playerIds nw ne sw se nwIH neIH swIH seIH =>
      refine (insertIntoChild_spec (insertDeep id position) (inner bounds playerIds nw ne sw se)
        ?_ trivial placed inside).1
      intro child isChild childPlaced childInside
      simp only [children, List.mem_cons, List.not_mem_nil, or_false] at isChild
      rcases isChild with rfl | rfl | rfl | rfl
      · exact nwIH childPlaced childInside
      · exact neIH childPlaced childInside
      · exact swIH childPlaced childInside
      · exact seIH childPlaced childInside

theorem insertAbove_spec (levels : Nat) {positions : Positions} {id : PlayerId} {position : Vec3}
    (recorded : positions.find? id = some position) {node : Node}
    (placed : node.Placed positions) (inside : Bounds.Contains node.bounds position) :
    Inserted positions id node (insertAbove levels id position positions node) := by
  induction levels generalizing id position node with
  | zero => exact insertDeep_spec recorded placed inside
  | succ levels ih =>
      cases node with
      | leaf bounds playerIds =>
          have allInside : ∀ other ∈ playerIds ++ [id], ∃ otherPosition,
              positions.find? other = some otherPosition ∧
                Bounds.Contains bounds otherPosition := by
            intro other member
            rcases List.mem_append.mp member with old | new
            · exact placed other old
            · rw [List.mem_singleton.mp new]
              exact ⟨position, recorded, inside⟩
          simp only [insertAbove]
          split
          · obtain ⟨keeps, sameBounds, newPlaced, perm, -⟩ := reinsert_spec
              (fun _ _ _ found childPlaced childInside => ih found childPlaced childInside)
              recorded bounds (playerIds ++ [id]) (subdivideNode bounds) trivial
              (subdivideNode_placed positions bounds) rfl fun other member => by
                obtain ⟨otherPosition, found, -⟩ := allInside other member
                simp [found]
            rw [List.filter_eq_self.mpr fun other member =>
              standsIn_iff.mpr (allInside other member)] at perm
            refine ⟨keeps, sameBounds, newPlaced, perm.trans ?_⟩
            simp [subdivideNode, createNode, ids]
          · exact ⟨rfl, rfl, allInside, List.perm_append_singleton id playerIds⟩
      | inner bounds playerIds nw ne sw se =>
          exact (insertIntoChild_spec (insertAbove levels id position)
            (inner bounds playerIds nw ne sw se)
            (fun _ _ childPlaced childInside => ih recorded childPlaced childInside)
            trivial placed inside).1

/-- What removing an id from a subtree must do: report whether it was there, and if
so take out exactly one occurrence. -/
structure Removed (positions : Positions) (id : PlayerId) (node : Node)
    (result : Bool × Node) : Prop where
  found_iff : result.1 = true ↔ id ∈ node.ids
  bounds_eq : result.2.bounds = node.bounds
  placed : result.2.Placed positions
  count_eq : ∀ other, result.2.ids.count other +
    (if result.1 = true ∧ other = id then 1 else 0) = node.ids.count other

theorem Removed.of_not_mem {positions : Positions} {id : PlayerId} {node : Node}
    (placed : node.Placed positions) (absent : id ∉ node.ids) :
    Removed positions id node (false, node) :=
  ⟨by simpa using absent, rfl, placed, by simp⟩

theorem Removed.not_mem {positions : Positions} {id : PlayerId} {node node' : Node}
    (missed : Removed positions id node (false, node')) : id ∉ node.ids :=
  fun member => Bool.false_ne_true (missed.found_iff.mpr member)

theorem Removed.count_of_missed {positions : Positions} {id : PlayerId} {node node' : Node}
    (missed : Removed positions id node (false, node')) (other : PlayerId) :
    node'.ids.count other = node.ids.count other := by
  simpa using missed.count_eq other

theorem Removed.inner {positions : Positions} {id : PlayerId} {bounds : Bounds}
    {nw ne sw se nw' ne' sw' se' : Node} {found : Bool}
    (placed : (Node.inner bounds [] nw ne sw se).Placed positions)
    (sameBounds : nw'.bounds = nw.bounds ∧ ne'.bounds = ne.bounds ∧
      sw'.bounds = sw.bounds ∧ se'.bounds = se.bounds)
    (stillPlaced : nw'.Placed positions ∧ ne'.Placed positions ∧
      sw'.Placed positions ∧ se'.Placed positions)
    (found_iff : found = true ↔ id ∈ nw.ids ∨ id ∈ ne.ids ∨ id ∈ sw.ids ∨ id ∈ se.ids)
    (counts : ∀ other, nw'.ids.count other + ne'.ids.count other + sw'.ids.count other +
      se'.ids.count other + (if found = true ∧ other = id then 1 else 0) =
        nw.ids.count other + ne.ids.count other + sw.ids.count other + se.ids.count other) :
    Removed positions id (.inner bounds [] nw ne sw se) (found, .inner bounds [] nw' ne' sw' se') := by
  obtain ⟨-, ⟨nwBounds, neBounds, swBounds, seBounds⟩, -⟩ := placed
  refine ⟨by simpa [ids, or_assoc] using found_iff, rfl,
    ⟨rfl, ⟨sameBounds.1.trans nwBounds, sameBounds.2.1.trans neBounds,
      sameBounds.2.2.1.trans swBounds, sameBounds.2.2.2.trans seBounds⟩, stillPlaced⟩,
    fun other => ?_⟩
  simpa only [ids, List.nil_append, List.count_append] using counts other

theorem Removed.leaf {positions : Positions} {id : PlayerId} {bounds : Bounds}
    {playerIds : List PlayerId} (placed : (Node.leaf bounds playerIds).Placed positions)
    (present : id ∈ playerIds) :
    Removed positions id (.leaf bounds playerIds) (true, .leaf bounds (playerIds.erase id)) := by
  refine ⟨by simpa [ids] using present, rfl,
    fun other member => placed other (List.mem_of_mem_erase member), fun other => ?_⟩
  have positive := List.count_pos_iff.mpr present
  by_cases same : other = id
  · subst same
    simp only [ids, List.count_erase_self, and_self, ↓reduceIte]
    omega
  · simp [ids, List.count_erase_of_ne same, same]

theorem removeFromNode_inner {positions : Positions} {id : PlayerId} {position : Vec3}
    {bounds : Bounds} {nw ne sw se : Node} (inside : Bounds.Contains bounds position)
    (placed : (Node.inner bounds [] nw ne sw se).Placed positions)
    (fromNw : Removed positions id nw (removeFromNode id position nw))
    (fromNe : Removed positions id ne (removeFromNode id position ne))
    (fromSw : Removed positions id sw (removeFromNode id position sw))
    (fromSe : Removed positions id se (removeFromNode id position se)) :
    Removed positions id (.inner bounds [] nw ne sw se)
      (removeFromNode id position (.inner bounds [] nw ne sw se)) := by
  have whole := placed
  obtain ⟨-, -, inNw, inNe, inSw, inSe⟩ := placed
  rcases nwResult : removeFromNode id position nw with ⟨nwFound, nw'⟩
  rcases neResult : removeFromNode id position ne with ⟨neFound, ne'⟩
  rcases swResult : removeFromNode id position sw with ⟨swFound, sw'⟩
  rcases seResult : removeFromNode id position se with ⟨seFound, se'⟩
  rw [nwResult] at fromNw
  rw [neResult] at fromNe
  rw [swResult] at fromSw
  rw [seResult] at fromSe
  simp only [removeFromNode, inside, not_true_eq_false, ↓reduceIte, nwResult, neResult,
    swResult, seResult]
  -- follow the short-circuit order; children that are not reached stay as they were
  cases nwFound with
  | true =>
      refine .inner whole ⟨fromNw.bounds_eq, rfl, rfl, rfl⟩
        ⟨fromNw.placed, inNe, inSw, inSe⟩ ?_ fun other => ?_
      · simp [fromNw.found_iff.mp rfl]
      · have removed := fromNw.count_eq other
        simp only at removed ⊢
        omega
  | false =>
      cases neFound with
      | true =>
          refine .inner whole ⟨fromNw.bounds_eq, fromNe.bounds_eq, rfl, rfl⟩
            ⟨fromNw.placed, fromNe.placed, inSw, inSe⟩ ?_ fun other => ?_
          · simp [fromNe.found_iff.mp rfl]
          · have removed := fromNe.count_eq other
            simp only [fromNw.count_of_missed] at removed ⊢
            omega
      | false =>
          cases swFound with
          | true =>
              refine .inner whole ⟨fromNw.bounds_eq, fromNe.bounds_eq, fromSw.bounds_eq, rfl⟩
                ⟨fromNw.placed, fromNe.placed, fromSw.placed, inSe⟩ ?_ fun other => ?_
              · simp [fromSw.found_iff.mp rfl]
              · have removed := fromSw.count_eq other
                simp only [fromNw.count_of_missed, fromNe.count_of_missed] at removed ⊢
                omega
          | false =>
              refine .inner whole
                ⟨fromNw.bounds_eq, fromNe.bounds_eq, fromSw.bounds_eq, fromSe.bounds_eq⟩
                ⟨fromNw.placed, fromNe.placed, fromSw.placed, fromSe.placed⟩ ?_
                fun other => ?_
              · simpa [fromNw.not_mem, fromNe.not_mem, fromSw.not_mem] using fromSe.found_iff
              · have removed := fromSe.count_eq other
                simp only [fromNw.count_of_missed, fromNe.count_of_missed,
                  fromSw.count_of_missed] at removed ⊢
                omega

theorem removeFromNode_spec {positions : Positions} {id : PlayerId} {position : Vec3}
    (recorded : positions.find? id = some position) {node : Node}
    (placed : node.Placed positions) :
    Removed positions id node (removeFromNode id position node) := by
  have elsewhere : ∀ {other : Node}, other.Placed positions →
      ¬ Bounds.Contains other.bounds position → id ∉ other.ids := by
    intro other otherPlaced outside member
    obtain ⟨found, same, inside⟩ := otherPlaced.position member
    rw [recorded] at same
    exact outside (Option.some.inj same ▸ inside)
  induction node with
  | leaf bounds playerIds =>
      by_cases inside : Bounds.Contains bounds position
      · simp only [removeFromNode, inside, not_true_eq_false, ↓reduceIte]
        split
        · next present => exact .leaf placed present
        · next absent => exact .of_not_mem placed absent
      · simp only [removeFromNode, inside, not_false_eq_true, ↓reduceIte]
        exact .of_not_mem placed (elsewhere placed inside)
  | inner bounds playerIds nw ne sw se nwIH neIH swIH seIH =>
      by_cases inside : Bounds.Contains bounds position
      · have whole := placed
        obtain ⟨rfl, -, inNw, inNe, inSw, inSe⟩ := placed
        exact removeFromNode_inner inside whole (nwIH inNw) (neIH inNe) (swIH inSw) (seIH inSe)
      · simp only [removeFromNode, inside, not_false_eq_true, ↓reduceIte]
        exact .of_not_mem placed (elsewhere placed inside)

theorem inRange_iff {positions : Positions} {center : Vec3} {radius : ℚ} {id : PlayerId} :
    inRange positions center radius id = true ↔
      ∃ position, positions.find? id = some position ∧
        position.distSqXY center ≤ radius * radius := by
  unfold inRange
  cases positions.find? id <;> simp

theorem filter_inRange_eq_nil {positions : Positions} {center : Vec3} {radius : ℚ} {node : Node}
    (placed : node.Placed positions) (misses : ¬ Bounds.Intersects node.bounds center radius) :
    node.ids.filter (inRange positions center radius) = [] := by
  refine List.filter_eq_nil_iff.mpr fun id member close => misses ?_
  obtain ⟨position, found, inside⟩ := placed.position member
  obtain ⟨other, same, within⟩ := inRange_iff.mp close
  rw [found] at same
  cases same
  calc Rect.closestDistSq node.bounds center.x center.y
      ≤ (center.x - position.x) ^ 2 + (center.y - position.y) ^ 2 :=
        Rect.closestDistSq_le inside center.x center.y
    _ = position.distSqXY center := by unfold Vec3.distSqXY; ring
    _ ≤ radius * radius := within

/-- Pruning changes nothing: the query is a plain filter over all ids. -/
theorem queryNode_eq_filter {positions : Positions} {center : Vec3} {radius : ℚ} {node : Node}
    (placed : node.Placed positions) :
    node.queryNode positions center radius =
      node.ids.filter (inRange positions center radius) := by
  induction node with
  | leaf bounds playerIds =>
      by_cases meets : Bounds.Intersects bounds center radius
      · simp [queryNode, meets, ids]
      · simp [queryNode, meets, filter_inRange_eq_nil placed meets]
  | inner bounds playerIds nw ne sw se nwIH neIH swIH seIH =>
      by_cases meets : Bounds.Intersects bounds center radius
      · obtain ⟨rfl, -, inNw, inNe, inSw, inSe⟩ := placed
        simp [queryNode, meets, ids, nwIH inNw, neIH inNe, swIH inSw, seIH inSe]
      · simp [queryNode, meets, filter_inRange_eq_nil placed meets]

end Node

/-- The tree stands for the partial map `index`: same bindings, every indexed id once
in the leaf around its position, nothing else. -/
structure QuadTree.Represents (tree : QuadTree) (index : PlayerId → Option Vec3) : Prop where
  positions : ∀ id, tree.playerPositions.find? id = index id
  placed : tree.root.Placed tree.playerPositions
  nodup : tree.root.ids.Nodup
  mem_iff : ∀ id, id ∈ tree.root.ids ↔ (index id).isSome

theorem QuadTree.insert_root (tree : QuadTree) (id : PlayerId) (position : Vec3) :
    (tree.insert id position).root = (Node.insertIntoNode 0 id position
      (tree.playerPositions.assign id position) tree.root).2 := rfl

theorem QuadTree.insert_playerPositions (tree : QuadTree) (id : PlayerId) (position : Vec3) :
    (tree.insert id position).playerPositions = (Node.insertIntoNode 0 id position
      (tree.playerPositions.assign id position) tree.root).1 := rfl

theorem QuadTree.remove_of_find?_eq_none {tree : QuadTree} {id : PlayerId}
    (absent : tree.playerPositions.find? id = none) : tree.remove id = tree := by
  simp only [QuadTree.remove, absent]

theorem QuadTree.remove_of_find?_eq_some {tree : QuadTree} {id : PlayerId} {position : Vec3}
    (found : tree.playerPositions.find? id = some position) :
    tree.remove id = ⟨(Node.removeFromNode id position tree.root).2,
      tree.playerPositions.erase id⟩ := by
  simp only [QuadTree.remove, found]

namespace QuadTree.Represents

variable {tree : QuadTree} {index : PlayerId → Option Vec3}

theorem create {x y width height : ℚ} (created : QuadTree.create? x y width height = some tree) :
    tree.Represents fun _ => none := by
  unfold QuadTree.create? at created
  split at created
  · cases created
  · cases created
    exact ⟨by simp, by simp [Node.createNode, Node.Placed], by simp [Node.createNode, Node.ids],
      by simp [Node.createNode, Node.ids]⟩

theorem congr {other : PlayerId → Option Vec3} (represents : tree.Represents index)
    (same : ∀ id, other id = index id) : tree.Represents other := by
  rw [funext same]
  exact represents

theorem insert (represents : tree.Represents index) {id : PlayerId} {position : Vec3}
    (fresh : index id = none) (inside : Bounds.Contains tree.root.bounds position) :
    (tree.insert id position).Represents (Function.update index id (some position)) ∧
      (tree.insert id position).root.bounds = tree.root.bounds := by
  have absent : id ∉ tree.root.ids := by simp [represents.mem_iff, fresh]
  have placed : tree.root.Placed (tree.playerPositions.assign id position) :=
    represents.placed.congr fun other member =>
      UnorderedMap.find?_assign_of_ne _ _ fun same => absent (same ▸ member)
  have inserted : Node.Inserted _ id tree.root (Node.insertIntoNode 0 id position
      (tree.playerPositions.assign id position) tree.root) :=
    Node.insertAbove_spec _ (UnorderedMap.find?_assign_self tree.playerPositions id position)
      placed inside
  have perm := inserted.ids_perm
  refine ⟨⟨fun other => ?_, ?_, ?_, fun other => ?_⟩, inserted.bounds_eq⟩
  · rw [insert_playerPositions, inserted.positions_eq, UnorderedMap.find?_assign,
      Function.update_apply, represents.positions]
  · rw [insert_playerPositions, insert_root, inserted.positions_eq]
    exact inserted.placed
  · exact perm.nodup_iff.mpr (List.nodup_cons.mpr ⟨absent, represents.nodup⟩)
  · rw [Function.update_apply]
    refine perm.mem_iff.trans ?_
    rw [List.mem_cons, represents.mem_iff]
    split <;> simp_all

theorem remove (represents : tree.Represents index) (id : PlayerId) :
    (tree.remove id).Represents (Function.update index id none) ∧
      (tree.remove id).root.bounds = tree.root.bounds := by
  cases found : tree.playerPositions.find? id with
  | none =>
      rw [remove_of_find?_eq_none found]
      rw [represents.positions] at found
      refine ⟨represents.congr fun other => ?_, rfl⟩
      rw [← found, Function.update_eq_self]
  | some position =>
      rw [remove_of_find?_eq_some found]
      have removed := Node.removeFromNode_spec found represents.placed
      have present : id ∈ tree.root.ids := by
        rw [represents.mem_iff, ← represents.positions, found]
        rfl
      have hit := removed.found_iff.mpr present
      have counts : ∀ other, (Node.removeFromNode id position tree.root).2.ids.count other +
          (if other = id then 1 else 0) = tree.root.ids.count other := by
        intro other
        simpa [hit] using removed.count_eq other
      have mem_iff : ∀ other, other ∈ (Node.removeFromNode id position tree.root).2.ids ↔
          other ≠ id ∧ other ∈ tree.root.ids := by
        intro other
        have count := counts other
        have once := List.nodup_iff_count_le_one.mp represents.nodup other
        rw [← List.count_pos_iff, ← List.count_pos_iff]
        split_ifs at count with same
        · simp only [same, ne_eq, not_true_eq_false, false_and, iff_false]
          rw [same] at count once
          omega
        · simp only [ne_eq, same, not_false_eq_true, true_and]
          omega
      refine ⟨⟨fun other => ?_, ?_, ?_, fun other => ?_⟩, removed.bounds_eq⟩
      · rw [UnorderedMap.find?_erase, Function.update_apply, represents.positions]
      · exact removed.placed.congr fun other member =>
          UnorderedMap.find?_erase_of_ne _ ((mem_iff other).mp member).1
      · refine List.nodup_iff_count_le_one.mpr fun other => ?_
        have once := List.nodup_iff_count_le_one.mp represents.nodup other
        have count := counts other
        change (Node.removeFromNode id position tree.root).2.ids.count other ≤ 1
        omega
      · rw [mem_iff, Function.update_apply, represents.mem_iff]
        split <;> simp_all

theorem update (represents : tree.Represents index) {id : PlayerId} {position : Vec3}
    (inside : Bounds.Contains tree.root.bounds position) :
    (tree.update id position).Represents (Function.update index id (some position)) ∧
      (tree.update id position).root.bounds = tree.root.bounds := by
  obtain ⟨removed, sameBounds⟩ := represents.remove id
  have freed : Function.update index id none id = none := Function.update_self id none index
  obtain ⟨inserted, insertedBounds⟩ := removed.insert freed (sameBounds ▸ inside)
  rw [Function.update_idem] at inserted
  exact ⟨inserted, insertedBounds.trans sameBounds⟩

theorem query_nodup (represents : tree.Represents index) (center : Vec3) (radius : ℚ) :
    (tree.query center radius).Nodup := by
  unfold QuadTree.query
  rw [Node.queryNode_eq_filter represents.placed]
  exact represents.nodup.filter _

theorem mem_query_iff (represents : tree.Represents index) (center : Vec3) (radius : ℚ)
    (id : PlayerId) :
    id ∈ tree.query center radius ↔
      ∃ position, index id = some position ∧ position.distSqXY center ≤ radius * radius := by
  unfold QuadTree.query
  rw [Node.queryNode_eq_filter represents.placed, List.mem_filter, Node.inRange_iff,
    represents.mem_iff]
  simp only [represents.positions]
  constructor
  · exact fun close => close.2
  · rintro ⟨position, indexed, within⟩
    exact ⟨by rw [indexed]; rfl, position, indexed, within⟩

end QuadTree.Represents

end CppMMO.Game.Spatial
