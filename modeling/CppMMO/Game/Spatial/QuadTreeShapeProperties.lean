import CppMMO.Game.Spatial.QuadTreeHistoryProperties

/-! The shape of the tree after any calls, and how deep the calls of `InsertIntoNode`
nest: neither depends on where the positions are or on which ids are already there. -/

set_option autoImplicit false

namespace CppMMO.Game.Spatial

open CppMMO.Lib

namespace Node

def playerIds : Node → List PlayerId
  | leaf _ playerIds => playerIds
  | inner _ playerIds _ _ _ _ => playerIds

/-- The nodes of a subtree whose root is at the given depth, each with its own depth. -/
def nodes (depth : Nat) : Node → List (Nat × Node)
  | leaf bounds playerIds => [(depth, leaf bounds playerIds)]
  | inner bounds playerIds nw ne sw se =>
      (depth, inner bounds playerIds nw ne sw se) ::
        (nw.nodes (depth + 1) ++ ne.nodes (depth + 1) ++ sw.nodes (depth + 1) ++
          se.nodes (depth + 1))

/-- A subtree with room for `levels` more levels below its root. -/
def Shaped (levels : Nat) : Node → Prop
  | leaf _ playerIds => 0 < levels → playerIds.length ≤ maxPlayersPerNode
  | inner bounds playerIds nw ne sw se =>
      0 < levels ∧ playerIds = [] ∧
        [nw.bounds, ne.bounds, sw.bounds, se.bounds] = bounds.quadrants ∧
        nw.Shaped (levels - 1) ∧ ne.Shaped (levels - 1) ∧ sw.Shaped (levels - 1) ∧
        se.Shaped (levels - 1)

theorem shaped_createNode (levels : Nat) (bounds : Bounds) :
    (createNode bounds).Shaped levels :=
  fun _ => Nat.zero_le _

theorem shaped_subdivideNode (levels : Nat) (bounds : Bounds) :
    (subdivideNode bounds).Shaped (levels + 1) := by
  have half : ∀ side : ℚ, side * 0.5 = side / 2 := fun side => by norm_num [div_eq_mul_inv]
  refine ⟨levels.succ_pos, rfl, ?_, shaped_createNode _ _, shaped_createNode _ _, shaped_createNode _ _,
    shaped_createNode _ _⟩
  simp [createNode, Node.bounds, Rect.quadrants, Rect.nw, Rect.ne, Rect.sw, Rect.se, half]

/-! ## Insertion -/

/-- The first child that contains the position, and the node with that child replaced. -/
def childAt? (position : Vec3) : Node → Option (Node × (Node → Node))
  | leaf _ _ => none
  | inner bounds playerIds nw ne sw se =>
      if Bounds.Contains nw.bounds position then
        some (nw, fun child => inner bounds playerIds child ne sw se)
      else if Bounds.Contains ne.bounds position then
        some (ne, fun child => inner bounds playerIds nw child sw se)
      else if Bounds.Contains sw.bounds position then
        some (sw, fun child => inner bounds playerIds nw ne child se)
      else if Bounds.Contains se.bounds position then
        some (se, fun child => inner bounds playerIds nw ne sw child)
      else none

theorem insertIntoChild_of_none {insert : Positions → Node → Positions × Node}
    {positions : Positions} {position : Vec3} {node : Node}
    (outside : node.childAt? position = none) :
    insertIntoChild insert positions position node = (positions, node) := by
  cases node with
  | leaf => rfl
  | inner bounds playerIds nw ne sw se =>
      simp only [childAt?] at outside
      split_ifs at outside with notNw notNe notSw notSe
      simp only [insertIntoChild, notNw, notNe, notSw, notSe, ↓reduceIte]

theorem insertIntoChild_of_some {insert : Positions → Node → Positions × Node}
    {positions : Positions} {position : Vec3} {node child : Node} {put : Node → Node}
    (found : node.childAt? position = some (child, put)) :
    insertIntoChild insert positions position node =
      ((insert positions child).1, put (insert positions child).2) := by
  cases node with
  | leaf => cases found
  | inner bounds playerIds nw ne sw se =>
      simp only [childAt?] at found
      split_ifs at found with atNw atNe atSw atSe
      all_goals
        cases found
        simp only [insertIntoChild, *, ↓reduceIte]

/-- A child of a shaped node is shaped one level down, and may be replaced by one with
the same bounds. -/
theorem Shaped.child {levels : Nat} {position : Vec3} {node child : Node} {put : Node → Node}
    (shaped : node.Shaped (levels + 1)) (found : node.childAt? position = some (child, put)) :
    child.Shaped levels ∧ ∀ other : Node, other.bounds = child.bounds → other.Shaped levels →
      (put other).Shaped (levels + 1) ∧ (put other).bounds = node.bounds := by
  cases node with
  | leaf => cases found
  | inner bounds playerIds nw ne sw se =>
      obtain ⟨room, none, tiled, nwShaped, neShaped, swShaped, seShaped⟩ := shaped
      simp only [childAt?] at found
      split_ifs at found with atNw atNe atSw atSe
      · cases found
        exact ⟨nwShaped, fun other same otherShaped =>
          ⟨⟨room, none, by rw [same]; exact tiled, otherShaped, neShaped, swShaped, seShaped⟩, rfl⟩⟩
      · cases found
        exact ⟨neShaped, fun other same otherShaped =>
          ⟨⟨room, none, by rw [same]; exact tiled, nwShaped, otherShaped, swShaped, seShaped⟩, rfl⟩⟩
      · cases found
        exact ⟨swShaped, fun other same otherShaped =>
          ⟨⟨room, none, by rw [same]; exact tiled, nwShaped, neShaped, otherShaped, seShaped⟩, rfl⟩⟩
      · cases found
        exact ⟨seShaped, fun other same otherShaped =>
          ⟨⟨room, none, by rw [same]; exact tiled, nwShaped, neShaped, swShaped, otherShaped⟩, rfl⟩⟩

/-- What an insertion into a subtree must do to its shape. -/
structure Reshaped (levels : Nat) (node result : Node) : Prop where
  shaped : result.Shaped levels
  bounds_eq : result.bounds = node.bounds

theorem Shaped.insertIntoChild {levels : Nat} {insert : Positions → Node → Positions × Node}
    (insertChild : ∀ positions child, child.Shaped levels →
      Reshaped levels child (insert positions child).2)
    {node : Node} (shaped : node.Shaped (levels + 1)) (positions : Positions) (position : Vec3) :
    Reshaped (levels + 1) node (Node.insertIntoChild insert positions position node).2 := by
  cases found : node.childAt? position with
  | none =>
      rw [insertIntoChild_of_none found]
      exact ⟨shaped, rfl⟩
  | some slot =>
      obtain ⟨child, put⟩ := slot
      obtain ⟨childShaped, replace⟩ := shaped.child found
      have inserted := insertChild positions child childShaped
      obtain ⟨putShaped, putBounds⟩ := replace _ inserted.bounds_eq inserted.shaped
      rw [insertIntoChild_of_some found]
      exact ⟨putShaped, putBounds⟩

theorem Shaped.reinsert {levels : Nat}
    {insert : PlayerId → Vec3 → Positions → Node → Positions × Node}
    (insertChild : ∀ id idPosition positions child, child.Shaped levels →
      Reshaped levels child (insert id idPosition positions child).2)
    {node : Node} (shaped : node.Shaped (levels + 1)) (playerId : PlayerId) (position : Vec3)
    (pids : List PlayerId) (positions : Positions) :
    Reshaped (levels + 1) node
      (Node.reinsert insert playerId position pids positions node).2 := by
  induction pids generalizing positions node with
  | nil => exact ⟨shaped, rfl⟩
  | cons pid rest ih =>
      simp only [Node.reinsert]
      generalize (if pid = playerId then (positions, position)
        else positions.subscript pid {}) = looked
      have first := shaped.insertIntoChild (insertChild pid looked.2) looked.1 looked.2
      have others := ih first.shaped
        (Node.insertIntoChild (insert pid looked.2) looked.1 looked.2 node).1
      exact ⟨others.shaped, others.bounds_eq.trans first.bounds_eq⟩

theorem Shaped.reshaped_insertAbove (levels : Nat) (playerId : PlayerId) (position : Vec3)
    (positions : Positions) {node : Node} (shaped : node.Shaped levels) :
    Reshaped levels node (Node.insertAbove levels playerId position positions node).2 := by
  induction levels generalizing playerId position positions node with
  | zero =>
      cases node with
      | leaf bounds playerIds => exact ⟨fun above => absurd above (by decide), rfl⟩
      | inner => exact absurd shaped.1 (by decide)
  | succ levels ih =>
      cases node with
      | leaf bounds playerIds =>
          simp only [Node.insertAbove]
          split
          · have spread := (shaped_subdivideNode levels bounds).reinsert
              (fun id idPosition positions _ => ih id idPosition positions) playerId position
              (playerIds ++ [playerId]) positions
            exact ⟨spread.shaped, spread.bounds_eq⟩
          · next fits => exact ⟨fun _ => Nat.le_of_not_lt fits, rfl⟩
      | inner bounds playerIds nw ne sw se =>
          exact shaped.insertIntoChild (fun positions _ => ih playerId position positions)
            positions position

/-! ## Removal -/

theorem removeFromNode_bounds (playerId : PlayerId) (position : Vec3) (node : Node) :
    (removeFromNode playerId position node).2.bounds = node.bounds := by
  cases node with
  | leaf bounds playerIds =>
      simp only [removeFromNode]
      split_ifs <;> rfl
  | inner bounds playerIds nw ne sw se =>
      simp only [removeFromNode]
      split_ifs <;> rfl

theorem Shaped.removeFromNode {levels : Nat} {node : Node} (shaped : node.Shaped levels)
    (playerId : PlayerId) (position : Vec3) :
    (Node.removeFromNode playerId position node).2.Shaped levels := by
  induction node generalizing levels with
  | leaf bounds playerIds =>
      simp only [Node.removeFromNode]
      split_ifs with inside member
      · exact fun above => (List.length_erase_le).trans (shaped above)
      · exact shaped
      · exact shaped
  | inner bounds playerIds nw ne sw se nwIH neIH swIH seIH =>
      obtain ⟨room, none, tiled, nwShaped, neShaped, swShaped, seShaped⟩ := shaped
      have nwBounds := removeFromNode_bounds playerId position nw
      have neBounds := removeFromNode_bounds playerId position ne
      have swBounds := removeFromNode_bounds playerId position sw
      have seBounds := removeFromNode_bounds playerId position se
      simp only [Node.removeFromNode]
      split_ifs with inside inNw inNe inSw
      · exact ⟨room, none, by rw [nwBounds]; exact tiled, nwIH nwShaped, neShaped, swShaped, seShaped⟩
      · exact ⟨room, none, by rw [nwBounds, neBounds]; exact tiled, nwIH nwShaped, neIH neShaped,
          swShaped, seShaped⟩
      · exact ⟨room, none, by rw [nwBounds, neBounds, swBounds]; exact tiled, nwIH nwShaped,
          neIH neShaped, swIH swShaped, seShaped⟩
      · exact ⟨room, none, by rw [nwBounds, neBounds, swBounds, seBounds]; exact tiled, nwIH nwShaped,
          neIH neShaped, swIH swShaped, seIH seShaped⟩
      · exact ⟨room, none, tiled, nwShaped, neShaped, swShaped, seShaped⟩

/-! ## Nested calls -/

def insertIntoChild? (insert : Positions → Node → Option (Positions × Node))
    (positions : Positions) (position : Vec3) (node : Node) : Option (Positions × Node) :=
  match node.childAt? position with
  | none => some (positions, node)
  | some (child, put) =>
      (insert positions child).map fun (positions, child) => (positions, put child)

def reinsert? (insert : PlayerId → Vec3 → Positions → Node → Option (Positions × Node))
    (playerId : PlayerId) (position : Vec3) :
    List PlayerId → Positions → Node → Option (Positions × Node)
  | [], positions, node => some (positions, node)
  | pid :: rest, positions, node => do
      let (positions, playerPos) :=
        if pid = playerId then (positions, position) else positions.subscript pid {}
      let (positions, node) ← insertIntoChild? (insert pid playerPos) positions playerPos node
      reinsert? insert playerId position rest positions node

/-- `InsertIntoNode` as it calls itself, with no result when more than `calls` calls
would be open at once. -/
def insertIntoNode? :
    Nat → Nat → PlayerId → Vec3 → Positions → Node → Option (Positions × Node)
  | 0, _, _, _, _, _ => none
  | calls + 1, depth, playerId, position, positions, node =>
      match node with
      | leaf bounds playerIds =>
          let playerIds := playerIds ++ [playerId]
          if playerIds.length > maxPlayersPerNode ∧ depth < maxDepth then
            reinsert? (insertIntoNode? calls (depth + 1)) playerId position playerIds positions
              (subdivideNode bounds)
          else some (positions, leaf bounds playerIds)
      | inner bounds playerIds nw ne sw se =>
          insertIntoChild? (insertIntoNode? calls (depth + 1) playerId position) positions position
            (inner bounds playerIds nw ne sw se)

theorem Shaped.insertIntoChild?_eq {levels : Nat} {insert : Positions → Node → Positions × Node}
    {insert? : Positions → Node → Option (Positions × Node)}
    (returns : ∀ positions child, child.Shaped levels →
      insert? positions child = some (insert positions child))
    {node : Node} (shaped : node.Shaped (levels + 1)) (positions : Positions) (position : Vec3) :
    Node.insertIntoChild? insert? positions position node =
      some (Node.insertIntoChild insert positions position node) := by
  unfold Node.insertIntoChild?
  cases found : node.childAt? position with
  | none => rw [insertIntoChild_of_none found]
  | some slot =>
      obtain ⟨child, put⟩ := slot
      rw [insertIntoChild_of_some found]
      simp only [returns positions child (shaped.child found).1, Option.map_some]

theorem Shaped.reinsert?_eq {levels : Nat}
    {insert : PlayerId → Vec3 → Positions → Node → Positions × Node}
    {insert? : PlayerId → Vec3 → Positions → Node → Option (Positions × Node)}
    (insertChild : ∀ id idPosition positions child, child.Shaped levels →
      Reshaped levels child (insert id idPosition positions child).2)
    (returns : ∀ id idPosition positions child, child.Shaped levels →
      insert? id idPosition positions child = some (insert id idPosition positions child))
    {node : Node} (shaped : node.Shaped (levels + 1)) (playerId : PlayerId) (position : Vec3)
    (pids : List PlayerId) (positions : Positions) :
    Node.reinsert? insert? playerId position pids positions node =
      some (Node.reinsert insert playerId position pids positions node) := by
  induction pids generalizing positions node with
  | nil => rfl
  | cons pid rest ih =>
      simp only [Node.reinsert?, Node.reinsert]
      generalize (if pid = playerId then (positions, position)
        else positions.subscript pid {}) = looked
      rw [shaped.insertIntoChild?_eq (returns pid looked.2) looked.1 looked.2]
      exact ih (shaped.insertIntoChild (insertChild pid looked.2) looked.1 looked.2).shaped _

/-- On a shaped subtree no more calls are open at once than there are levels. -/
theorem Shaped.insertIntoNode?_eq {levels depth : Nat} (above : depth + levels = maxDepth)
    {node : Node} (shaped : node.Shaped levels) (playerId : PlayerId) (position : Vec3)
    (positions : Positions) :
    Node.insertIntoNode? (levels + 1) depth playerId position positions node =
      some (Node.insertAbove levels playerId position positions node) := by
  induction levels generalizing depth playerId position positions node with
  | zero =>
      cases node with
      | leaf bounds playerIds =>
          have deepest : ¬ depth < maxDepth := by omega
          simp only [Node.insertIntoNode?, deepest, and_false, ↓reduceIte]
          rfl
      | inner => exact absurd shaped.1 (by decide)
  | succ levels ih =>
      have below : depth + 1 + levels = maxDepth := by omega
      have splits : depth < maxDepth := by omega
      cases node with
      | leaf bounds playerIds =>
          rw [Node.insertIntoNode?, Node.insertAbove]
          simp only [splits, and_true]
          split
          · exact (shaped_subdivideNode levels bounds).reinsert?_eq
              (fun id idPosition positions _ childShaped =>
                childShaped.reshaped_insertAbove levels id idPosition positions)
              (fun id idPosition positions _ childShaped =>
                ih below childShaped id idPosition positions)
              playerId position _ positions
          · rfl
      | inner bounds playerIds nw ne sw se =>
          exact shaped.insertIntoChild?_eq
            (fun positions _ childShaped => ih below childShaped playerId position positions)
            positions position

/-! ## Every node of the tree -/

/-- What the shape asks of one node at its depth. -/
structure ShapedAt (depth : Nat) (node : Node) : Prop where
  depth_le : depth ≤ maxDepth
  children_length : node.children.length = 0 ∨ node.children.length = 4
  tiled : node.children ≠ [] → ∀ point : Vec3,
    node.children.countP (fun child => Bounds.Contains child.bounds point) =
      if Bounds.Contains node.bounds point then 1 else 0
  inner_playerIds : node.children ≠ [] → node.playerIds = []
  leaf_playerIds : node.children = [] → depth < maxDepth →
    node.playerIds.length ≤ maxPlayersPerNode

theorem Shaped.shapedAt {levels depth : Nat} (above : depth + levels = maxDepth) {node : Node}
    (shaped : node.Shaped levels) : node.ShapedAt depth := by
  cases node with
  | leaf bounds playerIds =>
      exact ⟨by omega, .inl rfl, fun inner => absurd rfl inner, fun inner => absurd rfl inner,
        fun _ higher => shaped (by omega)⟩
  | inner bounds playerIds nw ne sw se =>
      obtain ⟨-, none, tiled, -⟩ := shaped
      refine ⟨by omega, .inr rfl, fun _ point => ?_, fun _ => none, fun isLeaf => by cases isLeaf⟩
      have counted := Rect.countP_quadrants bounds point.x point.y
      rw [← tiled] at counted
      exact counted

theorem Shaped.nodes_shapedAt {levels depth : Nat} (above : depth + levels = maxDepth)
    {node : Node} (shaped : node.Shaped levels) {nodeDepth : Nat} {other : Node}
    (member : (nodeDepth, other) ∈ node.nodes depth) : other.ShapedAt nodeDepth := by
  induction node generalizing levels depth with
  | leaf bounds playerIds =>
      cases List.mem_singleton.mp member
      exact shaped.shapedAt above
  | inner bounds playerIds nw ne sw se nwIH neIH swIH seIH =>
      simp only [nodes, List.mem_cons, List.mem_append, Prod.mk.injEq] at member
      rcases member with ⟨rfl, rfl⟩ | ((member | member) | member) | member
      · exact shaped.shapedAt above
      all_goals
        obtain ⟨room, -, -, nwShaped, neShaped, swShaped, seShaped⟩ := shaped
        have below : depth + 1 + (levels - 1) = maxDepth := by omega
      · exact nwIH below nwShaped member
      · exact neIH below neShaped member
      · exact swIH below swShaped member
      · exact seIH below seShaped member

/-- A full tree of `levels + 1` levels has `(4 ^ (levels + 1) - 1) / 3` nodes. -/
theorem Shaped.countNodes_le {levels : Nat} {node : Node} (shaped : node.Shaped levels) :
    3 * node.countNodes + 1 ≤ 4 ^ (levels + 1) := by
  induction node generalizing levels with
  | leaf bounds playerIds =>
      have some : 1 ≤ 4 ^ levels := Nat.one_le_pow levels 4 (by decide)
      simp only [countNodes, pow_succ]
      omega
  | inner bounds playerIds nw ne sw se nwIH neIH swIH seIH =>
      obtain ⟨room, -, -, nwShaped, neShaped, swShaped, seShaped⟩ := shaped
      have fewer := nwIH nwShaped
      have fewerNe := neIH neShaped
      have fewerSw := swIH swShaped
      have fewerSe := seIH seShaped
      rw [Nat.sub_add_cancel room] at fewer fewerNe fewerSw fewerSe
      simp only [countNodes, pow_succ]
      omega

end Node

namespace QuadTree

structure Shape (tree : QuadTree) : Prop where
  nodes : ∀ depth node, (depth, node) ∈ tree.root.nodes 0 → node.ShapedAt depth
  totalNodes : tree.getTotalNodes ≤ 5461
  inserts : ∀ (playerId : PlayerId) (position : Vec3) (positions : Positions),
    Node.insertIntoNode? (maxDepth + 1) 0 playerId position positions tree.root =
      some (Node.insertIntoNode 0 playerId position positions tree.root)

theorem Shape.of_shaped {tree : QuadTree} (shaped : tree.root.Shaped maxDepth) : tree.Shape := by
  have bounded := shaped.countNodes_le
  refine ⟨fun depth node member => shaped.nodes_shapedAt (Nat.zero_add maxDepth) member, ?_,
    fun playerId position positions =>
      shaped.insertIntoNode?_eq (Nat.zero_add maxDepth) playerId position positions⟩
  simp only [maxDepth] at bounded
  unfold getTotalNodes
  omega

theorem shaped_insert {tree : QuadTree} (shaped : tree.root.Shaped maxDepth)
    (playerId : PlayerId) (position : Vec3) :
    (tree.insert playerId position).root.Shaped maxDepth :=
  (shaped.reshaped_insertAbove maxDepth playerId position _).shaped

theorem shaped_remove {tree : QuadTree} (shaped : tree.root.Shaped maxDepth)
    (playerId : PlayerId) : (tree.remove playerId).root.Shaped maxDepth := by
  unfold remove
  split
  · exact shaped
  · exact shaped.removeFromNode playerId _

theorem shaped_perform {tree : QuadTree} (shaped : tree.root.Shaped maxDepth)
    (operation : Operation) : (tree.perform operation).root.Shaped maxDepth := by
  cases operation with
  | insert playerId position => exact shaped_insert shaped playerId position
  | update playerId newPosition =>
      exact shaped_insert (shaped_remove shaped playerId) playerId newPosition
  | remove playerId => exact shaped_remove shaped playerId
  | clear => exact Node.shaped_createNode maxDepth tree.root.bounds

end QuadTree

/-- Any calls, with any ids and positions, leave a tree of this shape. -/
theorem shape_of_history {x y width height : ℚ} {start : QuadTree}
    (created : QuadTree.create? x y width height = some start) (history : List Operation) :
    (history.foldl QuadTree.perform start).Shape := by
  apply QuadTree.Shape.of_shaped
  have initially : start.root.Shaped maxDepth := by
    unfold QuadTree.create? at created
    split at created
    · cases created
    · cases created
      exact Node.shaped_createNode maxDepth _
  clear created
  induction history generalizing start with
  | nil => exact initially
  | cons operation history ih => exact ih (QuadTree.shaped_perform initially operation)

/-- Five ids at one position are split down to the deepest level, which then holds them all. -/
theorem shape_of_coincident_players :
    ∃ start, QuadTree.create? 0 0 200 200 = some start ∧
      ([.insert 1 ⟨3, 3, 0⟩, .insert 2 ⟨3, 3, 0⟩, .insert 3 ⟨3, 3, 0⟩, .insert 4 ⟨3, 3, 0⟩,
        .insert 5 ⟨3, 3, 0⟩].foldl QuadTree.perform start).getTotalNodes = 25 ∧
      ([.insert 1 ⟨3, 3, 0⟩, .insert 2 ⟨3, 3, 0⟩, .insert 3 ⟨3, 3, 0⟩, .insert 4 ⟨3, 3, 0⟩,
        .insert 5 ⟨3, 3, 0⟩].foldl QuadTree.perform start).Shape := by
  have created : QuadTree.create? 0 0 200 200 =
      some ⟨Node.createNode ⟨0, 0, 200, 200⟩, .empty⟩ := rfl
  exact ⟨_, created, by decide +kernel, shape_of_history created _⟩

end CppMMO.Game.Spatial
