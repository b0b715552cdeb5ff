import CppMMO.Game.GameCommand
import CppMMO.Lib.Rect
import CppMMO.Lib.UnorderedMap

/-! The spatial index. Nodes are values instead of owned pointers, so a node is a
leaf or has all four children; everything the source does to a node in place
returns the new node, together with the position map where that can change. -/

set_option autoImplicit false

namespace CppMMO.Game.Spatial

open CppMMO.Lib

abbrev Bounds := Rect ℚ

namespace Bounds

def Contains (bounds : Bounds) (point : Vec3) : Prop := Rect.Contains bounds point.x point.y

instance (bounds : Bounds) (point : Vec3) : Decidable (Contains bounds point) :=
  inferInstanceAs (Decidable (Rect.Contains bounds point.x point.y))

def Intersects (bounds : Bounds) (center : Vec3) (radius : ℚ) : Prop :=
  Rect.closestDistSq bounds center.x center.y ≤ radius * radius

instance (bounds : Bounds) (center : Vec3) (radius : ℚ) :
    Decidable (Intersects bounds center radius) :=
  inferInstanceAs (Decidable (_ ≤ _))

end Bounds

/-- An inner node keeps the id list of the leaf it was; `insertIntoNode` empties it. -/
inductive Node where
  | leaf (bounds : Bounds) (playerIds : List PlayerId)
  | inner (bounds : Bounds) (playerIds : List PlayerId) (nw ne sw se : Node)

def maxPlayersPerNode : Nat := 4
def maxDepth : Nat := 6

abbrev Positions := UnorderedMap PlayerId Vec3

namespace Node

def bounds : Node → Bounds
  | leaf bounds _ => bounds
  | inner bounds _ _ _ _ _ => bounds

def createNode (bounds : Bounds) : Node := leaf bounds []

/-- `SubdivideNode` on a leaf, with the id list already moved out of it. -/
def subdivideNode (bounds : Bounds) : Node :=
  let halfWidth := bounds.width * 0.5
  let halfHeight := bounds.height * 0.5
  inner bounds []
    (createNode ⟨bounds.x, bounds.y, halfWidth, halfHeight⟩)
    (createNode ⟨bounds.x + halfWidth, bounds.y, halfWidth, halfHeight⟩)
    (createNode ⟨bounds.x, bounds.y + halfHeight, halfWidth, halfHeight⟩)
    (createNode ⟨bounds.x + halfWidth, bounds.y + halfHeight, halfWidth, halfHeight⟩)

/-- Pass an insertion on to the first child that contains the position. A position
outside all four children is dropped. -/
def insertIntoChild (insert : Positions → Node → Positions × Node) (positions : Positions)
    (position : Vec3) : Node → Positions × Node
  | leaf bounds playerIds => (positions, leaf bounds playerIds)
  | inner bounds playerIds nw ne sw se =>
      if Bounds.Contains nw.bounds position then
        let (positions, nw) := insert positions nw
        (positions, inner bounds playerIds nw ne sw se)
      else if Bounds.Contains ne.bounds position then
        let (positions, ne) := insert positions ne
        (positions, inner bounds playerIds nw ne sw se)
      else if Bounds.Contains sw.bounds position then
        let (positions, sw) := insert positions sw
        (positions, inner bounds playerIds nw ne sw se)
      else if Bounds.Contains se.bounds position then
        let (positions, se) := insert positions se
        (positions, inner bounds playerIds nw ne sw se)
      else
        (positions, inner bounds playerIds nw ne sw se)

/-- The re-insertion loop after a split. The new player's position is the argument;
every other position is read with the map's inserting subscript. -/
def reinsert (insert : PlayerId → Vec3 → Positions → Node → Positions × Node)
    (playerId : PlayerId) (position : Vec3) :
    List PlayerId → Positions → Node → Positions × Node
  | [], positions, node => (positions, node)
  | pid :: rest, positions, node =>
      let (positions, playerPos) :=
        if pid = playerId then (positions, position) else positions.subscript pid {}
      let (positions, node) := insertIntoChild (insert pid playerPos) positions playerPos node
      reinsert insert playerId position rest positions node

/-- Insertion at `maxDepth` and below, where no leaf is split. -/
def insertDeep (playerId : PlayerId) (position : Vec3) (positions : Positions) :
    Node → Positions × Node
  | leaf bounds playerIds => (positions, leaf bounds (playerIds ++ [playerId]))
  | inner bounds playerIds nw ne sw se =>
      if Bounds.Contains nw.bounds position then
        let (positions, nw) := insertDeep playerId position positions nw
        (positions, inner bounds playerIds nw ne sw se)
      else if Bounds.Contains ne.bounds position then
        let (positions, ne) := insertDeep playerId position positions ne
        (positions, inner bounds playerIds nw ne sw se)
      else if Bounds.Contains sw.bounds position then
        let (positions, sw) := insertDeep playerId position positions sw
        (positions, inner bounds playerIds nw ne sw se)
      else if Bounds.Contains se.bounds position then
        let (positions, se) := insertDeep playerId position positions se
        (positions, inner bounds playerIds nw ne sw se)
      else
        (positions, inner bounds playerIds nw ne sw se)

/-- Insertion into a node that is `levels` levels above `maxDepth`. -/
def insertAbove : Nat → PlayerId → Vec3 → Positions → Node → Positions × Node
  | 0, playerId, position, positions, node => insertDeep playerId position positions node
  | levels + 1, playerId, position, positions, node =>
      match node with
      | leaf bounds playerIds =>
          let playerIds := playerIds ++ [playerId]
          if playerIds.length > maxPlayersPerNode then
            reinsert (insertAbove levels) playerId position playerIds positions
              (subdivideNode bounds)
          else
            (positions, leaf bounds playerIds)
      | inner bounds playerIds nw ne sw se =>
          insertIntoChild (insertAbove levels playerId position) positions position
            (inner bounds playerIds nw ne sw se)

def insertIntoNode (depth : Nat) (playerId : PlayerId) (position : Vec3)
    (positions : Positions) (node : Node) : Positions × Node :=
  insertAbove (maxDepth - depth) playerId position positions node

/-- Whether the id was found, and the node without it. The disjunction over the
children stops at the first one that reports success. -/
def removeFromNode (playerId : PlayerId) (position : Vec3) : Node → Bool × Node
  | leaf bounds playerIds =>
      if ¬ Bounds.Contains bounds position then
        (false, leaf bounds playerIds)
      else if playerId ∈ playerIds then
        (true, leaf bounds (playerIds.erase playerId))
      else
        (false, leaf bounds playerIds)
  | inner bounds playerIds nw ne sw se =>
      if ¬ Bounds.Contains bounds position then
        (false, inner bounds playerIds nw ne sw se)
      else
        let (found, nw) := removeFromNode playerId position nw
        if found then (true, inner bounds playerIds nw ne sw se) else
        let (found, ne) := removeFromNode playerId position ne
        if found then (true, inner bounds playerIds nw ne sw se) else
        let (found, sw) := removeFromNode playerId position sw
        if found then (true, inner bounds playerIds nw ne sw se) else
        let (found, se) := removeFromNode playerId position se
        (found, inner bounds playerIds nw ne sw se)

def inRange (positions : Positions) (center : Vec3) (radius : ℚ) (playerId : PlayerId) : Bool :=
  match positions.find? playerId with
  | none => false
  | some playerPos => playerPos.distSqXY center ≤ radius * radius

def queryNode (positions : Positions) (center : Vec3) (radius : ℚ) : Node → List PlayerId
  | leaf bounds playerIds =>
      if ¬ Bounds.Intersects bounds center radius then []
      else playerIds.filter (inRange positions center radius)
  | inner bounds _ nw ne sw se =>
      if ¬ Bounds.Intersects bounds center radius then []
      else queryNode positions center radius nw ++ queryNode positions center radius ne ++
        queryNode positions center radius sw ++ queryNode positions center radius se

def countNodes : Node → Nat
  | leaf _ _ => 1
  | inner _ _ nw ne sw se =>
      1 + nw.countNodes + ne.countNodes + sw.countNodes + se.countNodes

def countPlayers : Node → Nat
  | leaf _ playerIds => playerIds.length
  | inner _ playerIds nw ne sw se =>
      playerIds.length + nw.countPlayers + ne.countPlayers + sw.countPlayers + se.countPlayers

end Node

structure QuadTree where
  root : Node
  playerPositions : Positions

namespace QuadTree

/-- The constructor throws on a rectangle without positive sides. -/
def create? (x y width height : ℚ) : Option QuadTree :=
  if width ≤ 0 ∨ height ≤ 0 then none
  else some ⟨Node.createNode ⟨x, y, width, height⟩, .empty⟩

def insert (tree : QuadTree) (playerId : PlayerId) (position : Vec3) : QuadTree :=
  let positions := tree.playerPositions.assign playerId position
  let (positions, root) := Node.insertIntoNode 0 playerId position positions tree.root
  ⟨root, positions⟩

def remove (tree : QuadTree) (playerId : PlayerId) : QuadTree :=
  match tree.playerPositions.find? playerId with
  | none => tree
  | some position =>
      ⟨(Node.removeFromNode playerId position tree.root).2,
        tree.playerPositions.erase playerId⟩

def update (tree : QuadTree) (playerId : PlayerId) (newPosition : Vec3) : QuadTree :=
  (tree.remove playerId).insert playerId newPosition

def query (tree : QuadTree) (center : Vec3) (radius : ℚ) : List PlayerId :=
  tree.root.queryNode tree.playerPositions center radius

def getTotalNodes (tree : QuadTree) : Nat := tree.root.countNodes

def getTotalPlayers (tree : QuadTree) : Nat := tree.playerPositions.keys.length

def clear (tree : QuadTree) : QuadTree := ⟨.leaf tree.root.bounds [], .empty⟩

end QuadTree

end CppMMO.Game.Spatial
