import SystemProgram.Value

namespace SystemProgram

/-- A value without parts, or the collection in the cell with a number. -/
inductive Item where
  | leaf (v : Value)
  | cell (n : Nat)
deriving Repr, Inhabited

inductive Cell where
  | list (items : List Item)
  | pairs (entries : List (Item × Item))
  | map (entries : List (Item × Item))
  | set (members : List Item)
deriving Repr, Inhabited

namespace Cell

def isMap : Cell → Bool
  | map _ => true
  | _ => false

def isEmpty : Cell → Bool
  | list xs | set xs => xs.isEmpty
  | pairs es | map es => es.isEmpty

def value (part : Item → Value) : Cell → Value
  | list xs => .list (xs.map part)
  | pairs es => .list (es.map fun e => .tuple [part e.1, part e.2])
  | map es => .map (es.map fun e => (part e.1, part e.2))
  | set xs => .set (xs.map part)

end Cell

def Item.find? (name : String) : List (Item × Item) → Option Item
  | [] => none
  | (.leaf (.str s), i) :: es => if s = name then some i else find? name es
  | _ :: es => find? name es

structure Heap where
  cells : List (Nat × Cell)
deriving Repr

namespace Heap

/-- The collection in a cell; the empty list if there is no such cell. -/
def cell (h : Heap) (n : Nat) : Cell :=
  (h.cells.lookup n).getD (.list [])

/-- The value of an item below the collections in the cells of `path`. A path without a repeated
cell is no longer than there are cells, which is how far `steps` has to go. -/
def valueFrom (h : Heap) : (steps : Nat) → (path : List Nat) → Item → Value
  | _, _, .leaf v => v
  | 0, _, .cell n => .outer (h.cell n).isMap
  | steps + 1, path, .cell n =>
    if path.contains n then .outer (h.cell n).isMap
    else (h.cell n).value (valueFrom h steps (n :: path))

def tree (h : Heap) (item : Item) : Value :=
  h.valueFrom (h.cells.length + 1) [] item

/-- The value of an item that shows `levels` levels of collections whatever they are, and below
them those that the collections there unfold to. -/
def view (h : Heap) : (levels : Nat) → Item → Value
  | 0, item => h.tree item
  | _ + 1, .leaf v => v
  | levels + 1, .cell n => (h.cell n).value (view h levels)

end Heap
end SystemProgram
