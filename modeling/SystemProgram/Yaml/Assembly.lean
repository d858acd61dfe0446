import SystemProgram.Value.Heap
import SystemProgram.Yaml.Graph

namespace SystemProgram.Yaml

structure Assembly where
  graph : Graph
  /-- What has been made of nodes so far. -/
  items : List (Nat × Item)
  cells : List (Nat × Cell)
  /-- The collections that wait for their parts. -/
  waiting : List Nat

abbrev Assemble := StateT Assembly Outcome

namespace Assembly

def graphNow : Assemble Graph := do
  return (← get).graph

def changeGraph (f : Graph → Graph) : Assemble Unit :=
  modify fun s => { s with graph := f s.graph }

/-- The entries that the value of a merge key adds, a map or a list of maps; of several maps the
last one goes first. -/
def addedBy (flatten : Nat → Assemble Unit) (n : Nat) : Assemble (List (Nat × Nat)) := do
  match ((← graphNow).vertex n).content with
  | .scalar _ => throw .malformedYaml
  | .map _ => do
    flatten n
    return (← graphNow).entries n
  | .seq items => do
    let added ← items.mapM fun m => do
      if !(((← graphNow).vertex m).content matches .map _) then throw .malformedYaml
      flatten m
      return (← graphNow).entries m
    return added.reverse.flatten

/-- Goes through the entries of a map, of which those in `kept` have been seen and stay. What merge
keys add goes to the front in the end. If the map is a part of itself, it may be through already
when the value of a merge key has been looked at. -/
def flattenFrom (flatten : Nat → Assemble Unit) (n : Nat) (added kept : List (Nat × Nat)) :
    List (Nat × Nat) → Assemble Unit
  | [] => changeGraph (·.setContent n (.map (added ++ kept)))
  | (k, v) :: es => do
    let t := (← graphNow).tag k
    if t = mergeTag then
      changeGraph (·.setContent n (.map (kept ++ es)))
      let added := added ++ (← addedBy flatten v)
      let now := (← graphNow).entries n
      if now = kept ++ es then flattenFrom flatten n added kept es
      else changeGraph (·.setContent n (.map (added ++ now)))
    else
      if t = valueTag then changeGraph (·.setTag k strTag)
      flattenFrom flatten n added (kept ++ [(k, v)]) es

/-- Replaces the merge keys of a map by what they add. At each level down a merge key has been taken
out of some map, so there are at most as many levels as entries. -/
def flatten : (levels : Nat) → Nat → Assemble Unit
  | 0, _ => throw .tooDeep
  | levels + 1, n => do flattenFrom (flatten levels) n [] [] ((← graphNow).entries n)

def item (n : Nat) : Assemble Item := do
  let s ← get
  match s.items.lookup n with
  | some i => return i
  | none =>
    if isCollectionTag (s.graph.tag n) then
      set { s with items := (n, .cell n) :: s.items, waiting := s.waiting ++ [n] }
      return .cell n
    else
      let v ← s.graph.leaf n
      set { s with items := (n, .leaf v) :: s.items }
      return .leaf v

def pairOf (n : Nat) : Assemble (Item × Item) := do
  match ((← graphNow).vertex n).content with
  | .map [(k, v)] => do
    let k ← item k
    return (k, ← item v)
  | _ => throw .malformedYaml

/-- An entry of a map. What is no number equals nothing; as a key it is the same only if it comes
from the same node, or if both are written as the word for it and `source` is none. -/
structure Entry where
  source : Option Nat
  key : Value
  value : Item

def Entry.sameKey (e f : Entry) : Bool :=
  e.key.same f.key || (e.key.isNaN && f.key.isNaN && e.source = f.source)

def Entry.insert (e : Entry) : List Entry → List Entry
  | [] => [e]
  | f :: es => if f.sameKey e then { f with value := e.value } :: es else f :: e.insert es

/-- The node that the key came from, unless it is the word for what is no number. -/
def sourceOf (n : Nat) : Assemble (Option Nat) := do
  match (← graphNow).text n with
  | .ok s => return if isNanWord s then none else some n
  | .error _ => return some n

/-- The entries with one more. A collection is no key. -/
def addEntry (done : List Entry) (e : Nat × Nat) : Assemble (List Entry) := do
  match ← item e.1 with
  | .cell _ => throw .malformedYaml
  | .leaf k => do
    let v ← item e.2
    return Entry.insert ⟨← sourceOf e.1, k, v⟩ done

def entriesOf (n : Nat) : Assemble (List Entry) := do
  if !(((← graphNow).vertex n).content matches .map _) then throw .malformedYaml
  flatten ((← graphNow).entryCount + 1) n
  ((← graphNow).entries n).foldlM addEntry []

def itemsOf (n : Nat) : Assemble (List Nat) := do
  match ((← graphNow).vertex n).content with
  | .seq items => return items
  | _ => throw .malformedYaml

def cellOf (n : Nat) : Assemble Cell := do
  let t := (← graphNow).tag n
  if t = seqTag then return .list (← (← itemsOf n).mapM item)
  else if isPairsTag t then return .pairs (← (← itemsOf n).mapM pairOf)
  else
    let es ← entriesOf n
    if t = mapTag then return .map (es.map fun e => (.leaf e.key, e.value))
    else return .set ((Value.arranged (es.map (·.key))).map .leaf)

/-- Fills cells until no collection is waiting. No node waits twice, so there are at most as many
steps as nodes. -/
def fill : (steps : Nat) → Assemble Unit
  | 0 => return
  | steps + 1 => do
    match (← get).waiting with
    | [] => return
    | n :: rest => do
      modify fun s => { s with waiting := rest }
      let c ← cellOf n
      modify fun s => { s with cells := (n, c) :: s.cells }
      fill steps

def root : Assemble Item := do
  let i ← item 0
  fill (← graphNow).size
  return i

end Assembly

def Graph.assemble (g : Graph) : Outcome (Heap × Item) := do
  let (root, s) ← Assembly.root.run ⟨g, [], [], []⟩
  return (⟨s.cells⟩, root)

end SystemProgram.Yaml
