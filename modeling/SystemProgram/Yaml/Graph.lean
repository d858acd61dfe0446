import SystemProgram.Yaml.Leaf
import SystemProgram.Yaml.Tree

namespace SystemProgram.Yaml

inductive Content where
  | scalar (text : Text)
  | seq (items : List Nat)
  | map (entries : List (Nat × Nat))
deriving Repr, Inhabited

structure Vertex where
  tag : String
  content : Content
deriving Repr, Inhabited

structure Graph where
  vertices : Array Vertex
  /-- The numbers of the nodes with anchors. -/
  anchors : List (String × Nat)
deriving Repr

namespace Graph

def size (g : Graph) : Nat :=
  g.vertices.size

def vertex (g : Graph) (n : Nat) : Vertex :=
  g.vertices.getD n ⟨"", .scalar (.whole [])⟩

def tag (g : Graph) (n : Nat) : String :=
  (g.vertex n).tag

def entries (g : Graph) (n : Nat) : List (Nat × Nat) :=
  match (g.vertex n).content with
  | .map es => es
  | _ => []

def entryCount (g : Graph) : Nat :=
  g.vertices.foldl (fun count v => count + match v.content with
    | .map es => es.length
    | _ => 0) 0

def setTag (g : Graph) (n : Nat) (t : String) : Graph :=
  { g with vertices := g.vertices.modify n fun v => { v with tag := t } }

def setContent (g : Graph) (n : Nat) (c : Content) : Graph :=
  { g with vertices := g.vertices.modify n fun v => { v with content := c } }

def push (g : Graph) (anchor : Option String) (v : Vertex) : Graph :=
  ⟨g.vertices.push v, (anchor.map fun a => (a, g.size)).toList ++ g.anchors⟩

mutual
/-- The number of a node, and the graph with it. A node can be referred to from inside. -/
def add (g : Graph) : Tree → Nat × Graph
  | .scalar a t s => (g.size, g.push a ⟨t, .scalar s⟩)
  | .seq a t items =>
    let (ns, h) := addAll (g.push a ⟨t, .seq []⟩) items
    (g.size, h.setContent g.size (.seq ns))
  | .map a t es =>
    let (ns, h) := addEntries (g.push a ⟨t, .map []⟩) es
    (g.size, h.setContent g.size (.map ns))
  | .reference a => ((g.anchors.lookup a).getD 0, g)

def addAll (g : Graph) : List Tree → List Nat × Graph
  | [] => ([], g)
  | t :: ts =>
    let (n, g) := g.add t
    let (ns, g) := addAll g ts
    (n :: ns, g)

def addEntries (g : Graph) : List (Tree × Tree) → List (Nat × Nat) × Graph
  | [] => ([], g)
  | (k, v) :: es =>
    let (k, g) := g.add k
    let (v, g) := g.add v
    let (ns, g) := addEntries g es
    ((k, v) :: ns, g)
end

def ofTree (t : Tree) : Graph :=
  (add ⟨#[], []⟩ t).2

/-- The text of a node that stands for a scalar: its own, or in a map that under the default key. A
way along default keys that is longer than `steps` comes back to where it has been. -/
def textOf (g : Graph) : (steps : Nat) → Nat → Outcome Text
  | 0, _ => .error .tooDeep
  | steps + 1, n =>
    match (g.vertex n).content with
    | .scalar s => .ok s
    | .seq _ => .error .malformedYaml
    | .map es =>
      match es.find? fun e => g.tag e.1 = valueTag with
      | some e => textOf g steps e.2
      | none => .error .malformedYaml

def text (g : Graph) (n : Nat) : Outcome Text :=
  g.textOf (g.size + 1) n

def isScalar (g : Graph) (n : Nat) : Bool :=
  (g.vertex n).content matches .scalar _

/-- The value of a node that stands for a scalar. A time is written as a scalar. -/
def leaf (g : Graph) (n : Nat) : Outcome Value := do
  if !scalarTags.contains (g.tag n) then throw .malformedYaml
  let s ← g.text n
  if g.tag n = timestampTag && !g.isScalar n then throw .wrongType
  scalarValue (g.tag n) s

end Graph
end SystemProgram.Yaml
