import SystemProgram.FileTree.Search
import SystemProgram.Fixture.Form
import SystemProgram.Json
import SystemProgram.Text.Newline
import SystemProgram.Yaml.Construct

namespace SystemProgram.Fixture

def extensions : List String :=
  [".json", ".yaml", ".yml"]

def pattern (dir : List Char) (extension : String) : List Char :=
  Path.append (Path.append dir FileTree.anyDirectories) ('*' :: extension.toList)

/-- The paths of the fixture files below a directory, in order. The directory may be a pattern; no
directory has a name with the null character. -/
def findFiles (t : FileTree) (dir : String) : Outcome (List String) :=
  if '\x00' ∈ (FileTree.splitPattern (pattern dir.toList "")).1 then .error .badValue
  else
    let found := extensions.flatMap fun extension => t.search (pattern dir.toList extension)
    .ok ((found.map String.ofList).mergeSort fun a b => decide (a ≤ b))

/-- Whether a file with this name holds YAML; all others hold JSON. -/
def isYaml (path : List Char) : Bool :=
  Path.suffix path = ".yaml".toList || Path.suffix path = ".yml".toList

def readText (t : FileTree) (path : List Char) : Outcome String := do
  let place ← .ofOption .noSuchFile (t.locate path)
  let bytes ← .ofOption .isDirectory (t.bytes? place)
  let text ← .ofOption .notUtf8 (Utf8.decode? bytes)
  return String.ofList (Text.unifyLineEnds text.toList)

def readDocument (t : FileTree) (path : List Char) : Outcome Document := do
  let text ← readText t path
  if isYaml path then Yaml.load text else return .tree (← Json.parse text)

/-- The vectors of a value. One that counts as false has none. -/
def vectorsOf (doc : Value) : Outcome (List Value) :=
  if !doc.isTrue then .ok []
  else
    match doc with
    | .map es => .ofOption .wrongType ((Value.find? "vectors" es).getD (.list [])).items?
    | _ => .error .wrongType

/-- How far down a check looks into the parts of a vector: at the recorded instruction, the list of
its accounts, one of them, and what that holds. -/
def depth : Nat := 4

/-- A vector as a value. Its name is unfolded as the log shows it, all else so far that every check
has what it looks at. -/
def vectorOf (h : Heap) : Item → Value
  | .leaf v => v
  | .cell n =>
    match h.cell n with
    | .map es => .map (es.map fun (k, v) =>
        let key := h.tree k
        (key, if key.same (.str "name") then h.tree v else h.view depth v))
    | c => c.value (h.view depth)

def itemsOf? (h : Heap) : Item → Option (List Value)
  | .leaf v => v.items?
  | .cell n =>
    match h.cell n with
    | .list xs | .set xs => some (xs.map (vectorOf h))
    | .map es => some (es.map fun e => vectorOf h e.1)
    | .pairs es => some (es.map fun e => .tuple [h.view depth e.1, h.view depth e.2])

def vectors : Document → Outcome (List Value)
  | .tree v => vectorsOf v
  | .graph _ (.leaf v) => vectorsOf v
  | .graph h (.cell n) =>
    match h.cell n with
    | .map es =>
      match Item.find? "vectors" es with
      | some vecs => .ofOption .wrongType (itemsOf? h vecs)
      | none => .ok []
    | c => if c.isEmpty then .ok [] else .error .wrongType

def loadVectors (t : FileTree) (path : String) : Outcome (List Value) := do
  vectors (← readDocument t path.toList)

end SystemProgram.Fixture
