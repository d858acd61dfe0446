import SystemProgram.Document
import SystemProgram.Text.Newline
import SystemProgram.Yaml.Assembly
import SystemProgram.Yaml.Merge

namespace SystemProgram.Yaml

mutual
/-- The text of a node that stands for a scalar: its own, or in a map that under the default key. -/
def textOf : Node → Outcome Text
  | .scalar _ s => .ok s
  | .seq .. => .error .malformedYaml
  | .map _ es => defaultText es

def defaultText : List (Node × Node) → Outcome Text
  | [] => .error .malformedYaml
  | (k, v) :: es => if k.tag = valueTag then textOf v else defaultText es
end

mutual
def construct : Node → Outcome Value
  | .scalar t s => scalarValue t s
  | .seq t items =>
    if t = seqTag then do return .list (← constructAll items)
    else if isPairsTag t then do return .list (← constructPairs items)
    else .error .malformedYaml
  | .map t es =>
    if t = mapTag then do return .map (← constructEntries [] es)
    else if isEntriesTag t then do
      let es ← constructEntries [] es
      return .set (Value.arranged (es.map Prod.fst))
    else if isCollectionTag t then .error .malformedYaml
    else if t = timestampTag then .error .wrongType
    else do scalarValue t (← defaultText es)

def constructAll : List Node → Outcome (List Value)
  | [] => .ok []
  | n :: ns => do
    let v ← construct n
    return v :: (← constructAll ns)

def constructPairs : List Node → Outcome (List Value)
  | [] => .ok []
  | .map _ [(k, v)] :: ns => do
    let k ← construct k
    let v ← construct v
    return .tuple [k, v] :: (← constructPairs ns)
  | _ :: _ => .error .malformedYaml

/-- Entries after those in `done`; a later one replaces an earlier one with the same key. What is no
number is left out as a key, since there it matters which node it came from. -/
def constructEntries (done : List (Value × Value)) :
    List (Node × Node) → Outcome (List (Value × Value))
  | [] => .ok done
  | (k, v) :: es => do
    let k ← construct k
    if !k.isHashable || k.isNaN then throw .malformedYaml
    let v ← construct v
    constructEntries (Value.insert k v done) es
end

def isAllowed (c : Char) : Bool :=
  c = '\t' || c = '\n' || c = '\r' || (' ' ≤ c && c ≤ '~') || c = '\x85' ||
    (0xA0 ≤ c.toNat && c.toNat ≠ 0xFFFE && c.toNat ≠ 0xFFFF)

/-- The value of a node, if it has one and that does not depend on how nodes are shared. -/
def Node.value? (n : Node) : Option Value :=
  (do construct (← merged n)).toOption

def Tree.document (t : Tree) : Outcome Document :=
  match t.node?.bind Node.value? with
  | some v => .ok (.tree v)
  | none => do
    let (heap, root) ← (Graph.ofTree t).assemble
    return .graph heap root

/-- The one document that the text holds; null if it holds none. -/
def load (text : String) : Outcome Document := do
  let cs := text.toList
  if !cs.all isAllowed then throw .malformedYaml
  match ← Tree.ofTokens (tokens (Text.unifyLineEnds cs)) with
  | none => return .tree .null
  | some t => t.document

end SystemProgram.Yaml
