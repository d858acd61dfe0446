import SystemProgram.Yaml.Node

namespace SystemProgram.Yaml

/-- A key; the default key is a text like others. -/
def Node.asKey : Node → Node
  | .scalar t s => .scalar (if t = valueTag then strTag else t) s
  | n => n

mutual
/-- The entries that the value of a merge key adds; of several maps the last one goes first. -/
def addedBy : Node → Outcome (List (Node × Node))
  | .map _ es => do
    let (added, own) ← splitMerges es
    return added ++ own
  | .seq _ items => do return (← addedByMaps items).reverse.flatten
  | .scalar .. => .error .malformedYaml

def addedByMaps : List Node → Outcome (List (List (Node × Node)))
  | [] => .ok []
  | .map _ es :: ns => do
    let (added, own) ← splitMerges es
    return (added ++ own) :: (← addedByMaps ns)
  | _ :: _ => .error .malformedYaml

def splitMerges : List (Node × Node) → Outcome (List (Node × Node) × List (Node × Node))
  | [] => .ok ([], [])
  | (k, v) :: es =>
    if k.tag = mergeTag then do
      let first ← addedBy v
      let (added, own) ← splitMerges es
      return (first ++ added, own)
    else do
      let (added, own) ← splitMerges es
      return (added, (k.asKey, v) :: own)
end

def mergedEntries (es : List (Node × Node)) : Outcome (List (Node × Node)) := do
  let (added, own) ← splitMerges es
  return added ++ own

mutual
def merged : Node → Outcome Node
  | .scalar t s => .ok (.scalar t s)
  | .seq t items => do
    return .seq t (← if isPairsTag t then mergedPairs items else mergedAll items)
  | .map t es => do
    if isEntriesTag t then return .map t (← mergedEntries (← mergedParts es))
    else return .map t es

def mergedAll : List Node → Outcome (List Node)
  | [] => .ok []
  | n :: ns => do
    let n ← merged n
    return n :: (← mergedAll ns)

/-- The maps of one entry each that stand for pairs; in these, merge keys have no meaning. -/
def mergedPairs : List Node → Outcome (List Node)
  | [] => .ok []
  | .map t es :: ns => do
    let es ← mergedParts es
    return .map t es :: (← mergedPairs ns)
  | n :: ns => do return n :: (← mergedPairs ns)

def mergedParts : List (Node × Node) → Outcome (List (Node × Node))
  | [] => .ok []
  | (k, v) :: es => do
    let k ← merged k
    let v ← merged v
    return (k, v) :: (← mergedParts es)
end

end SystemProgram.Yaml
