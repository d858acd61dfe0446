import SystemProgram.Yaml.Resolve

namespace SystemProgram.Yaml

/-- A node with its tag; entries of maps are in the order of the text, and keys may occur twice. -/
inductive Node where
  | scalar (tag : String) (text : Text)
  | seq (tag : String) (items : List Node)
  | map (tag : String) (entries : List (Node × Node))
deriving Repr, Inhabited

def Node.tag : Node → String
  | .scalar t _ | .seq t _ | .map t _ => t

/-- Whether the items of a list with this tag are maps of one entry each, in order. -/
def isPairsTag (tag : String) : Bool :=
  tag = standard "omap" || tag = standard "pairs"

def isEntriesTag (tag : String) : Bool :=
  tag = mapTag || tag = standard "set"

def isCollectionTag (tag : String) : Bool :=
  tag = seqTag || isPairsTag tag || isEntriesTag tag

end SystemProgram.Yaml
