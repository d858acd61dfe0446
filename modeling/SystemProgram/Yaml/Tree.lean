import SystemProgram.Yaml.Node
import SystemProgram.Yaml.Token

namespace SystemProgram.Yaml

/-- What is written at one place: a node with its tag and perhaps an anchor, or a reference to the
node with an anchor, which may be a node around it. No two nodes have the same anchor. -/
inductive Tree where
  | scalar (anchor : Option String) (tag : String) (text : Text)
  | seq (anchor : Option String) (tag : String) (items : List Tree)
  | map (anchor : Option String) (tag : String) (entries : List (Tree × Tree))
  | reference (anchor : String)
deriving Repr, Inhabited

mutual
/-- The tree as a node without anchors, if nothing in it is a reference. -/
def Tree.node? : Tree → Option Node
  | .scalar _ t s => some (.scalar t s)
  | .seq _ t items => do return .seq t (← nodes? items)
  | .map _ t es => do return .map t (← nodeEntries? es)
  | .reference _ => none

def Tree.nodes? : List Tree → Option (List Node)
  | [] => some []
  | t :: ts => do
    let n ← t.node?
    return n :: (← nodes? ts)

def Tree.nodeEntries? : List (Tree × Tree) → Option (List (Node × Node))
  | [] => some []
  | (k, v) :: es => do
    let k ← k.node?
    let v ← v.node?
    return (k, v) :: (← nodeEntries? es)
end

structure Props where
  anchor : Option String
  tag : Option String
  /-- Whether one of them cannot be used. That is reported when the node goes on. -/
  flawed : Bool
deriving Repr

namespace Props

def none : Props := ⟨.none, .none, false⟩

def collectionTag (p : Props) (default : String) : String :=
  match p.tag with
  | some t => if t = "!" then default else t
  | .none => default

/-- Whether the token is the anchor or the tag, and there was none before. -/
def lacks (p : Props) : Token → Bool
  | .anchor _ => p.anchor.isNone
  | .tag .. => p.tag.isNone
  | _ => false

/-- The node of a scalar. Without a tag, a plain one is what it looks like and another one is text;
with the tag `!` alone, any is what it looks like. -/
def scalar (p : Props) (text : Text) (plain : Bool) : Tree :=
  match p.tag with
  | some t => .scalar p.anchor (if t = "!" then resolveText text else t) text
  | .none => .scalar p.anchor (if plain then resolveText text else strTag) text

end Props

def emptyScalar : Tree :=
  Props.none.scalar (.whole []) true

/-- Items in a block, items of a key that are not indented, and items in brackets. -/
inductive SeqStyle where
  | block
  | indentless
  | flow
deriving DecidableEq, Repr

inductive MapStyle where
  | block
  | flow
  /-- A single entry without braces, as an item in brackets. -/
  | pair
deriving DecidableEq, Repr

inductive Frame where
  | seq (style : SeqStyle) (p : Props) (reversed : List Tree)
  /-- The next node is a key; with `bare` there was no key token, and the value is empty. -/
  | key (style : MapStyle) (p : Props) (reversed : List (Tree × Tree)) (bare : Bool)
  | value (style : MapStyle) (p : Props) (reversed : List (Tree × Tree)) (key : Tree)
deriving Repr

inductive Expected where
  /-- A directive, or the first token of the document. -/
  | start (directives : List Directive)
  /-- A node, or a token that stands behind an empty one. -/
  | node
  /-- The rest of a node of which anchor or tag have been read. -/
  | content (p : Props)
  /-- The next item or the end of the innermost collection; with `fresh`, no comma has to come
  before an item. -/
  | next (fresh : Bool)
  /-- The mark between key and value. -/
  | valueMark
  /-- The end of the document. -/
  | afterRoot (root : Tree)
  /-- More directives. They belong to a second document, which is reported when they end. -/
  | surplus (directives : List Directive)
  /-- Nothing; there may have been no document. -/
  | done (root : Option Tree)
deriving Repr

structure Composer where
  stack : List Frame
  expected : Expected
  /-- What the handles of tags stand for. -/
  handles : List (String × String)
  /-- The anchors given so far. -/
  anchors : List String
deriving Repr

namespace Composer

def defaultHandles : List (String × String) :=
  [("!", "!"), ("!!", standard "")]

def start : Composer := ⟨[], .start [], defaultHandles, []⟩

def complete (c : Composer) (t : Tree) : Composer :=
  match c.stack with
  | [] => { c with expected := .afterRoot t }
  | .seq style p items :: stack =>
    { c with stack := .seq style p (t :: items) :: stack, expected := .next false }
  | .key style p entries true :: stack =>
    { c with stack := .key style p ((t, emptyScalar) :: entries) false :: stack,
             expected := .next false }
  | .key style p entries false :: stack =>
    { c with stack := .value style p entries t :: stack, expected := .valueMark }
  | .value .pair _ _ key :: .seq style p items :: stack =>
    { c with stack := .seq style p (.map none mapTag [(key, t)] :: items) :: stack,
             expected := .next false }
  | .value style p entries key :: stack =>
    { c with stack := .key style p ((key, t) :: entries) false :: stack, expected := .next false }

def close (c : Composer) : Composer :=
  match c.stack with
  | .seq _ p items :: stack =>
    complete { c with stack } (.seq p.anchor (p.collectionTag seqTag) items.reverse)
  | .key _ p entries _ :: stack =>
    complete { c with stack } (.map p.anchor (p.collectionTag mapTag) entries.reverse)
  | _ => c

/-- Whether the token can stand behind an empty node in the innermost open collection. -/
def endsEmpty : List Frame → Token → Bool
  | [], t => (t matches .directive _ | .documentStart | .documentEnd | .streamEnd)
  | .seq .block .. :: _, t => (t matches .blockEntry | .blockEnd)
  | .seq .indentless .. :: _, t => (t matches .blockEntry | .key | .value | .blockEnd)
  | .seq .flow .. :: _, _ => false
  | .key .block .. :: _, t | .value .block .. :: _, t => (t matches .key | .value | .blockEnd)
  | .key .flow .. :: _, t => (t matches .value | .flowEntry | .flowMapEnd)
  | .value .flow .. :: _, t => (t matches .flowEntry | .flowMapEnd)
  | .key .pair .. :: _, t => (t matches .value | .flowEntry | .flowSeqEnd)
  | .value .pair .. :: _, t => (t matches .flowEntry | .flowSeqEnd)

def inBlock : List Frame → Bool
  | [] | .seq .block .. :: _ | .seq .indentless .. :: _ | .key .block .. :: _
  | .value .block .. :: _ => true
  | _ => false

def afterKeyMark : List Frame → Bool
  | .key .block .. :: _ | .value .block .. :: _ => true
  | _ => false

/-- Whether the token can go on a node whose anchor or tag have been read. -/
def goesOn (stack : List Frame) (p : Props) : Token → Bool
  | .scalar .. | .flowSeqStart | .flowMapStart => true
  | .blockSeqStart | .blockMapStart => inBlock stack
  | .blockEntry => afterKeyMark stack
  | t => p.lacks t

/-- Takes what the token shows to be missing: a node, the end of items that are not indented, or the
value of a key. The token itself is not consumed. -/
def settle (t : Token) (c : Composer) : Composer :=
  match c.expected, c.stack with
  | .node, stack => if endsEmpty stack t then c.complete emptyScalar else c
  | .content p, stack => if goesOn stack p t then c else c.complete (p.scalar (.whole []) true)
  | .next _, .seq .indentless .. :: _ => if t matches .blockEntry then c else c.close
  | .valueMark, _ => if t matches .value then c else c.complete emptyScalar
  | _, _ => c

/-- Takes the anchor of a node. No other node may have it. -/
def takeAnchor (c : Composer) (p : Props) (name : String) : Outcome Composer :=
  if p.flawed then .error .malformedYaml
  else
    let p := { p with anchor := some name, flawed := c.anchors.contains name }
    .ok { c with expected := .content p, anchors := name :: c.anchors }

/-- Takes the tag of a node. Its handle has to be known; that it is not shows at once behind an
anchor, and otherwise when the node goes on. -/
def takeTag (c : Composer) (p : Props) (handle : Option String) (suffix : String) :
    Outcome Composer :=
  match handle with
  | none => .ok { c with expected := .content { p with tag := some suffix } }
  | some h =>
    match c.handles.lookup h with
    | some front => .ok { c with expected := .content { p with tag := some (front ++ suffix) } }
    | none =>
      if p.anchor.isSome then .error .malformedYaml
      else .ok { c with expected := .content { p with tag := some suffix, flawed := true } }

def takeContent (c : Composer) (p : Props) (t : Token) : Outcome Composer :=
  if !goesOn c.stack p t then .error .malformedYaml
  else match t with
    | .anchor name => c.takeAnchor p name
    | .tag handle suffix => c.takeTag p handle suffix
    | .scalar text plain => .ok (c.complete (p.scalar text plain))
    | .flowSeqStart => .ok { c with stack := .seq .flow p [] :: c.stack, expected := .next true }
    | .blockSeqStart => .ok { c with stack := .seq .block p [] :: c.stack, expected := .next true }
    | .flowMapStart =>
      .ok { c with stack := .key .flow p [] false :: c.stack, expected := .next true }
    | .blockMapStart =>
      .ok { c with stack := .key .block p [] false :: c.stack, expected := .next true }
    | .blockEntry => .ok { c with stack := .seq .indentless p [] :: c.stack, expected := .node }
    | _ => .error .malformedYaml

def takeNode (c : Composer) : Token → Outcome Composer
  | .reference name =>
    if c.anchors.contains name then .ok (c.complete (.reference name)) else .error .malformedYaml
  | t => c.takeContent .none t

def takeNext (c : Composer) (fresh : Bool) (t : Token) : Outcome Composer :=
  match c.stack, t with
  | .seq .block .. :: _, .blockEntry | .seq .indentless .. :: _, .blockEntry
  | .key .block .. :: _, .key => .ok { c with expected := .node }
  | .seq .block .. :: _, .blockEnd | .key .block .. :: _, .blockEnd
  | .seq .flow .. :: _, .flowSeqEnd | .key .flow .. :: _, .flowMapEnd => .ok c.close
  | .seq .flow .. :: _, t =>
    match fresh, t with
    | false, .flowEntry => .ok { c with expected := .next true }
    | true, .key =>
      .ok { c with stack := .key .pair .none [] false :: c.stack, expected := .node }
    | true, t => c.takeNode t
    | false, _ => .error .malformedYaml
  | .key .flow p entries _ :: stack, t =>
    match fresh, t with
    | false, .flowEntry => .ok { c with expected := .next true }
    | true, .key => .ok { c with expected := .node }
    | true, t => takeNode { c with stack := .key .flow p entries true :: stack } t
    | false, _ => .error .malformedYaml
  | _, _ => .error .malformedYaml

def isVersion : Directive → Bool
  | .version _ => true
  | _ => false

def handleOf? : Directive → Option (String × String)
  | .handle name replacement => some (name, replacement)
  | _ => none

/-- The directives with one more. The version is given once, and its major number is 1; a handle
gets one meaning. -/
def addDirective (ds : List Directive) (d : Directive) : Outcome (List Directive) :=
  let allowed := match d with
    | .version major => major = 1 && !ds.any isVersion
    | .handle name _ => (ds.filterMap handleOf?).all fun h => h.1 != name
    | .other => true
  if allowed then .ok (d :: ds) else .error .malformedYaml

/-- Takes a token in front of the document. After directives it has to be marked as such. -/
def takeFirst (c : Composer) (ds : List Directive) : Token → Outcome Composer
  | .directive d => do return { c with expected := .start (← addDirective ds d) }
  | .documentStart =>
    .ok { c with expected := .node, handles := ds.filterMap handleOf? ++ defaultHandles }
  | t =>
    if !ds.isEmpty then .error .malformedYaml
    else if t matches .streamEnd then .ok { c with expected := .done none }
    else c.takeNode t

def takeLast (c : Composer) (root : Tree) : Token → Outcome Composer
  | .documentEnd => .ok c
  | .directive d => do return { c with expected := .surplus (← addDirective [] d) }
  | .streamEnd => .ok { c with expected := .done (some root) }
  | _ => .error .malformedYaml

def take (c : Composer) (t : Token) : Outcome Composer :=
  match c.expected, t with
  | .start ds, t => c.takeFirst ds t
  | .node, t => c.takeNode t
  | .content p, t => c.takeContent p t
  | .next fresh, t => c.takeNext fresh t
  | .valueMark, .value => .ok { c with expected := .node }
  | .afterRoot root, t => c.takeLast root t
  | .surplus ds, .directive d => do return { c with expected := .surplus (← addDirective ds d) }
  | _, _ => .error .malformedYaml

/-- Whether the token ends the properties of a node of which one cannot be used. -/
def showsFlaw (c : Composer) (t : Token) : Bool :=
  match c.expected with
  | .content p => p.flawed && !p.lacks t
  | _ => false

/-- One token. Up to three things can be missing before it: an item, which was the last one of a
key, whose value is missing too. -/
def step (c : Composer) (t : Token) : Outcome Composer :=
  match t with
  | .bad f => .error f
  | t =>
    if c.showsFlaw t then .error .malformedYaml else (settle t (settle t (settle t c))).take t

end Composer

def Tree.ofTokens (ts : List Token) : Outcome (Option Tree) := do
  match (← ts.foldlM Composer.step .start).expected with
  | .done root => return root
  | _ => throw .malformedYaml

end SystemProgram.Yaml
