import SystemProgram.Json.Token

namespace SystemProgram.Json

inductive Frame where
  | list (reversed : List Value)
  | map (entries : List (Value × Value)) (key : Text)
deriving Repr

inductive Expected where
  | value
  /-- A member of a new list, or its end. -/
  | firstMember
  /-- A key of a map; `closable` if the map may end instead. -/
  | key (entries : List (Value × Value)) (closable : Bool)
  | colon (entries : List (Value × Value)) (key : Text)
  /-- The value is complete; what follows depends on what is open. -/
  | afterValue (v : Value)
deriving Repr

structure Parser where
  stack : List Frame
  expected : Expected
deriving Repr

namespace Parser

def start : Parser := ⟨[], .value⟩

def beginValue (stack : List Frame) : Token → Outcome Parser
  | .text t => .ok ⟨stack, .afterValue (.ofText t)⟩
  | .leaf v => .ok ⟨stack, .afterValue v⟩
  | .openList => .ok ⟨stack, .firstMember⟩
  | .openMap => .ok ⟨stack, .key [] true⟩
  | .bad f => .error f
  | _ => .error .malformedJson

def endValue (v : Value) : List Frame → Token → Outcome Parser
  | .list vs :: stack, .comma => .ok ⟨.list (v :: vs) :: stack, .value⟩
  | .list vs :: stack, .closeList => .ok ⟨stack, .afterValue (.list (v :: vs).reverse)⟩
  | .map es k :: stack, .comma => .ok ⟨stack, .key (Value.insert (.ofText k) v es) false⟩
  | .map es k :: stack, .closeMap =>
    .ok ⟨stack, .afterValue (.map (Value.insert (.ofText k) v es))⟩
  | _, _ => .error .malformedJson

def step (p : Parser) (t : Token) : Outcome Parser :=
  match p.expected, t with
  | .value, t => beginValue p.stack t
  | .firstMember, .closeList => .ok ⟨p.stack, .afterValue (.list [])⟩
  | .firstMember, t => beginValue (.list [] :: p.stack) t
  | .key es _, .text k => .ok ⟨p.stack, .colon es k⟩
  | .key es true, .closeMap => .ok ⟨p.stack, .afterValue (.map es)⟩
  | .key _ _, _ => .error .malformedJson
  | .colon es k, .colon => .ok ⟨.map es k :: p.stack, .value⟩
  | .colon _ _, _ => .error .malformedJson
  | .afterValue v, t => endValue v p.stack t

def result : Parser → Outcome Value
  | ⟨[], .afterValue v⟩ => .ok v
  | _ => .error .malformedJson

end Parser

/-- The value that a JSON text stands for. Of several entries of a map with one key the last one
counts. -/
def parse (s : String) : Outcome Value := do
  ((← (tokens s.toList).foldlM Parser.step .start)).result

end SystemProgram.Json
