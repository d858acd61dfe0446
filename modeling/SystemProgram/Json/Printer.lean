import SystemProgram.Json

namespace SystemProgram.Json

def escapeChar (c : Char) : List Char :=
  if c = '"' ∨ c = '\\' then ['\\', c]
  else if c < ' ' then '\\' :: 'u' :: Quoted.hexDigits 4 c.toNat
  else [c]

def escapePoint : CodePoint → List Char
  | .char c => escapeChar c
  | .surrogate s => '\\' :: 'u' :: Quoted.hexDigits 4 s.number

def quoted (t : Text) : String :=
  String.ofList ('"' :: t.points.flatMap escapePoint ++ ['"'])

def floatText (x : Binary64) : String :=
  match x.parts with
  | .nan => "NaN"
  | .infinite negative => if negative then "-Infinity" else "Infinity"
  | .finite .. => x.text

def plainText? : Value → Option String
  | .null => some "null"
  | .bool b => some (if b then "true" else "false")
  | .int i => some (Integer.text i)
  | .float x => some (floatText x)
  | _ => none

/-- The text of a value without parts. Values that JSON has not are written as texts. -/
def leafText (v : Value) : String :=
  (plainText? v).getD (quoted v.text)

/-- A key is a text, also if it is the text of a constant or a number. -/
def keyText (k : Value) : String :=
  quoted ((plainText? k).elim k.text fun s => s)

mutual
def render : Value → String
  | .list vs | .tuple vs | .set vs => "[" ++ ",".intercalate (renderAll vs) ++ "]"
  | .map es => "\x7b" ++ ",".intercalate (renderEntries es) ++ "\x7d"
  | v => leafText v

def renderAll : List Value → List String
  | [] => []
  | v :: vs => render v :: renderAll vs

def renderEntries : List (Value × Value) → List String
  | [] => []
  | (k, v) :: es => (keyText k ++ ":" ++ render v) :: renderEntries es
end

end SystemProgram.Json
