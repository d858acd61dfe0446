import SystemProgram.Calendar
import SystemProgram.Key
import SystemProgram.Number.Binary64
import SystemProgram.Text.CodePoint

namespace SystemProgram

inductive Value where
  | null
  | bool (b : Bool)
  | int (i : Int)
  | float (x : Binary64)
  | str (s : String)
  /-- A text without a UTF-8 form. -/
  | broken (t : BrokenText)
  | bytes (bs : Bytes)
  | buffer (bs : Bytes)
  | key (k : PublicKey)
  | date (d : Date)
  | moment (m : Moment)
  | list (xs : List Value)
  | tuple (xs : List Value)
  | set (xs : List Value)
  | map (entries : List (Value × Value))
  /-- A list or a map that this value is a part of. -/
  | outer (isMap : Bool)
deriving Repr, Inhabited

namespace Value

def typeName : Value → String
  | null => "NoneType"
  | bool _ => "bool"
  | int _ => "int"
  | float _ => "float"
  | str _ | broken _ => "str"
  | bytes _ => "bytes"
  | buffer _ => "bytearray"
  | key _ => "PublicKey"
  | date _ => "date"
  | moment _ => "datetime"
  | list _ => "list"
  | tuple _ => "tuple"
  | set _ => "set"
  | map _ => "dict"
  | outer isMap => if isMap then "dict" else "list"

/-- Zero, the empty text and empty collections count as false, like `null`. -/
def isTrue : Value → Bool
  | null => false
  | bool b => b
  | int i => i != 0
  | float x => !x.isZero
  | str s => s != ""
  | bytes bs | buffer bs => !bs.isEmpty
  | broken _ | key _ | date _ | moment _ | outer _ => true
  | list xs | tuple xs | set xs => !xs.isEmpty
  | map es => !es.isEmpty

def sameLeaf : Value → Value → Bool
  | null, null => true
  | bool a, bool b => a == b
  | bool a, int j => a.toInt == j
  | int i, bool b => i == b.toInt
  | int i, int j => i == j
  | bool a, float y => y.isInt a.toInt
  | float x, bool b => x.isInt b.toInt
  | int i, float y => y.isInt i
  | float x, int j => x.isInt j
  | float x, float y => x.sameNumber y
  | str s, str t => s == t
  | broken s, broken t => s == t
  | bytes a, bytes b | bytes a, buffer b | buffer a, bytes b | buffer a, buffer b => a == b
  | key k, key l => k == l
  | date d, date e => d == e
  | moment m, moment n => m.same n
  | _, _ => false

mutual
def same : Value → Value → Bool
  | list xs, list ys | tuple xs, tuple ys => sameAll xs ys
  | set xs, set ys => xs.length == ys.length && allAmong xs ys
  | map es, map fs => es.length == fs.length && entriesAmong es fs
  | v, w => sameLeaf v w

def sameAll : List Value → List Value → Bool
  | [], [] => true
  | v :: vs, w :: ws => same v w && sameAll vs ws
  | _, _ => false

def allAmong : List Value → List Value → Bool
  | [], _ => true
  | v :: vs, ws => ws.any (same v) && allAmong vs ws

def entriesAmong : List (Value × Value) → List (Value × Value) → Bool
  | [], _ => true
  | (k, v) :: es, fs => fs.any (fun f => same k f.1 && same v f.2) && entriesAmong es fs
end

mutual
def isHashable : Value → Bool
  | buffer _ | list _ | set _ | map _ | outer _ => false
  | tuple vs => allHashable vs
  | _ => true

def allHashable : List Value → Bool
  | [] => true
  | v :: vs => isHashable v && allHashable vs
end

/-- Whether the value is a number that equals nothing, not even itself. -/
def isNaN : Value → Bool
  | float x => x.isNaN
  | _ => false

def find? (name : String) : List (Value × Value) → Option Value
  | [] => none
  | (str s, v) :: es => if s = name then some v else find? name es
  | _ :: es => find? name es

/-- Puts `v` under `k`: in place if the map has that key already, otherwise at the end. -/
def insert (k v : Value) : List (Value × Value) → List (Value × Value)
  | [] => [(k, v)]
  | (l, w) :: es => if same l k then (l, v) :: es else (l, w) :: insert k v es

def record (fields : List (String × Value)) : Value :=
  map (fields.map fun (name, v) => (str name, v))

def ofText : Text → Value
  | .whole cs => str (String.ofList cs)
  | .broken t => broken t

/-- What a walk over the value visits: the characters of a text, the keys of a map. -/
def items? : Value → Option (List Value)
  | str s => some (s.toList.map fun c => str c.toString)
  | broken t => some (t.points.map fun p => ofText (.ofPoints [p]))
  | bytes bs | buffer bs => some (bs.map fun b => int b.toNat)
  | list xs | tuple xs | set xs => some xs
  | map es => some (es.map Prod.fst)
  | _ => none

def natural? : Value → Option Nat
  | bool b => some b.toNat
  | int i => if 0 ≤ i then some i.toNat else none
  | float x => x.truncate?.bind fun i => if 0 ≤ i ∧ x.isInt i then some i.toNat else none
  | _ => none

/-- Members of a set as a walk visits them: natural numbers from small to large; if there are other
members too, all in the order in which they were put in. -/
def arranged (vs : List Value) : List Value :=
  if vs.all fun v => v.natural?.isSome then
    vs.mergeSort fun v w => decide (v.natural?.getD 0 ≤ w.natural?.getD 0)
  else vs

theorem find?_str_cons (name s : String) (v : Value) (es : List (Value × Value)) :
    find? name ((str s, v) :: es) = if s = name then some v else find? name es := rfl

end Value
end SystemProgram
