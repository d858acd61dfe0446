import SystemProgram.Failure
import SystemProgram.Number.Shortest

namespace SystemProgram.Json

inductive Token where
  | openList
  | closeList
  | openMap
  | closeMap
  | comma
  | colon
  | text (t : Text)
  /-- Any other value without parts. -/
  | leaf (v : Value)
  | bad (f : Failure)
deriving Repr

def isBlank (c : Char) : Bool :=
  c = ' ' || c = '\t' || c = '\n' || c = '\r'

def hex4? (a b c d : Char) : Option Nat := do
  return Radix.value 16 [← Hex.digitValue? a, ← Hex.digitValue? b, ← Hex.digitValue? c,
    ← Hex.digitValue? d]

def escape? : Char → Option Char
  | '"' => some '"'
  | '\\' => some '\\'
  | '/' => some '/'
  | 'b' => some '\x08'
  | 'f' => some '\x0c'
  | 'n' => some '\n'
  | 'r' => some '\r'
  | 't' => some '\t'
  | _ => none

def numbers? : List Char → Option (List Nat × List Char)
  | [] => none
  | '"' :: rest => some ([], rest)
  | '\\' :: 'u' :: a :: b :: c :: d :: rest => do
    let n ← hex4? a b c d
    let (ns, rest) ← numbers? rest
    return (n :: ns, rest)
  | '\\' :: c :: rest => do
    let d ← escape? c
    let (ns, rest) ← numbers? rest
    return (d.toNat :: ns, rest)
  | c :: rest => do
    guard (' ' ≤ c)
    let (ns, rest) ← numbers? rest
    return (c.toNat :: ns, rest)

open Binary64 (spanDigits)

def fraction (cs : List Char) : List Char × List Char :=
  match cs with
  | '.' :: rest =>
    match spanDigits rest with
    | ([], _) => ([], cs)
    | found => found
  | _ => ([], cs)

def exponent? (cs : List Char) : Option Int × List Char :=
  match cs with
  | c :: rest =>
    if c = 'e' ∨ c = 'E' then
      let (negative, rest) := Integer.splitSign rest
      match spanDigits rest with
      | ([], _) => (none, cs)
      | (ds, rest) => (some (Integer.signed negative (Binary64.decimalValue ds)), rest)
    else (none, cs)
  | [] => (none, cs)

/-- The digits before the point: a zero, or digits that do not begin with one. -/
def whole (cs : List Char) : List Char × List Char :=
  match cs with
  | '0' :: rest => (['0'], rest)
  | _ => spanDigits cs

/-- A number without a sign. It is an integer if it has neither fraction nor power of ten. -/
def number? (negative : Bool) (cs : List Char) : Option (Token × List Char) :=
  let (ds, rest) := whole cs
  let (fs, rest) := fraction rest
  let (e?, rest) := exponent? rest
  if ds.isEmpty then none
  else if fs.isEmpty && e?.isNone then
    if Integer.maxDigits < ds.length then some (.bad .badValue, rest)
    else some (.leaf (.int (Integer.signed negative (Binary64.decimalValue ds))), rest)
  else
    let e := e?.getD 0 - fs.length
    some (.leaf (.float (.ofDecimal negative (Binary64.decimalValue (ds ++ fs)) e)), rest)

def words : List (String × Value) :=
  [("null", .null), ("true", .bool true), ("false", .bool false), ("NaN", .float .nan),
   ("Infinity", .float (.infinity false)), ("-Infinity", .float (.infinity true))]

def word? (cs : List Char) : Option (Token × List Char) :=
  (words.find? fun w => w.1.toList.isPrefixOf cs).map fun w =>
    (.leaf w.2, cs.drop w.1.length)

/-- The numbers with the halves of a character joined wherever they stand side by side. -/
def joinSurrogates : List Nat → List Nat
  | n :: m :: ns =>
    if 0xD800 ≤ n ∧ n < 0xDC00 ∧ 0xDC00 ≤ m ∧ m < 0xE000 then
      (0x10000 + 0x400 * (n - 0xD800) + (m - 0xDC00)) :: joinSurrogates ns
    else n :: joinSurrogates (m :: ns)
  | ns => ns

def leaf? (cs : List Char) : Option (Token × List Char) :=
  match cs with
  | '"' :: rest => do
    let (ns, rest) ← numbers? rest
    return (.text (.ofPoints ((joinSurrogates ns).map .ofNumber)), rest)
  | '-' :: rest => (word? cs).or (number? true rest)
  | _ => (word? cs).or (number? false cs)

def punctuation? : Char → Option Token
  | '[' => some .openList
  | ']' => some .closeList
  | '\x7b' => some .openMap
  | '\x7d' => some .closeMap
  | ',' => some .comma
  | ':' => some .colon
  | _ => none

def tokens : List Char → List Token
  | [] => []
  | c :: cs =>
    if isBlank c then tokens cs
    else match punctuation? c with
      | some t => t :: tokens cs
      | none =>
        match leaf? (c :: cs) with
        | some (t, rest) =>
          if rest.length < (c :: cs).length then t :: tokens rest else [.bad .malformedJson]
        | none => [.bad .malformedJson]
termination_by cs => cs.length
decreasing_by all_goals (simp only [List.length_cons] at *; omega)

end SystemProgram.Json
