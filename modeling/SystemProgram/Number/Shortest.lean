import SystemProgram.Number.Binary64
import SystemProgram.Number.Integer

namespace SystemProgram.Binary64

/-- How many decimal digits stand before the point of `m * 2 ^ q`; zero or negative below `1 / 10`
and so on: the least `k` with `num < den * 10 ^ k`. -/
def pointOf (num den : Nat) : Int :=
  if den ≤ num then (Radix.digits 10 (num / den)).length
  else 1 - (Radix.digits 10 ((den - 1) / num)).length

def shiftDecimal (num den : Nat) (e : Int) : Nat × Nat :=
  if 0 ≤ e then (num, den * Nat.pow 10 e.toNat) else (num * Nat.pow 10 (-e).toNat, den)

/-- Of the two neighbours of `num / den` on the grid of multiples of `10 ^ e`, the nearest one that
reads back as the double of magnitude `x`; in a tie the even one goes first. -/
def onGrid? (x : Binary64) (num den : Nat) (e : Int) : Option Nat :=
  let (n, d) := shiftDecimal num den e
  let below := n / d
  let near := roundHalfEven n d
  [near, below, below + 1].find? fun c => ofDecimal false c e = x

/-- The coarsest grid with a hit, from `point - count` downwards. -/
def shortestFrom (x : Binary64) (num den : Nat) (point : Int) : Nat → Nat → Nat × Int
  | 0, _ => (0, 0)
  | tries + 1, count =>
    match onGrid? x num den (point - count) with
    | some c => (c, point - count)
    | none => shortestFrom x num den point tries (count + 1)

/-- Coefficient and exponent of the shortest decimal that reads back as `m * 2 ^ q`. Seventeen
digits always suffice. -/
def shortest (m : Nat) (q : Int) : Nat × Int :=
  let (num, den) := if 0 ≤ q then (m <<< q.toNat, 1) else (m, 1 <<< (-q).toNat)
  shortestFrom (ofRatio false num den) num den (pointOf num den) 17 1

def positional (ds : List Char) (point : Int) : List Char :=
  if point ≤ 0 then '0' :: '.' :: List.replicate (-point).toNat '0' ++ ds
  else if ds.length ≤ point.toNat then
    ds ++ List.replicate (point.toNat - ds.length) '0' ++ ['.', '0']
  else ds.take point.toNat ++ '.' :: ds.drop point.toNat

/-- Digits with the point after the first, and the power of ten in at least two digits. -/
def scientific (ds : List Char) (exponent : Int) : List Char :=
  let power := Integer.natChars exponent.natAbs
  ds.take 1 ++ (if ds.length ≤ 1 then [] else '.' :: ds.drop 1) ++
    'e' :: (if exponent < 0 then '-' else '+') :: (if power.length < 2 then '0' :: power else power)

def finiteChars (m : Nat) (q : Int) : List Char :=
  if m = 0 then ['0', '.', '0']
  else
    let (c, e) := shortest m q
    let padded := Integer.natChars c
    let ds := (padded.reverse.dropWhile (· = '0')).reverse
    let point := padded.length + e
    if -4 < point ∧ point ≤ 16 then positional ds point else scientific ds (point - 1)

def chars (x : Binary64) : List Char :=
  match x.parts with
  | .nan => ['n', 'a', 'n']
  | .infinite negative => (if negative then ['-'] else []) ++ ['i', 'n', 'f']
  | .finite negative m q => (if negative then ['-'] else []) ++ finiteChars m q

def text (x : Binary64) : String :=
  String.ofList x.chars

def spanDigits (cs : List Char) : List Char × List Char :=
  (cs.takeWhile Char.isDigit, cs.dropWhile Char.isDigit)

def decimalValue (cs : List Char) : Nat :=
  Radix.value 10 (cs.map fun c => c.toNat - 48)

/-- Reads digits, an optional fraction and an optional exponent; at least one digit stands before or
after the point. -/
def parseUnsigned? (negative : Bool) (cs : List Char) : Option Binary64 :=
  let (whole, rest) := spanDigits cs
  let (fraction, rest) := match rest with
    | '.' :: r => spanDigits r
    | r => ([], r)
  let coefficient := decimalValue (whole ++ fraction)
  let result (e : Int) := ofDecimal negative coefficient (e - fraction.length)
  if whole.isEmpty && fraction.isEmpty then none
  else match rest with
    | [] => some (result 0)
    | c :: r =>
      if c = 'e' ∨ c = 'E' then
        let (minus, ds) := Integer.splitSign r
        if ds.isEmpty || !ds.all Char.isDigit then none
        else some (result (Integer.signed minus (decimalValue ds)))
      else none

def asciiDigits (cs : List Char) : List Char :=
  cs.map fun c => ((Text.digitValue? c).map Integer.digitChar).getD c

/-- Reads a number that may stand between blanks and have a sign. Infinity and what is no number
are read by name, in whatever letter case. -/
def parse? (cs : List Char) : Option Binary64 :=
  let (negative, body) := Integer.splitSign (Integer.trim cs)
  let word := String.ofList (body.map Char.toLower)
  if word = "inf" ∨ word = "infinity" then some (infinity negative)
  else if word = "nan" then some nan
  else parseUnsigned? negative (asciiDigits body)

end SystemProgram.Binary64
