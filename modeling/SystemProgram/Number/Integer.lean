import SystemProgram.Number.Radix
import SystemProgram.Text.Blank
import SystemProgram.Text.Digit

namespace SystemProgram.Integer

def digitChar (d : Nat) : Char :=
  Char.ofNat (48 + d)

def natChars (n : Nat) : List Char :=
  if n = 0 then ['0'] else (Radix.digits 10 n).map digitChar

def chars : Int → List Char
  | .ofNat n => natChars n
  | .negSucc n => '-' :: natChars (n + 1)

def text (i : Int) : String :=
  String.ofList (chars i)

def natText (n : Nat) : String :=
  String.ofList (natChars n)

/-- The longest decimal numeral that is read or written. -/
def maxDigits : Nat := 4300

def isShowable (i : Int) : Bool :=
  i.natAbs < Nat.pow 10 maxDigits

/-- The blanks around a numeral: those of the C locale, and of Unicode outside ASCII. -/
def isBlank (c : Char) : Bool :=
  c = ' ' || ('\t' ≤ c && c ≤ '\r') || (0x80 ≤ c.toNat && Text.isBlank c)

def trim (cs : List Char) : List Char :=
  ((cs.dropWhile isBlank).reverse.dropWhile isBlank).reverse

def digits? (digit? : Char → Option Nat) : List Char → Option (List Nat)
  | [] => none
  | c :: rest => do
    let d ← digit? c
    match rest with
    | [] => pure [d]
    | '_' :: rest => return d :: (← digits? digit? rest)
    | rest => return d :: (← digits? digit? rest)

def splitSign : List Char → Bool × List Char
  | '-' :: rest => (true, rest)
  | '+' :: rest => (false, rest)
  | cs => (false, cs)

def signed (negative : Bool) (n : Nat) : Int :=
  if negative then -n else n

def parse? (cs : List Char) : Option Int := do
  let (negative, body) := splitSign (trim cs)
  let ds ← digits? Text.digitValue? body
  guard (ds.length ≤ maxDigits)
  return signed negative (Radix.value 10 ds)

/-- What the character counts as in bases beyond ten: there, letters follow the digits. -/
def letterDigit? (c : Char) : Option Nat :=
  match Text.digitValue? c with
  | some d => some d
  | none =>
    if 'a' ≤ c ∧ c ≤ 'z' then some (c.toNat - 87)
    else if 'A' ≤ c ∧ c ≤ 'Z' then some (c.toNat - 55)
    else none

def baseLetter? : Nat → Option Char
  | 2 => some 'b'
  | 8 => some 'o'
  | 16 => some 'x'
  | _ => none

def dropMark (base : Nat) : List Char → List Char
  | '0' :: c :: cs => if baseLetter? base = some c.toLower then cs else '0' :: c :: cs
  | cs => cs

/-- Reads a numeral in a base that is a power of two; its length has no limit. -/
def parseIn? (base : Nat) (cs : List Char) : Option Int := do
  let (negative, body) := splitSign (trim cs)
  let ds ← digits? (fun c => (letterDigit? c).filter (· < base)) (dropMark base body)
  return signed negative (Radix.value base ds)

end SystemProgram.Integer
