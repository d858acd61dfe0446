import SystemProgram.Failure
import SystemProgram.Number.Shortest

namespace SystemProgram.Yaml

def standard (name : String) : String :=
  "tag:yaml.org,2002:" ++ name

def nullTag : String := standard "null"
def boolTag : String := standard "bool"
def intTag : String := standard "int"
def floatTag : String := standard "float"
def strTag : String := standard "str"
def seqTag : String := standard "seq"
def mapTag : String := standard "map"
def timestampTag : String := standard "timestamp"
def mergeTag : String := standard "merge"
def valueTag : String := standard "value"
def binaryTag : String := standard "binary"
def indicatorTag : String := standard "yaml"

def trueWords : List String :=
  ["yes", "Yes", "YES", "true", "True", "TRUE", "on", "On", "ON"]

def falseWords : List String :=
  ["no", "No", "NO", "false", "False", "FALSE", "off", "Off", "OFF"]

def nullWords : List String :=
  ["", "~", "null", "Null", "NULL"]

/-- The indicators of tags and anchors. No value has the form of one. -/
def indicatorWords : List String :=
  ["!", "&", "*"]

def dropLineFeed (cs : List Char) : List Char :=
  if cs.getLast? = some '\n' then cs.dropLast else cs

def isDigitOrGap (c : Char) : Bool :=
  c.isDigit || c = '_'

def isHexDigit (c : Char) : Bool :=
  (Hex.digitValue? c).isSome

def unsigned : List Char → List Char
  | '-' :: cs | '+' :: cs => cs
  | cs => cs

def splitAt (sep : Char) : List Char → List (List Char)
  | [] => [[]]
  | c :: cs =>
    if c = sep then [] :: splitAt sep cs
    else match splitAt sep cs with
      | part :: parts => (c :: part) :: parts
      | [] => [[c]]

/-- A part of a number to the base of sixty: up to two digits, below sixty. -/
def isSixtieth : List Char → Bool
  | [d] => d.isDigit
  | [c, d] => '0' ≤ c && c ≤ '5' && d.isDigit
  | _ => false

/-- Digits of a base with underscores among them, at least one character. -/
def isDigits (isDigit : Char → Bool) (cs : List Char) : Bool :=
  !cs.isEmpty && cs.all fun c => isDigit c || c = '_'

def isNumeral (isFirst : Char → Bool) : List Char → Bool
  | [] => false
  | c :: cs => isFirst c && cs.all isDigitOrGap

def isIntBody : List Char → Bool
  | ['0'] => true
  | '0' :: 'b' :: cs => isDigits (fun c => c = '0' || c = '1') cs
  | '0' :: 'x' :: cs => isDigits isHexDigit cs
  | '0' :: cs => isDigits (fun c => '0' ≤ c && c ≤ '7') cs
  | cs =>
    match splitAt ':' cs with
    | [] => false
    | part :: parts => isNumeral (fun c => '1' ≤ c && c ≤ '9') part && parts.all isSixtieth

def isInt (cs : List Char) : Bool :=
  isIntBody (unsigned cs)

/-- The power of ten of a fraction: nothing, or a sign and digits. -/
def isExponent : List Char → Bool
  | [] => true
  | e :: s :: ds =>
    (e = 'e' || e = 'E') && (s = '-' || s = '+') && !ds.isEmpty && ds.all Char.isDigit
  | _ => false

def isFraction (cs : List Char) : Bool :=
  isExponent (cs.dropWhile isDigitOrGap)

def infinityWords : List String :=
  [".inf", ".Inf", ".INF"]

def nanWords : List String :=
  [".nan", ".NaN", ".NAN"]

/-- Digits, a point, digits; the digits before the point may be to the base of sixty, and then no
power of ten follows. -/
def isFloatBody (cs : List Char) : Bool :=
  match cs.dropWhile (· ≠ '.') with
  | [] => false
  | _ :: after =>
    match splitAt ':' (cs.takeWhile (· ≠ '.')) with
    | [whole] => isNumeral Char.isDigit whole && isFraction after
    | whole :: parts =>
      isNumeral Char.isDigit whole && parts.all isSixtieth && after.all isDigitOrGap
    | [] => false

def isFloat (cs : List Char) : Bool :=
  isFloatBody (unsigned cs) || infinityWords.contains (String.ofList (unsigned cs)) ||
    nanWords.contains (String.ofList cs) ||
    match cs with
    | '.' :: d :: rest => d.isDigit && isFraction rest
    | _ => false

/-- The parts of a time as it is written; `time` holds hour, minute, second, the digits of the
fraction and the zone. -/
structure Stamp where
  year : Nat
  month : Nat
  day : Nat
  time : Option (Nat × Nat × Nat × List Char × Option Int)
deriving Repr

def digits? (least most : Nat) (cs : List Char) : Option (Nat × List Char) :=
  let ds := (cs.take most).takeWhile Char.isDigit
  if ds.length < least then none else some (Binary64.decimalValue ds, cs.drop ds.length)

def expect (c : Char) : List Char → Option (List Char)
  | d :: cs => if d = c then some cs else none
  | [] => none

def isSpaceOrTab (c : Char) : Bool :=
  c = ' ' || c = '\t'

/-- The zone that a time ends with: nothing, `Z`, or hours with or without minutes. -/
def zone? (cs : List Char) : Option (Option Int) :=
  match cs.dropWhile isSpaceOrTab with
  | [] => if cs.isEmpty then some none else none
  | ['Z'] => some (some 0)
  | s :: rest => do
    guard (s = '-' ∨ s = '+')
    let (hours, rest) ← digits? 1 2 rest
    let minutes ← match rest with
      | [] => some 0
      | ':' :: rest => do
        let (minutes, rest) ← digits? 2 2 rest
        guard rest.isEmpty
        pure minutes
      | _ => none
    return some (Integer.signed (s = '-') (3600 * hours + 60 * minutes))

def afterDay? : List Char → Option (List Char)
  | c :: cs =>
    if c = 'T' ∨ c = 't' then some cs
    else if isSpaceOrTab c then some (cs.dropWhile isSpaceOrTab)
    else none
  | [] => none

def stamp? (cs : List Char) : Option Stamp := do
  let (year, cs) ← digits? 4 4 cs
  let (month, cs) ← digits? 1 2 (← expect '-' cs)
  let (day, cs) ← digits? 1 2 (← expect '-' cs)
  if cs.isEmpty then return ⟨year, month, day, none⟩
  let (hour, cs) ← digits? 1 2 (← afterDay? cs)
  let (minute, cs) ← digits? 2 2 (← expect ':' cs)
  let (second, cs) ← digits? 2 2 (← expect ':' cs)
  let (fraction, cs) := match cs with
    | '.' :: cs => (cs.takeWhile Char.isDigit, cs.dropWhile Char.isDigit)
    | cs => ([], cs)
  return ⟨year, month, day, some (hour, minute, second, fraction, ← zone? cs)⟩

/-- A day alone has two digits for month and day. -/
def isTimestamp (cs : List Char) : Bool :=
  match stamp? cs with
  | some s => s.time.isSome || cs.length = 10
  | none => false

/-- The tag whose form the text has, a line feed at its end left out before. -/
def resolveForm (cs : List Char) : String :=
  let s := String.ofList cs
  if trueWords.contains s || falseWords.contains s then boolTag
  else if isFloat cs then floatTag
  else if isInt cs then intTag
  else if s = "<<" then mergeTag
  else if nullWords.contains s then nullTag
  else if isTimestamp cs then timestampTag
  else if s = "=" then valueTag
  else if indicatorWords.contains s then indicatorTag
  else strTag

/-- The tag of characters that have none of their own. A line feed alone is a text. -/
def resolve (cs : List Char) : String :=
  if cs = ['\n'] then strTag else resolveForm (dropLineFeed cs)

def resolveText : Text → String
  | .whole cs => resolve cs
  | .broken _ => strTag

end SystemProgram.Yaml
