import SystemProgram.Yaml.Node
import SystemProgram.Yaml.Source

namespace SystemProgram.Yaml

/-- Text is broken at a space behind this column. -/
def lineWidth : Nat := 4096

def floatText (x : Binary64) : String :=
  match x.parts with
  | .nan => ".nan"
  | .infinite negative => if negative then "-.inf" else ".inf"
  | .finite .. =>
    let cs := x.chars
    if cs.contains '.' then x.text
    else String.ofList (cs.takeWhile (· ≠ 'e') ++ '.' :: '0' :: cs.dropWhile (· ≠ 'e'))

mutual
def Node.ofValue : Value → Outcome Node
  | .null => .ok (.scalar nullTag "null".toList)
  | .bool b => .ok (.scalar boolTag (if b then "true" else "false").toList)
  | .int i => .ok (.scalar intTag (Integer.text i).toList)
  | .float x => .ok (.scalar floatTag (floatText x).toList)
  | .str s => .ok (.scalar strTag s.toList)
  | .broken t => .ok (.scalar strTag (.broken t))
  | .date d => .ok (.scalar timestampTag d.text.toList)
  | .moment m => .ok (.scalar timestampTag m.text.toList)
  | .list vs | .tuple vs => do return .seq seqTag (← Node.ofValues vs)
  | .map es => do return .map mapTag (← Node.ofEntries es)
  | .bytes _ | .buffer _ | .key _ | .set _ | .outer _ => .error .malformedYaml

def Node.ofValues : List Value → Outcome (List Node)
  | [] => .ok []
  | v :: vs => do
    let n ← Node.ofValue v
    return n :: (← Node.ofValues vs)

def Node.ofEntries : List (Value × Value) → Outcome (List (Node × Node))
  | [] => .ok []
  | (k, v) :: es => do
    let k ← Node.ofValue k
    let v ← Node.ofValue v
    return (k, v) :: (← Node.ofEntries es)
end

inductive ScalarStyle where
  | plain
  | single
  | double
deriving DecidableEq, Repr

/-- Whether the character has to be escaped: all but printable ASCII and the line feed. -/
def isSpecial (c : Char) : Bool :=
  !(c = '\n' || (' ' ≤ c && c ≤ '~'))

/-- Whether somewhere a character of the first kind stands before one of the second kind. -/
def hasAdjacent (p q : Char → Bool) : List Char → Bool
  | c :: d :: cs => (p c && q d) || hasAdjacent p q (d :: cs)
  | _ => false

def gapFollows : List Char → Bool
  | [] => true
  | c :: _ => isBlankOrBreak c

def startMarks : List Char :=
  ['#', ',', '[', ']', '\x7b', '\x7d', '&', '*', '!', '|', '>', '\'', '"', '%', '@',
   Char.ofNat 0x60]

/-- Whether a text that goes on with the given characters would be cut off or split by them: at a
colon before a gap, or at a number sign behind one. -/
def hasMarks (behindGap : Bool) : List Char → Bool
  | [] => false
  | c :: cs =>
    (c = ':' && gapFollows cs) || (c = '#' && behindGap) || hasMarks (isBlankOrBreak c) cs

def startsWithMark : List Char → Bool
  | '-' :: '-' :: '-' :: _ => true
  | '.' :: '.' :: '.' :: _ => true
  | c :: cs => startMarks.contains c || ((c = '?' || c = ':' || c = '-') && gapFollows cs)
  | [] => false

def plainAllowed (cs : List Char) : Bool :=
  !cs.any isSpecial && !cs.contains '\n' && cs.head? != some ' ' && cs.getLast? != some ' ' &&
    !startsWithMark cs && !hasMarks true cs

/-- Whether the text can be written between single quotes: spaces at the beginning or end of its
lines would be lost. -/
def singleAllowed (cs : List Char) : Bool :=
  !cs.any isSpecial && !hasAdjacent (· = ' ') isBreak cs && !hasAdjacent isBreak (· = ' ') cs

def isMultiline (cs : List Char) : Bool :=
  cs.any isBreak

def styleOf (isKey : Bool) (tag : String) : Text → ScalarStyle
  | .whole cs =>
    if resolve cs = tag && !(isKey && (cs.isEmpty || isMultiline cs)) && plainAllowed cs then .plain
    else if singleAllowed cs && !(isKey && isMultiline cs) then .single
    else .double
  | .broken _ => .double

def spaces (n : Nat) : List Char :=
  List.replicate n ' '

def newLine (indent : Nat) : List Char :=
  '\n' :: spaces indent

/-- Text with single quotes doubled, from the given column on. Behind the line width it is broken at
spaces that stand alone and not at its ends; line feeds take one more line each run. -/
def foldedText (indent : Nat) (isKey quoted : Bool) :
    (column : Nat) → (previous : Option Char) → List Char → List Char
  | _, _, [] => []
  | column, previous, c :: cs =>
    if c = ' ' then
      let alone := previous.isSome && previous != some ' ' && !cs.isEmpty && cs.head? != some ' '
      if alone && !isKey && lineWidth < column then
        newLine indent ++ foldedText indent isKey quoted indent (some c) cs
      else c :: foldedText indent isKey quoted (column + 1) (some c) cs
    else if c = '\n' then
      (if previous = some '\n' then [] else ['\n']) ++ '\n' ::
        (if cs.head? = some '\n' then [] else spaces indent) ++
        foldedText indent isKey quoted indent (some c) cs
    else if quoted && c = '\'' then
      '\'' :: '\'' :: foldedText indent isKey quoted (column + 2) (some c) cs
    else c :: foldedText indent isKey quoted (column + 1) (some c) cs

def shortEscape? (c : Char) : Option Char :=
  [('\x00', '0'), ('\x07', 'a'), ('\x08', 'b'), ('\t', 't'), ('\n', 'n'), ('\x0b', 'v'),
   ('\x0c', 'f'), ('\r', 'r'), ('\x1b', 'e'), ('"', '"'), ('\\', '\\'), ('\x85', 'N'),
   ('\xa0', '_'), ('\u2028', 'L'), ('\u2029', 'P')].lookup c

def upperHex (width n : Nat) : List Char :=
  (Quoted.hexDigits width n).map Char.toUpper

/-- The escape of a code point by the shortest number that fits. -/
def longEscape (n : Nat) : List Char :=
  if n < 0x100 then 'x' :: upperHex 2 n
  else if n < 0x10000 then 'u' :: upperHex 4 n
  else 'U' :: upperHex 8 n

def escaped (p : CodePoint) : List Char :=
  '\\' :: match p.char?.bind shortEscape? with
    | some d => [d]
    | none => longEscape p.number

def needsEscape (c : Char) : Bool :=
  c = '"' || c = '\\' || !(' ' ≤ c && c ≤ '~')

def unescaped? (p : CodePoint) : Option Char :=
  p.char?.filter fun c => !needsEscape c

def next? (ps : List CodePoint) : Option Char :=
  ps.head?.bind CodePoint.char?

/-- A line break that does not count, and a backslash before a space that does. -/
def escapedBreak (indent : Nat) (next : Option Char) : List Char :=
  '\\' :: newLine indent ++ if next = some ' ' then ['\\'] else []

def columnBehindBreak (indent : Nat) (next : Option Char) : Nat :=
  if next = some ' ' then indent + 1 else indent

/-- Text between double quotes, from the given column on. Behind the line width it is broken before
a space or next to an escape, but not next to a quote. -/
def escapedText (indent : Nat) (isKey : Bool) :
    (column : Nat) → (isFirst behindEscape : Bool) → List CodePoint → List Char
  | _, _, _, [] => []
  | column, isFirst, behindEscape, p :: ps =>
    let mayBreak := !isKey && !isFirst && !ps.isEmpty
    match unescaped? p with
    | none =>
      let e := escaped p
      if mayBreak && lineWidth < column + e.length - 1 then
        e ++ escapedBreak indent (next? ps) ++
          escapedText indent isKey (columnBehindBreak indent (next? ps)) false true ps
      else e ++ escapedText indent isKey (column + e.length) false true ps
    | some c =>
      if mayBreak && (c = ' ' || behindEscape) && lineWidth < column then
        escapedBreak indent (some c) ++
          c :: escapedText indent isKey (columnBehindBreak indent (some c) + 1) false false ps
      else c :: escapedText indent isKey (column + 1) false false ps

/-- A scalar from the given column on; further lines begin at `indent`. -/
def scalarText (isKey : Bool) (column indent : Nat) (tag : String) (text : Text) : List Char :=
  match text, styleOf isKey tag text with
  | .whole cs, .plain => foldedText indent isKey false column none cs
  | .whole cs, .single => '\'' :: foldedText indent isKey true (column + 1) none cs ++ ['\'']
  | text, _ => '"' :: escapedText indent isKey (column + 1) true false text.points ++ ['"']

def maxKeySize : Nat := 128

def tagSize (tag : String) : Nat :=
  tag.length - (standard "").length + 2

def isSimpleKey : Node → Bool
  | .scalar tag text =>
    tagSize tag + text.points.length < maxKeySize && !text.points.isEmpty && !isMultiline text.chars
  | .seq _ items => items.isEmpty
  | .map _ es => es.isEmpty

def keyText (column : Nat) : Node → List Char
  | .scalar tag text => scalarText true column 0 tag text
  | .seq .. => ['[', ']']
  | .map .. => ['\x7b', '\x7d']

mutual
/-- A node behind a mark of one character at column `indent`. -/
def inline (indent : Nat) : Node → List Char
  | .scalar tag text => ' ' :: scalarText false (indent + 2) (indent + 2) tag text
  | .seq _ ns => ' ' :: if ns.isEmpty then ['[', ']'] else items (indent + 2) true ns
  | .map _ es => ' ' :: if es.isEmpty then ['\x7b', '\x7d'] else entries (indent + 2) true es

/-- A value behind the colon of a key; the key begins at column `indent`, the value behind
`column`. -/
def afterKey (indent column : Nat) : Node → List Char
  | .scalar tag text => ' ' :: scalarText false (column + 1) (indent + 2) tag text
  | .seq _ ns => if ns.isEmpty then [' ', '[', ']'] else items indent false ns
  | .map _ es => if es.isEmpty then [' ', '\x7b', '\x7d'] else entries (indent + 2) false es

/-- Items behind hyphens at column `indent`, each on a line of its own; with `here`, the first
begins on this line. -/
def items (indent : Nat) (here : Bool) : List Node → List Char
  | [] => []
  | n :: ns =>
    (if here then [] else newLine indent) ++ '-' :: inline indent n ++ items indent false ns

/-- Entries with their keys at column `indent`; with `here`, the first begins on this line. -/
def entries (indent : Nat) (here : Bool) : List (Node × Node) → List Char
  | [] => []
  | (k, v) :: es =>
    (if here then [] else newLine indent) ++
      (if isSimpleKey k then
        keyText indent k ++ ':' :: afterKey indent (indent + (keyText indent k).length + 1) v
      else '?' :: inline indent k ++ newLine indent ++ ':' :: inline indent v) ++
      entries indent false es
end

/-- A whole document. A plain scalar alone is followed by a mark that it has ended. -/
def document : Node → List Char
  | .scalar tag text =>
    scalarText false 0 2 tag text ++ '\n' ::
      (if styleOf false tag text = .plain then ['.', '.', '.', '\n'] else [])
  | .seq _ ns => (if ns.isEmpty then ['[', ']'] else items 0 true ns) ++ ['\n']
  | .map _ es => (if es.isEmpty then ['\x7b', '\x7d'] else entries 0 true es) ++ ['\n']

def render (v : Value) : Outcome String := do
  return String.ofList (document (← Node.ofValue v))

end SystemProgram.Yaml
