import SystemProgram.Yaml.Scalar

namespace SystemProgram.Yaml

open Source

inductive Directive where
  | version (major : Nat)
  | handle (name replacement : String)
  | other
deriving DecidableEq, Repr

inductive Token where
  | streamEnd
  | directive (d : Directive)
  | documentStart
  | documentEnd
  | blockSeqStart
  | blockMapStart
  | blockEnd
  | flowSeqStart
  | flowSeqEnd
  | flowMapStart
  | flowMapEnd
  | blockEntry
  | flowEntry
  | key
  | value
  | reference (anchor : String)
  | anchor (name : String)
  | tag (handle : Option String) (suffix : String)
  | scalar (text : Text) (plain : Bool)
  | bad (f : Failure)
deriving Repr

def isNameChar (c : Char) : Bool :=
  c.isDigit || ('A' ≤ c && c ≤ 'Z') || ('a' ≤ c && c ≤ 'z') || c = '-' || c = '_'

def uriMarks : List Char :=
  [';', '/', '?', ':', '@', '&', '=', '+', '$', ',', '.', '!', '~', '*', '\'', '(', ')', '[', ']']

def isUriChar (c : Char) : Bool :=
  isNameChar c || uriMarks.contains c

def spanName (src : Source) : List Char × Source :=
  (chars (src.takeWhile fun p => isNameChar p.2), src.dropWhile fun p => isNameChar p.2)

def nameEnds : List Char :=
  ['?', ':', ',', ']', '\x7d', '%', '@', Char.ofNat 0x60]

def anchorName (src : Source) : Outcome (String × Source) :=
  let (name, rest) := spanName src
  if name.isEmpty || !(atGap rest || atAny nameEnds rest) then .error .malformedYaml
  else .ok (String.ofList name, rest)

def uriBytes : Source → Outcome (Bytes × Source)
  | (_, '%') :: (_, a) :: (_, b) :: rest => do
    let byte ← match Hex.digitValue? a, Hex.digitValue? b with
      | some hi, some lo => pure (UInt8.ofNat (16 * hi + lo))
      | _, _ => throw .malformedYaml
    let (bs, rest) ← uriBytes rest
    return (byte :: bs, rest)
  | (_, '%') :: _ => .error .malformedYaml
  | rest => .ok ([], rest)

/-- The text of a tag; bytes behind percent signs are UTF-8. -/
def uri (src : Source) : Outcome (List Char × Source) :=
  match src with
  | [] => .ok ([], [])
  | (m, c) :: rest =>
    if c = '%' then do
      let (bs, after) ← uriBytes ((m, c) :: rest)
      let s ← .ofOption .malformedYaml (Utf8.decode? bs)
      if after.length < rest.length then
        let (more, tail) ← uri after
        return (s.toList ++ more, tail)
      else throw .malformedYaml
    else if isUriChar c then do
      let (more, tail) ← uri rest
      return (c :: more, tail)
    else .ok ([], (m, c) :: rest)
termination_by src.length

def someUri (src : Source) : Outcome (String × Source) := do
  let (cs, rest) ← uri src
  if rest.length = src.length then throw .malformedYaml
  return (String.ofList cs, rest)

/-- A handle: `!`, or a name between two of them. A handle alone is followed by a space. -/
def tagHandle : Source → Outcome (String × Source)
  | (_, '!') :: rest =>
    let (name, after) := spanName rest
    match after with
    | (_, '!') :: after => .ok (String.ofList ('!' :: name ++ ['!']), after)
    | _ => if atAny [' '] rest then .ok ("!", rest) else .error .malformedYaml
  | _ => .error .malformedYaml

/-- Whether there is a second exclamation mark before the next blank. -/
def hasHandle (src : Source) : Bool :=
  (src.takeWhile fun p => !(p.2 = ' ' || isBreak p.2)).any fun p => p.2 = '!'

def tagToken (src : Source) : Outcome (Token × Source) := do
  let (token, rest) ← match src with
    | (_, '!') :: (_, '<') :: rest => do
      let (suffix, rest) ← someUri rest
      match rest with
      | (_, '>') :: rest => pure (Token.tag none suffix, rest)
      | _ => throw .malformedYaml
    | _ :: rest =>
      if atGap rest then pure (Token.tag none "!", rest)
      else if hasHandle rest then do
        let (handle, rest) ← tagHandle src
        let (suffix, rest) ← someUri rest
        pure (Token.tag (some handle) suffix, rest)
      else do
        let (suffix, rest) ← someUri rest
        pure (Token.tag (some "!") suffix, rest)
    | [] => throw .malformedYaml
  if !atSpaceOrEnd rest then throw .malformedYaml
  return (token, rest)

def directiveNumber (src : Source) : Outcome (Nat × Source) :=
  let ds := chars (src.takeWhile fun p => p.2.isDigit)
  if ds.isEmpty then .error .malformedYaml
  else if Integer.maxDigits < ds.length then .error .badValue
  else .ok (Radix.value 10 (ds.map fun c => c.toNat - 48), src.drop ds.length)

def versionDirective (src : Source) : Outcome (Directive × Source) := do
  let (major, rest) ← directiveNumber (skipSpaces src)
  match rest with
  | (_, '.') :: rest => do
    let (_, rest) ← directiveNumber rest
    if !atSpaceOrEnd rest then throw .malformedYaml
    return (.version major, rest)
  | _ => throw .malformedYaml

def handleDirective (src : Source) : Outcome (Directive × Source) := do
  let (name, rest) ← tagHandle (skipSpaces src)
  if !atAny [' '] rest then throw .malformedYaml
  let (replacement, rest) ← someUri (skipSpaces rest)
  if !atSpaceOrEnd rest then throw .malformedYaml
  return (.handle name replacement, rest)

def directiveToken (src : Source) : Outcome (Token × Source) := do
  let (name, rest) := spanName src
  if name.isEmpty || !atSpaceOrEnd rest then throw .malformedYaml
  let (d, rest) ← match String.ofList name with
    | "YAML" => versionDirective rest
    | "TAG" => handleDirective rest
    | _ => pure (.other, (untilBreak rest).2)
  return (.directive d, ← endOfLine rest)

/-- A place at which a key may have begun: how many tokens came before it, and whether nothing but a
key may stand there. -/
structure SimpleKey where
  position : Nat
  required : Bool
  mark : Mark
deriving Repr

structure Lexer where
  /-- The tokens so far, the last one first. -/
  reversed : List Token
  count : Nat
  /-- The column of the innermost block collection, or -1. -/
  indent : Int
  outer : List Int
  /-- Whether a key may begin here. -/
  keyAllowed : Bool
  /-- For the block level and every open bracket, innermost first, where a key may have begun. -/
  keys : List (Option SimpleKey)
deriving Repr

namespace Lexer

def start : Lexer := ⟨[], 0, -1, [], true, [none]⟩

def inFlow (l : Lexer) : Bool :=
  1 < l.keys.length

def push (l : Lexer) (t : Token) : Lexer :=
  { l with reversed := t :: l.reversed, count := l.count + 1 }

def insert (l : Lexer) (position : Nat) (t : Token) : Lexer :=
  let behind := l.count - position
  { l with
    reversed := l.reversed.take behind ++ t :: l.reversed.drop behind
    count := l.count + 1 }

/-- A key has to end on its line, and within 1024 characters. -/
def isStale (m : Mark) (k : SimpleKey) : Bool :=
  k.mark.line != m.line || 1024 < m.index - k.mark.index

/-- Forgets where keys may have begun that can be none any more. -/
def dropStale (l : Lexer) (m : Mark) : Outcome Lexer :=
  if l.keys.any fun k => k.any fun k => isStale m k && k.required then .error .malformedYaml
  else .ok { l with keys := l.keys.map fun k => k.filter fun k => !isStale m k }

def dropKey (l : Lexer) : Outcome Lexer :=
  match l.keys with
  | some k :: keys =>
    if k.required then .error .malformedYaml else .ok { l with keys := none :: keys }
  | _ => .ok l

def saveKey (l : Lexer) (m : Mark) : Outcome Lexer := do
  if l.keyAllowed then
    let l ← l.dropKey
    let k : SimpleKey := ⟨l.count, !l.inFlow && l.indent = m.column, m⟩
    return { l with keys := some k :: l.keys.tail }
  else return l

/-- Ends the block collections that are indented further than `column`. -/
def unwindFrom (column : Int) (l : Lexer) : List Int → Lexer
  | [] => l
  | i :: is =>
    if column < l.indent then
      unwindFrom column { l.push .blockEnd with indent := i, outer := is } is
    else l

def unwind (l : Lexer) (column : Int) : Lexer :=
  if l.inFlow then l else unwindFrom column l l.outer

/-- Begins a block collection before the token at `position`, if the column is a new one. -/
def indentTo (l : Lexer) (column position : Nat) (t : Token) : Lexer :=
  if l.indent < column then
    { l.insert position t with indent := column, outer := l.indent :: l.outer }
  else l

/-- Between documents, and at the end, every collection ends. -/
def closeDocument (l : Lexer) : Outcome Lexer := do
  let l ← (l.unwind (-1)).dropKey
  return { l with keyAllowed := false }

def openFlow (l : Lexer) (m : Mark) (t : Token) : Outcome Lexer := do
  let l ← l.saveKey m
  return { l.push t with keyAllowed := true, keys := none :: l.keys }

def closeFlow (l : Lexer) (t : Token) : Outcome Lexer := do
  let l ← l.dropKey
  if !l.inFlow then throw .malformedYaml
  return { l.push t with keyAllowed := false, keys := l.keys.tail }

def flowEntry (l : Lexer) : Outcome Lexer := do
  let l ← l.dropKey
  return { l.push .flowEntry with keyAllowed := true }

/-- The mark of an item or of a key, which in a block has to be where a key could be. -/
def blockMark (l : Lexer) (m : Mark) (opening mark : Token) (keyAllowed : Bool) :
    Outcome Lexer := do
  if !l.inFlow && !l.keyAllowed then throw .malformedYaml
  let l := if l.inFlow then l else l.indentTo m.column l.count opening
  let l ← l.dropKey
  return { l.push mark with keyAllowed := keyAllowed }

/-- The colon behind a key: the key token goes in front of what may have been a key. Without that,
the key was marked as such, or is empty. -/
def valueMark (l : Lexer) (m : Mark) : Outcome Lexer := do
  match l.keys with
  | some k :: keys =>
    let l := { l.insert k.position .key with keys := none :: keys, keyAllowed := false }
    let l := if l.inFlow then l else l.indentTo k.mark.column k.position .blockMapStart
    return l.push .value
  | _ => l.blockMark m .blockMapStart .value (!l.inFlow)

def contentToken (l : Lexer) (m : Mark) (t : Token) : Outcome Lexer := do
  let l ← l.saveKey m
  return { l.push t with keyAllowed := false }

def indicators : List Char :=
  ['-', '?', ':', ',', '[', ']', '\x7b', '\x7d', '#', '&', '*', '!', '|', '>', '\'', '"', '%', '@',
   Char.ofNat 0x60]

/-- Whether a plain scalar begins with this character. Hyphen, question mark and colon may begin one
if no gap follows, the latter two only outside of brackets. -/
def plainBegins (l : Lexer) (c : Char) (rest : Source) : Bool :=
  (!isBlankOrBreak c && !indicators.contains c) ||
    (!atGap rest && (c = '-' || (!l.inFlow && (c = '?' || c = ':'))))

def fetch (l : Lexer) (m : Mark) (c : Char) (rest : Source) : Outcome (Lexer × Source) := do
  let src := (m, c) :: rest
  if m.column = 0 ∧ c = '%' then
    let l ← l.closeDocument
    let (t, rest) ← directiveToken rest
    return (l.push t, rest)
  else if m.column = 0 ∧ atBorder src then
    let l ← l.closeDocument
    return (l.push (if c = '-' then .documentStart else .documentEnd), rest.drop 2)
  else if c = '[' then return (← l.openFlow m .flowSeqStart, rest)
  else if c = '\x7b' then return (← l.openFlow m .flowMapStart, rest)
  else if c = ']' then return (← l.closeFlow .flowSeqEnd, rest)
  else if c = '\x7d' then return (← l.closeFlow .flowMapEnd, rest)
  else if c = ',' then return (← l.flowEntry, rest)
  else if c = '-' ∧ atGap rest then
    return (← l.blockMark m .blockSeqStart .blockEntry true, rest)
  else if c = '?' ∧ (l.inFlow ∨ atGap rest) then
    return (← l.blockMark m .blockMapStart .key (!l.inFlow), rest)
  else if c = ':' ∧ (l.inFlow ∨ atGap rest) then return (← l.valueMark m, rest)
  else if c = '*' then
    let (name, rest) ← anchorName rest
    return (← l.contentToken m (.reference name), rest)
  else if c = '&' then
    let (name, rest) ← anchorName rest
    return (← l.contentToken m (.anchor name), rest)
  else if c = '!' then
    let (t, rest) ← tagToken src
    return (← l.contentToken m t, rest)
  else if (c = '|' ∨ c = '>') ∧ !l.inFlow then
    let l ← l.dropKey
    let (s, rest) ← blockScalar (c = '>') l.indent rest
    return ({ l.push (.scalar s false) with keyAllowed := true }, rest)
  else if c = '\'' ∨ c = '"' then
    let (ps, rest) ← quotedScalar (c = '"') .none rest
    return (← l.contentToken m (.scalar (.ofPoints ps) false), rest)
  else if l.plainBegins c rest then
    let (s, rest, endsLine) := plainScalar l.inFlow (l.indent + 1) src
    let l ← l.contentToken m (.scalar s true)
    return ({ l with keyAllowed := endsLine }, rest)
  else throw .malformedYaml

/-- The tokens so far that are settled before the given text: no key token may come in front of one
of them any more. -/
def settled (l : Lexer) : Source → List Token
  | [] => l.reversed.reverse
  | (m, _) :: _ =>
    let pending := l.keys.filterMap fun k => (k.filter fun k => !isStale m k).map (·.position)
    l.reversed.reverse.take (pending.foldl min l.count)

def advance (l : Lexer) (m : Mark) (c : Char) (rest : Source) : Outcome (Lexer × Source) := do
  ((← l.dropStale m).unwind m.column).fetch m c rest

def run (l : Lexer) (src : Source) : List Token :=
  let (endsLine, next) := skipToToken false src
  let l := if endsLine && !l.inFlow then { l with keyAllowed := true } else l
  match next with
  | [] =>
    match l.closeDocument with
    | .ok l => (l.push .streamEnd).reversed.reverse
    | .error e => l.settled src ++ [.bad e]
  | (m, c) :: rest =>
    match l.advance m c rest with
    | .ok (l, after) =>
      if after.length < src.length then run l after else l.settled src ++ [.bad .malformedYaml]
    | .error e => l.settled src ++ [.bad e]
termination_by src.length

end Lexer

def tokens (cs : List Char) : List Token :=
  Lexer.start.run (Source.ofChars .start cs)

end SystemProgram.Yaml
