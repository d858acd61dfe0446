import SystemProgram.Number.Radix
import SystemProgram.Yaml.Source

namespace SystemProgram.Yaml

open Source

def foldBreaks : List Char → List Char
  | [] => []
  | b :: bs => if b ≠ '\n' then b :: bs else if bs.isEmpty then [' '] else bs

/-- Blanks and line ends that have been read and may still turn out to end a line. -/
inductive Gap where
  | none
  | blanks (cs : List Char)
  | breaks (bs : List Char)
  /-- Behind a line end that a backslash has taken away. -/
  | joined (bs : List Char)
deriving DecidableEq, Repr

namespace Gap

def text : Gap → List Char
  | none => []
  | blanks cs => cs
  | breaks bs => foldBreaks bs
  | joined bs => bs

def addBlank (c : Char) : Gap → Gap
  | none => blanks [c]
  | blanks cs => blanks (cs ++ [c])
  | gap => gap

def addBreak (b : Char) : Gap → Gap
  | none | blanks _ => breaks [b]
  | breaks bs => breaks (bs ++ [b])
  | joined bs => joined (bs ++ [b])

end Gap

def escape? : Char → Option Char
  | '0' => some '\x00'
  | 'a' => some '\x07'
  | 'b' => some '\x08'
  | 't' => some '\t'
  | '\t' => some '\t'
  | 'n' => some '\n'
  | 'v' => some '\x0b'
  | 'f' => some '\x0c'
  | 'r' => some '\r'
  | 'e' => some '\x1b'
  | ' ' => some ' '
  | '"' => some '"'
  | '\\' => some '\\'
  | '/' => some '/'
  | 'N' => some '\x85'
  | '_' => some '\xa0'
  | 'L' => some '\u2028'
  | 'P' => some '\u2029'
  | _ => none

def escapeWidth? : Char → Option Nat
  | 'x' => some 2
  | 'u' => some 4
  | 'U' => some 8
  | _ => none

/-- The number of a character, from the digits of an escape that should be `width` digits long. No
character has a number of 0x110000 or more; a number of 32 bits is refused as too large. -/
def hexNumber (width : Nat) (ds : List Char) : Outcome Nat := do
  let ds ← .ofOption .malformedYaml (ds.mapM Hex.digitValue?)
  let n := Radix.value 16 ds
  if ds.length < width then throw .malformedYaml
  if 0x80000000 ≤ n then throw .overflow
  if 0x110000 ≤ n then throw .badValue
  return n

def Gap.points (gap : Gap) : List CodePoint :=
  gap.text.map .char

/-- The text up to the closing quote, and what follows it. The halves of a character stay halves,
also side by side. -/
def quotedScalar (double : Bool) (gap : Gap) (src : Source) : Outcome (List CodePoint × Source) :=
  match src with
  | [] => .error .malformedYaml
  | (m, c) :: rest =>
    if c = ' ' ∨ c = '\t' then quotedScalar double (gap.addBlank c) rest
    else if isBreak c then
      if atBorder rest then .error .malformedYaml
      else quotedScalar double (gap.addBreak (lineEnd c)) rest
    else if gap ≠ .none then do
      let (ps, rest) ← quotedScalar double .none ((m, c) :: rest)
      return (gap.points ++ ps, rest)
    else if double && c = '"' then .ok ([], rest)
    else if !double && c = '\'' then
      match rest with
      | (_, '\'') :: rest => do
        let (ps, rest) ← quotedScalar double .none rest
        return (.char c :: ps, rest)
      | _ => .ok ([], rest)
    else if double && c = '\\' then
      match rest with
      | [] => .error .malformedYaml
      | (_, e) :: rest =>
        match escape? e, escapeWidth? e with
        | some d, _ => do
          let (ps, rest) ← quotedScalar double .none rest
          return (.char d :: ps, rest)
        | none, some width => do
          let n ← hexNumber width (chars (rest.take width))
          let (ps, rest) ← quotedScalar double .none (rest.drop width)
          return (.ofNumber n :: ps, rest)
        | none, none =>
          if isBreak e && !atBorder rest then quotedScalar double (.joined []) rest
          else .error .malformedYaml
    else do
      let (ps, rest) ← quotedScalar double .none rest
      return (.char c :: ps, rest)
termination_by (src.length, if gap = .none then 0 else 1)
decreasing_by all_goals simp_all; try omega

def flowMarks : List Char :=
  [',', '[', ']', '\x7b', '\x7d']

def plainStops (inFlow : Bool) : Source → Bool
  | [] => true
  | (_, c) :: rest =>
    isBlankOrBreak c || (c = ':' && (atGap rest || (inFlow && atAny flowMarks rest))) ||
      (inFlow && (c = '?' || flowMarks.contains c))

def plainChunk (inFlow : Bool) : Source → List Char × Source
  | [] => ([], [])
  | p :: rest =>
    if plainStops inFlow (p :: rest) then ([], p :: rest)
    else ((p.2 :: (plainChunk inFlow rest).1), (plainChunk inFlow rest).2)

/-- The line ends at the start of the text, spaces between them left out, up to a border between
documents. -/
def plainBreaks : Source → List Char × Source
  | [] => ([], [])
  | (m, c) :: rest =>
    if c = ' ' then plainBreaks rest
    else if isBreak c then
      if atBorder rest then ([lineEnd c], rest)
      else (lineEnd c :: (plainBreaks rest).1, (plainBreaks rest).2)
    else ([], (m, c) :: rest)

/-- A plain scalar from here on: its text, what follows it with the gap behind it, and whether a
line ends in that gap. From a new line it goes on only at column `indent` or further. -/
def plainScalar (inFlow : Bool) (indent : Int) (src : Source) : List Char × Source × Bool :=
  let (chunk, rest) := plainChunk inFlow src
  if chunk.isEmpty || atAny ['#'] src then ([], src, false)
  else
    let blanks := chars (rest.takeWhile fun p => p.2 = ' ')
    let behind := skipSpaces rest
    let (breaks, next) :=
      match behind with
      | [] => ([], [])
      | (_, c) :: _ => if isBreak c then plainBreaks behind else ([], behind)
    let endsLine := !breaks.isEmpty
    let gap := if endsLine then foldBreaks breaks else blanks
    let goesOn := match next with
      | [] => false
      | (m, c) :: _ =>
        c ≠ '#' && (inFlow || indent ≤ m.column) && !(m.column = 0 && atBorder next)
    if gap.isEmpty || !goesOn then (chunk, next, endsLine)
    else if next.length < src.length then
      let (more, rest, last) := plainScalar inFlow indent next
      if more.isEmpty then (chunk, next, endsLine) else (chunk ++ gap ++ more, rest, last)
    else (chunk, next, endsLine)
termination_by src.length

/-- What becomes of the line ends behind a block: the last is kept or not, or all are kept. -/
inductive Chomping where
  | clip
  | strip
  | keep
deriving DecidableEq, Repr

def chomping? : Source → Option (Chomping × Source)
  | (_, '+') :: rest => some (.keep, rest)
  | (_, '-') :: rest => some (.strip, rest)
  | _ => none

/-- A digit that says how far the block is indented; not zero. -/
def increment? : Source → Outcome (Option Nat × Source)
  | (m, c) :: rest =>
    if c.isDigit then
      if c = '0' then .error .malformedYaml else .ok (some (c.toNat - 48), rest)
    else .ok (none, (m, c) :: rest)
  | [] => .ok (none, [])

def blockHeader (src : Source) : Outcome (Chomping × Option Nat × Source) := do
  match chomping? src with
  | some (chomping, rest) =>
    let (increment, rest) ← increment? rest
    return (chomping, increment, rest)
  | none =>
    let (increment, rest) ← increment? src
    match increment, chomping? rest with
    | some _, some (chomping, rest) => return (chomping, increment, rest)
    | _, _ => return (.clip, increment, rest)

/-- The empty lines at the start of a block, and how far the furthest of the lines is indented. -/
def blockStart : Source → List Char × Nat × Source
  | [] => ([], 0, [])
  | (m, c) :: rest =>
    if c = ' ' then
      let (breaks, furthest, rest) := blockStart rest
      (breaks, max (m.column + 1) furthest, rest)
    else if isBreak c then
      let (breaks, furthest, rest) := blockStart rest
      (lineEnd c :: breaks, furthest, rest)
    else ([], 0, (m, c) :: rest)

def blockBreaks (indent : Nat) : Source → List Char × Source
  | [] => ([], [])
  | (m, c) :: rest =>
    if c = ' ' ∧ m.column < indent then blockBreaks indent rest
    else if isBreak c then (lineEnd c :: (blockBreaks indent rest).1, (blockBreaks indent rest).2)
    else ([], (m, c) :: rest)

def atColumn (indent : Nat) : Source → Bool
  | [] => false
  | (m, _) :: _ => m.column = indent

/-- The lines of a block from here on: their text, the line end of the last one, the empty lines
behind it, and the rest. -/
def blockLines (folded : Bool) (indent : Nat) (src : Source) :
    List Char × List Char × List Char × Source :=
  let (line, rest) := untilBreak src
  let (ends, rest) := match rest with
    | [] => ([], [])
    | (_, c) :: rest => ([lineEnd c], rest)
  let (breaks, rest) := blockBreaks indent rest
  if atColumn indent rest && decide (rest.length < src.length) then
    let folds := folded && ends = ['\n'] && !atAny [' ', '\t'] src && !atAny [' ', '\t'] rest
    let between := if !folds then ends else if breaks.isEmpty then [' '] else []
    let (more, tail) := blockLines folded indent rest
    (line ++ between ++ breaks ++ more, tail)
  else (line, ends, breaks, rest)
termination_by src.length
decreasing_by
  simp_all

/-- A block from behind its `|` or `>` on, inside a collection at column `parent`. -/
def blockScalar (folded : Bool) (parent : Int) (src : Source) : Outcome (List Char × Source) := do
  let (chomping, increment, rest) ← blockHeader src
  if !atSpaceOrEnd rest then throw .malformedYaml
  let rest ← endOfLine rest
  let least := (max (parent + 1) 1).toNat
  let (indent, breaks, rest) := match increment with
    | some n => (least + n - 1, blockBreaks (least + n - 1) rest)
    | none =>
      let (breaks, furthest, rest) := blockStart rest
      (max least furthest, breaks, rest)
  let (text, ends, breaks, rest) :=
    if atColumn indent rest then
      let (lines, ends, after, rest) := blockLines folded indent rest
      (breaks ++ lines, ends, after, rest)
    else ([], [], breaks, rest)
  match chomping with
  | .strip => return (text, rest)
  | .clip => return (text ++ ends, rest)
  | .keep => return (text ++ ends ++ breaks, rest)

end SystemProgram.Yaml
