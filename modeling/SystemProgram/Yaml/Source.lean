import SystemProgram.Failure

namespace SystemProgram.Yaml

/-- A place in a text. The byte order mark takes no column. -/
structure Mark where
  index : Nat
  line : Nat
  column : Nat
deriving DecidableEq, Repr

abbrev Source := List (Mark × Char)

def isBreak (c : Char) : Bool :=
  c = '\n' || c = '\x85' || c = '\u2028' || c = '\u2029'

/-- A line end as it is read: a next-line character counts as a line feed. -/
def lineEnd (c : Char) : Char :=
  if c = '\x85' then '\n' else c

def isBlankOrBreak (c : Char) : Bool :=
  c = ' ' || c = '\t' || isBreak c

def byteOrderMark : Char := '\uFEFF'

namespace Mark

def start : Mark := ⟨0, 0, 0⟩

def after (m : Mark) (c : Char) : Mark :=
  if isBreak c then ⟨m.index + 1, m.line + 1, 0⟩
  else ⟨m.index + 1, m.line, if c = byteOrderMark then m.column else m.column + 1⟩

end Mark

namespace Source

def ofChars (m : Mark) : List Char → Source
  | [] => []
  | c :: cs => (m, c) :: ofChars (m.after c) cs

def chars (src : Source) : List Char :=
  src.map Prod.snd

def atGap : Source → Bool
  | [] => true
  | (_, c) :: _ => isBlankOrBreak c

def atAny (cs : List Char) : Source → Bool
  | [] => false
  | (_, c) :: _ => cs.contains c

def atSpaceOrEnd : Source → Bool
  | [] => true
  | (_, c) :: _ => c = ' ' || isBreak c

/-- Three hyphens or points that stand for a border between documents. -/
def atBorder : Source → Bool
  | (_, '-') :: (_, '-') :: (_, '-') :: rest => atGap rest
  | (_, '.') :: (_, '.') :: (_, '.') :: rest => atGap rest
  | _ => false

def skipSpaces (src : Source) : Source :=
  src.dropWhile fun p => p.2 = ' '

def untilBreak (src : Source) : List Char × Source :=
  (chars (src.takeWhile fun p => !isBreak p.2), src.dropWhile fun p => !isBreak p.2)

/-- What is left of a line that may hold nothing but blanks and a comment. -/
def endOfLine (src : Source) : Outcome Source :=
  let src := skipSpaces src
  let src := if atAny ['#'] src then (untilBreak src).2 else src
  match src with
  | [] => .ok []
  | (_, c) :: rest => if isBreak c then .ok rest else .error .malformedYaml

/-- The text up to the next token, and whether a line ends before it. Spaces, comments and line ends
lie between tokens, tabs do not. -/
def skipToToken (inComment : Bool) : Source → Bool × Source
  | [] => (false, [])
  | (m, c) :: rest =>
    if isBreak c then (true, (skipToToken false rest).2)
    else if inComment || c = ' ' || (c = byteOrderMark && m.index = 0) then
      skipToToken inComment rest
    else if c = '#' then skipToToken true rest
    else (false, (m, c) :: rest)

end Source
end SystemProgram.Yaml
