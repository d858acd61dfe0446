import SystemProgram.Text.Base64
import SystemProgram.Text.Lowercase
import SystemProgram.Yaml.Resolve

namespace SystemProgram.Yaml

def withoutGaps (text : List Char) : List Char :=
  text.filter (· ≠ '_')

def isNegative : List Char → Bool
  | '-' :: _ => true
  | _ => false

def sixtieths (parts : List (List Char)) : Outcome Int := do
  let ds ← parts.mapM fun part => Outcome.ofOption .badValue (Integer.parse? part)
  return ds.foldl (fun n d => 60 * n + d) 0

def intBody (cs : List Char) : Outcome Int :=
  match cs with
  | [] => .error .outOfRange
  | ['0'] => .ok 0
  | '0' :: 'b' :: ds => .ofOption .badValue (Integer.parseIn? 2 ds)
  | '0' :: 'x' :: ds => .ofOption .badValue (Integer.parseIn? 16 ds)
  | '0' :: ds => .ofOption .badValue (Integer.parseIn? 8 ('0' :: ds))
  | cs =>
    if cs.contains ':' then sixtieths (splitAt ':' cs)
    else .ofOption .badValue (Integer.parse? cs)

/-- An integer. Behind its sign the text may be any integer of its base, with a sign again. -/
def intValue (text : List Char) : Outcome Int := do
  let cs := withoutGaps text
  let i ← intBody (unsigned cs)
  return if isNegative cs then -i else i

def floatPart (cs : List Char) : Outcome Binary64 :=
  .ofOption .badValue (Binary64.parse? cs)

/-- A number to the base of sixty from its parts, the last one first. A part whose place is beyond
the range of doubles counts as too large, even if it is zero. -/
def sixtiethsFloat (base : Nat) (sum : Binary64) : List Binary64 → Outcome Binary64
  | [] => .ok sum
  | d :: ds =>
    if Binary64.ofInt base = .infinity false then .error .overflow
    else sixtiethsFloat (base * 60) (sum.add (d.mul (.ofInt base))) ds

def floatBody (cs : List Char) : Outcome Binary64 :=
  if String.ofList cs = ".inf" then .ok (.infinity false)
  else if String.ofList cs = ".nan" then .ok .nan
  else if cs.contains ':' then do
    let ds ← (splitAt ':' cs).mapM floatPart
    sixtiethsFloat 1 (.zero false) ds.reverse
  else floatPart cs

def floatChars (text : List Char) : List Char :=
  (withoutGaps text).map Char.toLower

def floatValue (text : List Char) : Outcome Binary64 := do
  let cs := floatChars text
  if cs.isEmpty then throw .outOfRange
  let x ← floatBody (unsigned cs)
  return if isNegative cs then x.negate else x

def isNanWord : Text → Bool
  | .whole cs => String.ofList (unsigned (floatChars cs)) = ".nan"
  | .broken _ => false

def boolValue (text : List Char) : Outcome Bool :=
  let word := Text.lower (String.ofList text)
  if word = "yes" ∨ word = "true" ∨ word = "on" then .ok true
  else if word = "no" ∨ word = "false" ∨ word = "off" then .ok false
  else .error (.missing word)

/-- Microseconds from the digits of a fraction of a second; digits beyond the sixth do not count. -/
def microseconds (ds : List Char) : Nat :=
  Binary64.decimalValue (ds.take 6) * Nat.pow 10 (6 - (ds.take 6).length)

/-- A day or a moment. A line feed at the end of the text does not count. -/
def timestampValue (text : List Char) : Outcome Value := do
  let s ← .ofOption .wrongType (stamp? (dropLineFeed text))
  let d : Date := ⟨s.year, s.month, s.day⟩
  match s.time with
  | none => if d.isValid then return .date d else throw .badValue
  | some (hour, minute, second, fraction, zone) =>
    let m : Moment := ⟨d, hour, minute, second, microseconds fraction, zone⟩
    if m.isValid then return .moment m else throw .badValue

def scalarTags : List String :=
  [strTag, nullTag, boolTag, intTag, floatTag, timestampTag, binaryTag]

def wholeValue (tag : String) (text : List Char) : Outcome Value :=
  if tag = strTag then .ok (.str (String.ofList text))
  else if tag = nullTag then .ok .null
  else if tag = boolTag then do return .bool (← boolValue text)
  else if tag = intTag then do return .int (← intValue text)
  else if tag = floatTag then do return .float (← floatValue text)
  else if tag = timestampTag then timestampValue text
  else if tag = binaryTag then
    if text.all (·.toNat < 0x80) then
      do return .bytes (← .ofOption .malformedYaml (Base64.decode? text))
    else .error .malformedYaml
  else .error .malformedYaml

/-- A broken text is no number, word, time or ASCII text. -/
def brokenValue (tag : String) (t : BrokenText) : Outcome Value :=
  if tag = strTag then .ok (.broken t)
  else if tag = nullTag then .ok .null
  else if tag = boolTag then .error (.missing (.broken (t.mapRuns Text.lowerChars)))
  else if tag = intTag ∨ tag = floatTag then .error .badValue
  else if tag = timestampTag then .error .wrongType
  else .error .malformedYaml

def scalarValue (tag : String) : Text → Outcome Value
  | .whole cs => wholeValue tag cs
  | .broken t => brokenValue tag t

end SystemProgram.Yaml
