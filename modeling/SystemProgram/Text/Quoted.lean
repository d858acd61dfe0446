import SystemProgram.Text.CodePoint
import SystemProgram.Text.Hex
import SystemProgram.Text.Printable

namespace SystemProgram.Quoted

def quoteFor (cs : List Char) : Char :=
  if cs.contains '\'' && !cs.contains '"' then '"' else '\''

/-- The low `width` hexadecimal digits of `n`. -/
def hexDigits : Nat → Nat → List Char
  | 0, _ => []
  | width + 1, n => hexDigits width (n / 16) ++ [Hex.digit (n % 16)]

def escapeNumber (n : Nat) : List Char :=
  if n < 0x100 then '\\' :: 'x' :: hexDigits 2 n
  else if n < 0x10000 then '\\' :: 'u' :: hexDigits 4 n
  else '\\' :: 'U' :: hexDigits 8 n

def escapeChar (quote c : Char) : List Char :=
  if c = quote ∨ c = '\\' then ['\\', c]
  else if c = '\n' then ['\\', 'n']
  else if c = '\r' then ['\\', 'r']
  else if c = '\t' then ['\\', 't']
  else if Text.isPrintable c then [c]
  else escapeNumber c.toNat

def text (s : String) : String :=
  let q := quoteFor s.toList
  String.ofList (q :: s.toList.flatMap (escapeChar q) ++ [q])

def escapePoint (quote : Char) : CodePoint → List Char
  | .char c => escapeChar quote c
  | .surrogate s => escapeNumber s.number

def broken (t : BrokenText) : String :=
  let q := quoteFor t.chars
  String.ofList (q :: t.points.flatMap (escapePoint q) ++ [q])

def escapeByte (quote : Char) (b : UInt8) : List Char :=
  if b.toNat < 0x7F then escapeChar quote (Char.ofNat b.toNat) else escapeNumber b.toNat

def byteQuoteFor (bs : Bytes) : Char :=
  quoteFor (bs.map fun b => Char.ofNat b.toNat)

def bytes (bs : Bytes) : String :=
  let q := byteQuoteFor bs
  String.ofList ('b' :: q :: bs.flatMap (escapeByte q) ++ [q])

/-- A byte buffer: as bytes, but a single quote is escaped even between double quotes. -/
def buffer (bs : Bytes) : String :=
  let q := byteQuoteFor bs
  "bytearray(" ++ String.ofList ('b' :: q :: bs.flatMap (escapeByte '\'') ++ [q]) ++ ")"

end SystemProgram.Quoted
