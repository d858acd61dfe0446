import SystemProgram.Number.Integer

namespace SystemProgram

/-- A double, by its 64 bits: sign, eleven bits of exponent, 52 bits of fraction. -/
structure Binary64 where
  bits : UInt64
deriving DecidableEq, Repr

namespace Binary64

open Integer (signed)

/-- What the bits stand for; a finite number is `m * 2 ^ q`, negated if `negative`. -/
inductive Parts where
  | nan
  | infinite (negative : Bool)
  | finite (negative : Bool) (m : Nat) (q : Int)
deriving DecidableEq, Repr

def signBit : Nat := 1 <<< 63

/-- The least number with 53 bits, whose first bit is not among the bits of a double. -/
def hiddenBit : Nat := 1 <<< 52

def parts (x : Binary64) : Parts :=
  let n := x.bits.toNat
  let negative := decide (signBit ≤ n)
  let exponent : Nat := n / hiddenBit % 2048
  let fraction := n % hiddenBit
  if exponent = 2047 then if fraction = 0 then .infinite negative else .nan
  else if exponent = 0 then .finite negative fraction (-1074)
  else .finite negative (fraction + hiddenBit) ((exponent : Int) - 1075)

def ofMagnitude (negative : Bool) (n : Nat) : Binary64 :=
  ⟨UInt64.ofNat (n + if negative then signBit else 0)⟩

def infinity (negative : Bool) : Binary64 := ofMagnitude negative (2047 * hiddenBit)

def nan : Binary64 := ofMagnitude false (2047 * hiddenBit + hiddenBit / 2)

def zero (negative : Bool) : Binary64 := ofMagnitude negative 0

/-- The integer nearest to `num / den`, a tie to the even one. -/
def roundHalfEven (num den : Nat) : Nat :=
  let n := num / den
  let twice := 2 * (num % den)
  if twice < den then n
  else if den < twice then n + 1
  else n + n % 2

/-- Numerator and denominator of `num / den / 2 ^ q`. -/
def shift (num den : Nat) (q : Int) : Nat × Nat :=
  if 0 ≤ q then (num, den <<< q.toNat) else (num <<< (-q).toNat, den)

/-- The exponent at which `num / den` has 53 bits before the point, but never below -1074. -/
def exponentOf (num den : Nat) : Int :=
  let q := max ((Nat.log2 num : Int) - Nat.log2 den - 52) (-1074)
  let (n, d) := shift num den q
  if n / d < hiddenBit then max (q - 1) (-1074) else q

/-- The double nearest to `num / den`, a tie to the one with even fraction. The exponent field and
the fraction are added, so that a fraction rounded up to `2 ^ 53` carries into the exponent. -/
def ofRatio (negative : Bool) (num den : Nat) : Binary64 :=
  if num = 0 ∨ den = 0 then zero negative
  else
    let q := exponentOf num den
    let (n, d) := shift num den q
    let magnitude := (q + 1074).toNat * hiddenBit + roundHalfEven n d
    ofMagnitude negative (min magnitude (2047 * hiddenBit))

def ofInt (i : Int) : Binary64 :=
  ofRatio (i < 0) i.natAbs 1

/-- The double nearest to `c * 10 ^ e`. Far outside the range of doubles the power is not
computed. -/
def ofDecimal (negative : Bool) (c : Nat) (e : Int) : Binary64 :=
  let size := Nat.log2 c / 4 + e
  if c = 0 then zero negative
  else if 400 < size then infinity negative
  else if (Nat.log2 c : Int) + e < -400 then zero negative
  else if 0 ≤ e then ofRatio negative (c * Nat.pow 10 e.toNat) 1
  else ofRatio negative c (Nat.pow 10 (-e).toNat)

def truncate? (x : Binary64) : Option Int :=
  match x.parts with
  | .finite negative m q =>
    some (signed negative (if 0 ≤ q then m <<< q.toNat else m >>> (-q).toNat))
  | _ => none

def isNaN (x : Binary64) : Bool := x.parts = .nan

def isZero (x : Binary64) : Bool :=
  match x.parts with
  | .finite _ m _ => m = 0
  | _ => false

/-- Equality of numbers: the two zeros are one number, and what is no number equals nothing. -/
def sameNumber (x y : Binary64) : Bool :=
  !x.isNaN && !y.isNaN && (x = y || x.isZero && y.isZero)

def isInt (x : Binary64) (i : Int) : Bool :=
  match x.parts with
  | .finite negative m q =>
    if 0 ≤ q then signed negative (m <<< q.toNat) = i
    else m % (1 <<< (-q).toNat) = 0 && signed negative (m >>> (-q).toNat) = i
  | _ => false

def negate (x : Binary64) : Binary64 := ⟨x.bits ^^^ 0x8000000000000000⟩

def units (negative : Bool) (m : Nat) (q : Int) : Int :=
  signed negative (m <<< (q + 1074).toNat)

def add (x y : Binary64) : Binary64 :=
  match x.parts, y.parts with
  | .nan, _ | _, .nan => nan
  | .infinite s, .infinite t => if s = t then x else nan
  | .infinite _, _ => x
  | _, .infinite _ => y
  | .finite s m p, .finite t n q =>
    let sum := units s m p + units t n q
    ofRatio (if sum = 0 then s && t else sum < 0) sum.natAbs (1 <<< 1074)

def mul (x y : Binary64) : Binary64 :=
  match x.parts, y.parts with
  | .nan, _ | _, .nan => nan
  | .infinite s, .infinite t => infinity (s != t)
  | .infinite s, .finite t m _ | .finite t m _, .infinite s =>
    if m = 0 then nan else infinity (s != t)
  | .finite s m p, .finite t n q =>
    let e := p + q
    if 0 ≤ e then ofRatio (s != t) ((m * n) <<< e.toNat) 1
    else ofRatio (s != t) (m * n) (1 <<< (-e).toNat)

end Binary64
end SystemProgram
