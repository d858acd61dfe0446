import SystemProgram.Bytes

namespace SystemProgram.Hex

def digit (n : Nat) : Char :=
  if n < 10 then Char.ofNat (48 + n) else Char.ofNat (87 + n)

def digitValue? (c : Char) : Option Nat :=
  if '0' ≤ c ∧ c ≤ '9' then some (c.toNat - 48)
  else if 'a' ≤ c ∧ c ≤ 'f' then some (c.toNat - 87)
  else if 'A' ≤ c ∧ c ≤ 'F' then some (c.toNat - 55)
  else none

/-- The blanks of the C locale: tab to carriage return, and space. -/
def isBlank (c : Char) : Bool :=
  c = ' ' || ('\t' ≤ c && c ≤ '\r')

def encodeByte (b : UInt8) : List Char :=
  [digit (b.toNat / 16), digit (b.toNat % 16)]

def encode (bs : Bytes) : List Char :=
  bs.flatMap encodeByte

def decode? : List Char → Option Bytes
  | [] => some []
  | c :: rest =>
    if isBlank c then decode? rest
    else match rest with
      | [] => none
      | d :: rest => do
        let hi ← digitValue? c
        let lo ← digitValue? d
        let bs ← decode? rest
        pure (UInt8.ofNat (16 * hi + lo) :: bs)

def text (bs : Bytes) : String :=
  String.ofList (encode bs)

theorem encode_cons (b : UInt8) (bs : Bytes) :
    encode (b :: bs) = digit (b.toNat / 16) :: digit (b.toNat % 16) :: encode bs := by
  simp [encode, encodeByte]

theorem digitValue?_digit {n : Nat} (h : n < 16) : digitValue? (digit n) = some n := by
  revert n; decide

theorem isBlank_digit {n : Nat} (h : n < 16) : isBlank (digit n) = false := by
  revert n; decide

theorem decode?_encode (bs : Bytes) : decode? (encode bs) = some bs := by
  induction bs with
  | nil => rfl
  | cons b bs ih =>
    have hb := b.toNat_lt
    have h1 : b.toNat / 16 < 16 := by omega
    have h2 : b.toNat % 16 < 16 := by omega
    have h3 : UInt8.ofNat (16 * (b.toNat / 16) + b.toNat % 16) = b := by
      rw [Nat.div_add_mod]; simp
    rw [encode_cons, decode?, isBlank_digit h1]
    simp only [Bool.false_eq_true, if_false, digitValue?_digit h1, digitValue?_digit h2, ih,
      Option.bind_eq_bind, Option.bind_some, Option.pure_def, h3]

end SystemProgram.Hex
