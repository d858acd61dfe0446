namespace SystemProgram

/-- A number between 0xD800 and 0xDFFF, half of a character beyond 16 bits. Such a half alone is no
character and has no UTF-8 form. -/
structure Surrogate where
  offset : Fin 0x800
deriving DecidableEq, Repr

def Surrogate.number (s : Surrogate) : Nat :=
  0xD800 + s.offset

inductive CodePoint where
  | char (c : Char)
  | surrogate (s : Surrogate)
deriving DecidableEq, Repr

namespace CodePoint

def number : CodePoint → Nat
  | char c => c.toNat
  | surrogate s => s.number

def ofNumber (n : Nat) : CodePoint :=
  if 0xD800 ≤ n ∧ n < 0xE000 then surrogate ⟨Fin.ofNat 0x800 (n - 0xD800)⟩ else char (Char.ofNat n)

def char? : CodePoint → Option Char
  | char c => some c
  | surrogate _ => none

theorem char?_eq_some_iff {p : CodePoint} {c : Char} : p.char? = some c ↔ p = char c := by
  cases p <;> simp [char?]

theorem number_lt (p : CodePoint) : p.number < 0x110000 := by
  cases p with
  | char c =>
    have h : c.toNat.isValidChar := c.valid
    simp only [Nat.isValidChar] at h
    rw [number]
    omega
  | surrogate s =>
    have lt := s.offset.isLt
    rw [number, Surrogate.number]
    omega

theorem ofNumber_number (p : CodePoint) : ofNumber p.number = p := by
  cases p with
  | char c =>
    have h : c.toNat.isValidChar := c.valid
    rw [number, ofNumber, if_neg (by simp only [Nat.isValidChar] at h; omega), Char.ofNat_toNat]
  | surrogate s =>
    have lt := s.offset.isLt
    have h : Fin.ofNat 0x800 (0xD800 + s.offset.val - 0xD800) = s.offset := by
      rw [Nat.add_sub_cancel_left]
      exact Fin.ext (Nat.mod_eq_of_lt lt)
    rw [number, Surrogate.number, ofNumber, if_pos (by omega), h]

/-- Changes every run of characters, where the one that is being read begins with `run`. -/
def mapRuns (f : List Char → List Char) (run : List Char) : List CodePoint → List CodePoint
  | [] => (f run).map char
  | char c :: ps => mapRuns f (run ++ [c]) ps
  | surrogate s :: ps => (f run).map char ++ surrogate s :: mapRuns f [] ps

end CodePoint

/-- A text with surrogates in it, by the characters in front of the first one, that one, and what
follows. -/
structure BrokenText where
  front : List Char
  first : Surrogate
  rest : List CodePoint
deriving DecidableEq, Repr

namespace BrokenText

def points (t : BrokenText) : List CodePoint :=
  t.front.map .char ++ .surrogate t.first :: t.rest

def chars (t : BrokenText) : List Char :=
  t.points.filterMap CodePoint.char?

def mapRuns (f : List Char → List Char) (t : BrokenText) : BrokenText :=
  ⟨f t.front, t.first, CodePoint.mapRuns f [] t.rest⟩

end BrokenText

/-- Any text: characters, or one that is broken and has no UTF-8 form. -/
inductive Text where
  | whole (cs : List Char)
  | broken (t : BrokenText)
deriving DecidableEq, Repr

namespace Text

instance : Coe (List Char) Text := ⟨whole⟩
instance : Coe String Text := ⟨fun s => whole s.toList⟩
instance : Inhabited Text := ⟨whole []⟩

def points : Text → List CodePoint
  | whole cs => cs.map .char
  | broken t => t.points

def chars : Text → List Char
  | whole cs => cs
  | broken t => t.chars

def prepend (cs : List Char) : Text → Text
  | whole ds => whole (cs ++ ds)
  | broken t => broken { t with front := cs ++ t.front }

def ofPoints : List CodePoint → Text
  | [] => whole []
  | .char c :: ps => (ofPoints ps).prepend [c]
  | .surrogate s :: ps => broken ⟨[], s, ps⟩

protected def append : Text → Text → Text
  | whole cs, u => u.prepend cs
  | broken t, u => broken { t with rest := t.rest ++ u.points }

instance : Append Text := ⟨Text.append⟩

theorem ofPoints_map_char_append (cs : List Char) (ps : List CodePoint) :
    ofPoints (cs.map .char ++ ps) = (ofPoints ps).prepend cs := by
  induction cs with
  | nil => cases h : ofPoints ps <;> simp [prepend, h]
  | cons c cs ih =>
    simp only [List.map_cons, List.cons_append, ofPoints, ih]
    cases ofPoints ps <;> rfl

theorem ofPoints_points (t : Text) : ofPoints t.points = t := by
  cases t with
  | whole cs =>
    have h := ofPoints_map_char_append cs []
    simpa [prepend, ofPoints, points] using h
  | broken t =>
    have h := ofPoints_map_char_append t.front (.surrogate t.first :: t.rest)
    simpa [prepend, ofPoints, points, BrokenText.points] using h

end Text
end SystemProgram
