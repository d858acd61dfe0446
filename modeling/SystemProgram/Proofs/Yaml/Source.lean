import SystemProgram.Yaml.Render
import SystemProgram.Yaml.Token
import Mathlib.Tactic

namespace SystemProgram.Yaml

/-- Whether the character is printable ASCII, the space included. -/
def isInline (c : Char) : Bool :=
  ' ' ≤ c && c ≤ '~'

theorem ne_of_isInline {c d : Char} (h : isInline c = true) (hd : isInline d = false) : c ≠ d := by
  rintro rfl
  exact Bool.false_ne_true (hd.symm.trans h)

theorem isBreak_of_isInline {c : Char} (h : isInline c = true) : isBreak c = false := by
  have hn : c ≠ '\n' := ne_of_isInline h (by decide)
  have h85 : c ≠ '\x85' := ne_of_isInline h (by decide)
  have hl : c ≠ '\u2028' := ne_of_isInline h (by decide)
  have hp : c ≠ '\u2029' := ne_of_isInline h (by decide)
  simp [isBreak, *]

theorem isBlankOrBreak_of_isInline {c : Char} (h : isInline c = true) (hs : c ≠ ' ') :
    isBlankOrBreak c = false := by
  have ht : c ≠ '\t' := ne_of_isInline h (by decide)
  simp [isBlankOrBreak, isBreak_of_isInline h, *]

theorem isInline_of_not_isSpecial {c : Char} (h : isSpecial c = false) (hn : c ≠ '\n') :
    isInline c = true := by
  simpa [isSpecial, isInline, hn] using h

namespace Mark

def behind (m : Mark) (cs : List Char) : Mark :=
  cs.foldl after m

@[simp] theorem behind_nil (m : Mark) : m.behind [] = m := rfl

@[simp] theorem behind_cons (m : Mark) (c : Char) (cs : List Char) :
    m.behind (c :: cs) = (m.after c).behind cs := rfl

theorem after_of_isInline {c : Char} (h : isInline c = true) (m : Mark) :
    m.after c = ⟨m.index + 1, m.line, m.column + 1⟩ := by
  have hb : c ≠ byteOrderMark := ne_of_isInline h (by decide)
  rw [after, isBreak_of_isInline h, if_neg Bool.false_ne_true, if_neg hb]

theorem behind_of_isInline {cs : List Char} (h : ∀ c ∈ cs, isInline c = true) (m : Mark) :
    m.behind cs = ⟨m.index + cs.length, m.line, m.column + cs.length⟩ := by
  induction cs generalizing m with
  | nil => rfl
  | cons c cs ih =>
    obtain ⟨hc, h⟩ := List.forall_mem_cons.1 h
    rw [behind_cons, after_of_isInline hc, ih h, List.length_cons]
    simp only [Nat.add_comm cs.length, Nat.add_assoc]

theorem column_behind_spaces (m : Mark) (n : Nat) :
    (m.behind (spaces n)).column = m.column + n := by
  have hs : ∀ c ∈ spaces n, isInline c = true := by
    intro c hc
    rw [List.eq_of_mem_replicate hc]
    decide
  rw [behind_of_isInline hs, spaces, List.length_replicate]

theorem column_behind_newLine (m : Mark) (n : Nat) : (m.behind (newLine n)).column = n := by
  rw [newLine, behind_cons, column_behind_spaces]
  exact Nat.zero_add n

end Mark

namespace Source

variable {m : Mark} {c : Char} {cs ds : List Char} {n : Nat}

@[simp] theorem chars_ofChars (m : Mark) (cs : List Char) : chars (ofChars m cs) = cs := by
  induction cs generalizing m with
  | nil => rfl
  | cons c cs ih => exact congrArg (c :: ·) (ih (m.after c))

@[simp] theorem length_ofChars (m : Mark) (cs : List Char) : (ofChars m cs).length = cs.length := by
  induction cs generalizing m with
  | nil => rfl
  | cons c cs ih => exact congrArg (· + 1) (ih (m.after c))

theorem ofChars_append (m : Mark) (cs ds : List Char) :
    ofChars m (cs ++ ds) = ofChars m cs ++ ofChars (m.behind cs) ds := by
  induction cs generalizing m with
  | nil => rfl
  | cons c cs ih => exact congrArg ((m, c) :: ·) (ih (m.after c))

theorem atBorder_of_head (hh : c ≠ '-') (hp : c ≠ '.') :
    atBorder (ofChars m (c :: cs)) = false := by
  rw [ofChars, atBorder.eq_def]
  split <;> simp_all

theorem atBorder_spaces (h : 0 < n) (m : Mark) (cs : List Char) :
    atBorder (ofChars m (spaces n ++ cs)) = false := by
  cases n with
  | zero => cases h
  | succ n => rfl

end Source

def isWordChar (c : Char) : Bool :=
  ('a' ≤ c && c ≤ 'z') || c = '_'

/-- Short words. They stand on one line before their colon. -/
structure IsKeyWord (w : List Char) : Prop where
  ne_nil : w ≠ []
  isWordChar : ∀ c ∈ w, isWordChar c = true
  length_le : w.length ≤ 100

/-- What a line begins with behind its spaces: an item or a key. -/
inductive BeginsLine : List Char → Prop
  | nothing : BeginsLine []
  | item (cs) : BeginsLine ('-' :: ' ' :: cs)
  | key {c} (cs) : isWordChar c = true → BeginsLine (c :: cs)

theorem ne_of_isWordChar {c d : Char} (h : isWordChar c = true) (hd : isWordChar d = false) :
    c ≠ d := by
  rintro rfl
  exact Bool.false_ne_true (hd.symm.trans h)

theorem isInline_of_isWordChar {c : Char} (h : isWordChar c = true) : isInline c = true := by
  simp only [isWordChar, isInline, Bool.or_eq_true, Bool.and_eq_true, decide_eq_true_eq] at h ⊢
  rcases h with ⟨ha, hz⟩ | rfl
  · exact ⟨Char.le_trans (by decide : ' ' ≤ 'a') ha, Char.le_trans hz (by decide : 'z' ≤ '~')⟩
  · decide

/-- Whether the characters begin with no space or line end. There may be none. -/
def StartsText (cs : List Char) : Prop :=
  ∀ c ds, cs = c :: ds → c ≠ ' ' ∧ isBreak c = false

namespace BeginsLine

variable {c : Char} {cs : List Char}

theorem isInline (h : BeginsLine (c :: cs)) : Yaml.isInline c = true := by
  cases h with
  | item => decide
  | key _ hc => exact isInline_of_isWordChar hc

theorem ne_space (h : BeginsLine (c :: cs)) : c ≠ ' ' := by
  cases h with
  | item => decide
  | key _ hc => exact ne_of_isWordChar hc (by decide)

theorem startsText (h : BeginsLine cs) : StartsText cs := by
  rintro c ds rfl
  exact ⟨h.ne_space, isBreak_of_isInline h.isInline⟩

theorem ne_numberSign (h : BeginsLine (c :: cs)) : c ≠ '#' := by
  cases h with
  | item => decide
  | key _ hc => exact ne_of_isWordChar hc (by decide)

theorem not_atBorder (h : BeginsLine cs) (m : Mark) :
    (Source.ofChars m cs).atBorder = false := by
  cases h with
  | nothing => rfl
  | item => rfl
  | key _ hc =>
    have hm := ne_of_isWordChar hc (by decide : isWordChar '-' = false)
    have hp := ne_of_isWordChar hc (by decide : isWordChar '.' = false)
    exact Source.atBorder_of_head hm hp

theorem not_atBorder_spaces (h : BeginsLine cs) (n : Nat) (m : Mark) :
    (Source.ofChars m (spaces n ++ cs)).atBorder = false := by
  cases n with
  | zero => exact h.not_atBorder m
  | succ n => exact Source.atBorder_spaces n.succ_pos m cs

end BeginsLine
end SystemProgram.Yaml
