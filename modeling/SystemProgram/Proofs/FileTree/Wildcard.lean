import SystemProgram.FileTree.Wildcard
import Mathlib.Data.List.Infix

namespace SystemProgram.Wildcard

variable {cs n ending : List Char} {ws : List Wildcard}

/-- No character of the text has a meaning of its own in a pattern. -/
def IsPlain (cs : List Char) : Prop :=
  isPattern cs = false

instance (cs : List Char) : Decidable (IsPlain cs) :=
  inferInstanceAs (Decidable (_ = _))

theorem isPlain_cons_iff {c : Char} :
    IsPlain (c :: cs) ↔ (c ≠ '*' ∧ c ≠ '?' ∧ c ≠ '[') ∧ IsPlain cs := by
  simp [IsPlain, isPattern, and_assoc]

theorem isPlain_of_subset (h : IsPlain cs) (hs : ∀ c ∈ n, c ∈ cs) : IsPlain n := by
  unfold IsPlain isPattern at h ⊢
  rw [List.any_eq_false] at h ⊢
  exact fun c hc => h c (hs c hc)

theorem parse_of_isPlain (h : IsPlain cs) : parse cs = cs.map char := by
  induction cs with
  | nil => rw [parse, List.map_nil]
  | cons c cs ih =>
    obtain ⟨⟨hs, hq, hb⟩, hcs⟩ := isPlain_cons_iff.1 h
    rw [parse, ih hcs, List.map_cons]
    · exact hs
    · exact hq
    · exact hb

theorem matchAll_char_iff : matchAll (cs.map char) n = true ↔ n = cs := by
  induction cs generalizing n with
  | nil => simp [matchAll]
  | cons c cs ih =>
    cases n with
    | nil => simp [matchAll]
    | cons d n => simp [matchAll, accepts, ih]

theorem someEnd_iff {test : List Char → Bool} :
    someEnd test n = true ↔ ∃ ending, ending <:+ n ∧ test ending = true := by
  induction n with
  | nil => simp [someEnd]
  | cons c n ih =>
    rw [someEnd, Bool.or_eq_true, ih]
    constructor
    · intro h
      rcases h with h | ⟨ending, hs, h⟩
      · exact ⟨c :: n, List.suffix_rfl, h⟩
      · exact ⟨ending, hs.trans (List.suffix_cons c n), h⟩
    · intro h
      obtain ⟨ending, hs, h⟩ := h
      rcases List.suffix_cons_iff.1 hs with rfl | hs
      · exact .inl h
      · exact .inr ⟨ending, hs, h⟩

/-- A star in front of a text without wildcards fits what ends in the text. -/
theorem matchAll_star_iff (h : IsPlain ending) :
    matchAll (parse ('*' :: ending)) n = true ↔ ending <:+ n := by
  rw [parse, parse_of_isPlain h, matchAll, someEnd_iff]
  simp only [matchAll_char_iff]
  exact exists_eq_right

end SystemProgram.Wildcard
