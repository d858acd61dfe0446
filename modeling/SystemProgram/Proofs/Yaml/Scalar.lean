import SystemProgram.Proofs.Number
import SystemProgram.Proofs.Yaml.Block
import SystemProgram.Yaml.Construct
import Mathlib.Data.List.TakeWhile

namespace SystemProgram.Yaml

open Integer (natChars digitChar forall_mem_natChars natChars_ne_nil natChars_cases)

theorem splitAt_of_not_mem {sep : Char} {cs : List Char} (h : ∀ c ∈ cs, c ≠ sep) :
    splitAt sep cs = [cs] := by
  induction cs with
  | nil => rfl
  | cons c cs ih =>
    obtain ⟨hc, hcs⟩ := List.forall_mem_cons.1 h
    simp [splitAt, hc, ih hcs]

theorem unsigned_eq {cs : List Char} (hm : ∀ c ∈ cs, c ≠ '-') (hp : ∀ c ∈ cs, c ≠ '+') :
    unsigned cs = cs := by
  unfold unsigned
  split <;> simp_all

theorem unsigned_natChars (n : Nat) : unsigned (natChars n) = natChars n :=
  unsigned_eq (forall_mem_natChars (by decide) n) (forall_mem_natChars (by decide) n)

/-- A word with a character that is no digit is no numeral. -/
theorem natChars_not_mem (words : List String) (h : ∀ w ∈ words, w.toList.all Char.isDigit = false)
    (n : Nat) : String.ofList (natChars n) ∉ words := by
  have hd : (natChars n).all Char.isDigit = true :=
    List.all_eq_true.2 (forall_mem_natChars (by decide) n)
  intro hm
  have hw := h _ hm
  rw [String.toList_ofList, hd] at hw
  cases hw

theorem isFloat_natChars (n : Nat) : isFloat (natChars n) = false := by
  have hp : ∀ c ∈ natChars n, c ≠ '.' := forall_mem_natChars (by decide) n
  have hb : (natChars n).dropWhile (· ≠ '.') = [] :=
    List.dropWhile_eq_nil_iff.2 fun c hc => decide_eq_true (hp c hc)
  have hw : isFloatBody (natChars n) = false := by
    unfold isFloatBody
    rw [hb]
  have hi := natChars_not_mem infinityWords (by decide) n
  have hn := natChars_not_mem nanWords (by decide) n
  -- Taken from here when the match on the point in front is reduced.
  have hs : ∀ d rest, natChars n ≠ '.' :: d :: rest := by
    intro d rest he
    exact hp '.' (he ▸ .head _) rfl
  simp [isFloat, unsigned_natChars, hw, hi, hn]

theorem isInt_natChars (n : Nat) : isInt (natChars n) = true := by
  unfold isInt
  rw [unsigned_natChars]
  rcases natChars_cases n with ⟨h, _⟩ | ⟨c, cs, h, hl, hu⟩
  · rw [h]
    rfl
  · have hs : splitAt ':' (natChars n) = [natChars n] :=
      splitAt_of_not_mem (forall_mem_natChars (by decide) n)
    have hd : ∀ c ∈ natChars n, isDigitOrGap c = true := forall_mem_natChars (by decide) n
    have h0 : c ≠ '0' := by
      rintro rfl
      exact absurd hl (by decide)
    rw [h] at hs hd ⊢
    unfold isIntBody
    split
    · simp_all
    · simp_all
    · simp_all
    · simp_all
    · simp_all [isNumeral]

theorem resolve_natChars (n : Nat) : resolve (natChars n) = intTag := by
  have hl : ∀ c ∈ natChars n, c ≠ '\n' := forall_mem_natChars (by decide) n
  have hn : natChars n ≠ ['\n'] := fun h => hl '\n' (h ▸ .head _) rfl
  have hd : dropLineFeed (natChars n) = natChars n :=
    if_neg fun h => hl '\n' (List.mem_of_getLast? h) rfl
  have ht := natChars_not_mem trueWords (by decide) n
  have hf := natChars_not_mem falseWords (by decide) n
  simp [resolve, hn, hd, resolveForm, ht, hf, isFloat_natChars, isInt_natChars]

theorem plainAllowed_natChars (n : Nat) : plainAllowed (natChars n) = true := by
  apply plainAllowed_of_forall
  · exact forall_mem_natChars (by decide) n
  · exact forall_mem_natChars (by decide) n
  · exact forall_mem_natChars (by decide) n

theorem intBody_natChars {n : Nat} (h : n < 10 ^ Integer.maxDigits) :
    intBody (natChars n) = .ok n := by
  rcases natChars_cases n with ⟨hz, hn⟩ | ⟨c, cs, hc, hl, _⟩
  · rw [hz, hn]
    rfl
  · have hs : (natChars n).contains ':' = false := by
      have hm : ∀ c ∈ natChars n, c ≠ ':' := forall_mem_natChars (by decide) n
      simpa using fun hi => hm _ hi rfl
    have hp := Integer.parse?_natChars h
    have h0 : c ≠ '0' := by
      rintro rfl
      exact absurd hl (by decide)
    rw [hc] at hs hp ⊢
    unfold intBody
    split
    · simp_all
    · simp_all
    · simp_all
    · simp_all
    · simp_all
    · rw [hs, hp]
      rfl

theorem intValue_natChars {n : Nat} (h : n < 10 ^ Integer.maxDigits) :
    intValue (natChars n) = .ok n := by
  have hg : withoutGaps (natChars n) = natChars n := by
    rw [withoutGaps, List.filter_eq_self]
    exact forall_mem_natChars (by decide) n
  have hn : isNegative (natChars n) = false := by
    have hm : ∀ c ∈ natChars n, c ≠ '-' := forall_mem_natChars (by decide) n
    unfold isNegative
    split
    · next he => exact absurd rfl (hm '-' (he ▸ .head _))
    · rfl
  simp only [intValue, hg, unsigned_natChars, intBody_natChars h, hn]
  rfl

def boolChars (b : Bool) : List Char :=
  (if b then "true" else "false").toList

theorem resolve_boolChars (b : Bool) : resolve (boolChars b) = boolTag := by
  cases b <;> decide

theorem boolValue_boolChars (b : Bool) : boolValue (boolChars b) = .ok b := by
  cases b <;> rfl

theorem plainAllowed_boolChars (b : Bool) : plainAllowed (boolChars b) = true := by
  cases b <;> decide

end SystemProgram.Yaml
