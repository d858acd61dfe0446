import SystemProgram.Number.Integer
import SystemProgram.Proofs.Key

namespace SystemProgram

theorem Radix.length_digits_le {b n k : Nat} (hb : 2 ≤ b) (h : n < b ^ k) :
    (digits b n).length ≤ k := by
  unfold digits
  rw [List.length_reverse, digitsLE_eq_digits hb]
  exact (Nat.digits_length_le_iff hb n).2 h

namespace Integer

variable {n : Nat} {cs : List Char} {ds : List Nat}

/-- Decimal digits as they are written: zero has one. -/
def decimals (n : Nat) : List Nat :=
  if n = 0 then [0] else Radix.digits 10 n

theorem natChars_eq (n : Nat) : natChars n = (decimals n).map digitChar := by
  unfold natChars decimals
  split_ifs <;> rfl

theorem lt_of_mem_decimals {d : Nat} (h : d ∈ decimals n) : d < 10 := by
  unfold decimals at h
  split_ifs at h
  · simp_all
  · exact Radix.lt_of_mem_digits (by decide) h

theorem value_decimals (n : Nat) : Radix.value 10 (decimals n) = n := by
  unfold decimals
  split_ifs with hn
  · exact hn.symm
  · exact Radix.value_digits (by decide) n

theorem decimals_ne_nil (n : Nat) : decimals n ≠ [] := by
  intro h
  have hn : n = 0 := by
    rw [← value_decimals n, h]
    rfl
  rw [hn] at h
  cases h

theorem length_decimals_le {k : Nat} (h : n < 10 ^ k) (hk : 0 < k) : (decimals n).length ≤ k := by
  unfold decimals
  split_ifs
  · exact hk
  · exact Radix.length_digits_le (by decide) h

/-- What holds of the ten digits holds of every character of a numeral. -/
theorem forall_mem_natChars {P : Char → Prop} (h : ∀ d < 10, P (digitChar d)) (n : Nat) :
    ∀ c ∈ natChars n, P c := by
  rw [natChars_eq, List.forall_mem_map]
  exact fun d hd => h d (lt_of_mem_decimals hd)

theorem natChars_ne_nil (n : Nat) : natChars n ≠ [] := by
  simp [natChars_eq, decimals_ne_nil]

/-- A numeral is a single zero or begins with another digit. -/
theorem natChars_cases (n : Nat) : natChars n = ['0'] ∧ n = 0 ∨
    ∃ c cs, natChars n = c :: cs ∧ '1' ≤ c ∧ c ≤ '9' := by
  by_cases hn : n = 0
  · exact .inl ⟨by rw [hn]; rfl, hn⟩
  · right
    have hd : ∀ d < 10, d ≠ 0 → '1' ≤ digitChar d ∧ digitChar d ≤ '9' := by decide
    have hh : (decimals n).head? ≠ some 0 := by
      rw [decimals, if_neg hn]
      exact Radix.head?_digits_ne (by decide) n
    rw [natChars_eq]
    cases h : decimals n with
    | nil => exact absurd h (decimals_ne_nil n)
    | cons d ds =>
      have hm : d ∈ decimals n := h ▸ List.mem_cons_self
      have h0 : d ≠ 0 := by
        rintro rfl
        exact hh (by rw [h]; rfl)
      exact ⟨_, _, rfl, hd d (lt_of_mem_decimals hm) h0⟩

theorem digitValue?_digitChar {d : Nat} (h : d < 10) :
    Text.digitValue? (digitChar d) = some d := by
  revert d
  decide

theorem digits?_map (hn : ds ≠ []) (hd : ∀ d ∈ ds, d < 10) :
    digits? Text.digitValue? (ds.map digitChar) = some ds := by
  have hg : ∀ d < 10, digitChar d ≠ '_' := by decide
  induction ds with
  | nil => exact absurd rfl hn
  | cons d ds ih =>
    obtain ⟨h, hds⟩ := List.forall_mem_cons.1 hd
    have hc := digitValue?_digitChar h
    cases ds with
    | nil => simp [digits?, hc]
    | cons e ds =>
      have he := hg e (hds e (.head _))
      have hr := ih (List.cons_ne_nil e ds) hds
      rw [List.map_cons] at hr
      simp [digits?, hc, he, hr]

theorem trim_eq_self (h : ∀ c ∈ cs, isBlank c = false) : trim cs = cs := by
  have hd {ds : List Char} (h : ∀ c ∈ ds, isBlank c = false) : ds.dropWhile isBlank = ds := by
    cases ds with
    | nil => rfl
    | cons c ds => rw [List.dropWhile_cons, h c (.head _), if_neg Bool.false_ne_true]
  unfold trim
  rw [hd h, hd (by simpa using h), List.reverse_reverse]

theorem splitSign_eq (hm : ∀ c ∈ cs, c ≠ '-') (hp : ∀ c ∈ cs, c ≠ '+') :
    splitSign cs = (false, cs) := by
  unfold splitSign
  split <;> simp_all

theorem parse?_natChars (h : n < 10 ^ maxDigits) : parse? (natChars n) = some (n : Int) := by
  have hb : ∀ c ∈ natChars n, isBlank c = false := forall_mem_natChars (by decide) n
  have hm : ∀ c ∈ natChars n, c ≠ '-' := forall_mem_natChars (by decide) n
  have hp : ∀ c ∈ natChars n, c ≠ '+' := forall_mem_natChars (by decide) n
  have hd : digits? Text.digitValue? (natChars n) = some (decimals n) := by
    rw [natChars_eq]
    exact digits?_map (decimals_ne_nil n) fun d => lt_of_mem_decimals
  have hl : (decimals n).length ≤ maxDigits := length_decimals_le h (by decide)
  simp [parse?, trim_eq_self hb, splitSign_eq hm hp, hd, hl, signed, value_decimals]

end Integer
end SystemProgram
