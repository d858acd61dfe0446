namespace SystemProgram.Radix

/-- The digits of `n`, least significant first; zero has none. -/
def digitsLE (base n : Nat) : List Nat :=
  if _h : n = 0 ∨ base < 2 then [] else n % base :: digitsLE base (n / base)
termination_by n
decreasing_by
  have := Nat.div_lt_self (n := n) (k := base) (by omega) (by omega)
  exact this

def digits (base n : Nat) : List Nat :=
  (digitsLE base n).reverse

def value (base : Nat) (ds : List Nat) : Nat :=
  ds.foldl (fun acc d => acc * base + d) 0

theorem digitsLE_of_pos {base n : Nat} (hb : 2 ≤ base) (hn : 0 < n) :
    digitsLE base n = n % base :: digitsLE base (n / base) := by
  rw [digitsLE, dif_neg (by omega)]

theorem value_append_singleton (base : Nat) (ds : List Nat) (d : Nat) :
    value base (ds ++ [d]) = value base ds * base + d := by
  simp [value]

theorem value_digits {base : Nat} (hb : 2 ≤ base) (n : Nat) : value base (digits base n) = n := by
  induction n using Nat.strongRecOn with
  | ind n ih =>
    by_cases hn : n = 0
    · subst hn
      simp [digits, digitsLE, value]
    · have hlt := Nat.div_lt_self (n := n) (k := base) (by omega) (by omega)
      have h := ih (n / base) hlt
      rw [digits] at h
      rw [digits, digitsLE_of_pos hb (by omega), List.reverse_cons, value_append_singleton, h,
        Nat.mul_comm]
      exact Nat.div_add_mod n base

theorem lt_of_mem_digits {base n d : Nat} (hb : 2 ≤ base) (h : d ∈ digits base n) : d < base := by
  rw [digits, List.mem_reverse] at h
  induction n using Nat.strongRecOn with
  | ind n ih =>
    by_cases hn : n = 0
    · subst hn
      simp [digitsLE] at h
    · rw [digitsLE_of_pos hb (by omega)] at h
      rcases List.mem_cons.1 h with rfl | h
      · exact Nat.mod_lt _ (by omega)
      · exact ih _ (Nat.div_lt_self (by omega) (by omega)) h

end SystemProgram.Radix
