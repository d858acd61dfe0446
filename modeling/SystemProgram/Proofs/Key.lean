import SystemProgram.Key.Checked
import Mathlib.Data.Nat.Digits.Lemmas
import Mathlib.Tactic

namespace SystemProgram

namespace Radix

variable {a b n : Nat} {ds : List Nat}

theorem digitsLE_eq_digits (hb : 2 ≤ b) (n : Nat) : digitsLE b n = Nat.digits b n := by
  induction n using Nat.strongRecOn with
  | ind n ih =>
    by_cases hn : n = 0
    · rw [hn, digitsLE, Nat.digits_zero, dif_pos (.inl rfl)]
    · have hlt : n / b < n := Nat.div_lt_self (by omega) hb
      rw [digitsLE_of_pos hb (by omega), Nat.digits_def' hb (by omega), ih _ hlt]

theorem value_eq_ofDigits (b : Nat) (ds : List Nat) : value b ds = Nat.ofDigits b ds.reverse := by
  induction ds using List.reverseRecOn with
  | nil => rfl
  | append_singleton ds d ih =>
    rw [value_append_singleton, ih, List.reverse_append, List.reverse_singleton,
      List.singleton_append, Nat.ofDigits_cons]
    ring

theorem digits_value (hb : 2 ≤ b) (hd : ∀ d ∈ ds, d < b) (h0 : ds.head? ≠ some 0) :
    digits b (value b ds) = ds := by
  -- The library lists digits the other way round, so the first one here is the last one there.
  have hr : ∀ h : ds.reverse ≠ [], ds.reverse.getLast h ≠ 0 := by
    intro h he
    rw [List.getLast_reverse] at he
    exact h0 (he ▸ List.head?_eq_some_head _)
  unfold digits
  rw [digitsLE_eq_digits hb, value_eq_ofDigits,
    Nat.digits_ofDigits b hb _ (by simpa using hd) hr, List.reverse_reverse]

theorem head?_digits_ne (hb : 2 ≤ b) (n : Nat) : (digits b n).head? ≠ some 0 := by
  unfold digits
  rw [digitsLE_eq_digits hb, List.head?_reverse]
  intro h
  have hn : Nat.digits b n ≠ [] := by
    intro he
    rw [he] at h
    cases h
  have hl := List.getLast?_eq_some_getLast hn
  rw [h] at hl
  have h0 : n ≠ 0 := Nat.digits_ne_nil_iff_ne_zero.1 hn
  exact Nat.getLast_digit_ne_zero b h0 (Option.some.inj hl).symm

theorem replicate_append_dropWhile (ds : List Nat) :
    List.replicate (ds.length - (ds.dropWhile (· = 0)).length) 0 ++ ds.dropWhile (· = 0) = ds := by
  induction ds with
  | nil => rfl
  | cons d ds ih =>
    by_cases hd : d = 0
    · have hl : (ds.dropWhile (· = 0)).length ≤ ds.length := (List.dropWhile_suffix _).length_le
      rw [List.dropWhile_cons_of_pos (by simpa using hd), List.length_cons,
        Nat.succ_sub hl, List.replicate_succ, List.cons_append, ih, hd]
    · rw [List.dropWhile_cons_of_neg (by simpa using hd), Nat.sub_self, List.replicate_zero,
        List.nil_append]

theorem dropWhile_replicate_append (n : Nat) (h : ds.head? ≠ some 0) :
    (List.replicate n 0 ++ ds).dropWhile (· = 0) = ds := by
  rw [List.dropWhile_append_of_pos (by simp)]
  cases ds with
  | nil => rfl
  | cons d ds =>
    have hd : d ≠ 0 := fun hd => h (congrArg some hd)
    rw [List.dropWhile_cons_of_neg (by simpa using hd)]

/-- The digits of the same number in base `b` instead of `a`, behind as many zeros. -/
def recode (a b : Nat) (ds : List Nat) : List Nat :=
  List.replicate (ds.length - (ds.dropWhile (· = 0)).length) 0 ++
    digits b (value a (ds.dropWhile (· = 0)))

theorem lt_of_mem_recode {d : Nat} (hb : 2 ≤ b) (h : d ∈ recode a b ds) : d < b := by
  rcases List.mem_append.1 h with h | h
  · rw [List.eq_of_mem_replicate h]
    omega
  · exact lt_of_mem_digits hb h

/-- A number goes to another base and back unchanged, zeros in front included. -/
theorem recode_recode (ha : 2 ≤ a) (hb : 2 ≤ b) (hd : ∀ d ∈ ds, d < a) :
    recode b a (recode a b ds) = ds := by
  have h0 : (ds.dropWhile (· = 0)).head? ≠ some 0 := by
    intro h
    simpa [h] using List.head?_dropWhile_not (fun d => decide (d = 0)) ds
  have hs : ∀ d ∈ ds.dropWhile (· = 0), d < a :=
    fun d h => hd d ((List.dropWhile_suffix _).subset h)
  -- The new digits do not begin with a zero, so the zeros in front of them are still those of `ds`.
  have hw := dropWhile_replicate_append (ds.length - (ds.dropWhile (· = 0)).length)
    (head?_digits_ne hb (value a (ds.dropWhile (· = 0))))
  rw [recode, recode, hw, value_digits hb, digits_value ha hs h0, List.length_append,
    Nat.add_sub_cancel, List.length_replicate]
  exact replicate_append_dropWhile ds

end Radix

namespace Base58

open Radix

variable {d : Nat} {ds : List Nat}

theorem digitValue?_digit (h : d < 58) : digitValue? (digit d) = some d := by
  revert d
  decide

theorem isBlank_digit (h : d < 58) : Text.isBlank (digit d) = false := by
  revert d
  decide

theorem digit_eq_one_iff (h : d < 58) : digit d = '1' ↔ d = 0 := by
  revert d
  decide

theorem dropWhile_map_digit (hd : ∀ d ∈ ds, d < 58) :
    (ds.map digit).dropWhile (· = '1') = (ds.dropWhile (· = 0)).map digit := by
  induction ds with
  | nil => rfl
  | cons d ds ih =>
    obtain ⟨hd₀, hd⟩ := List.forall_mem_cons.1 hd
    simp only [List.map_cons, List.dropWhile_cons, digit_eq_one_iff hd₀, ih hd]
    split <;> rfl

theorem mapM_digitValue? (hd : ∀ d ∈ ds, d < 58) : (ds.map digit).mapM digitValue? = some ds := by
  induction ds with
  | nil => rfl
  | cons d ds ih =>
    obtain ⟨hd₀, hd⟩ := List.forall_mem_cons.1 hd
    rw [List.map_cons, List.mapM_cons, digitValue?_digit hd₀, ih hd]
    rfl

theorem encode_eq_map_digit (bs : Bytes) :
    encode bs = (recode 256 58 (bs.map UInt8.toNat)).map digit := by
  have hz : (fun d => decide (d = 0)) ∘ UInt8.toNat = fun b : UInt8 => decide (b = 0) := by
    funext b
    have hb : b.toNat = (0 : UInt8).toNat ↔ b = 0 := UInt8.toNat_inj
    exact decide_eq_decide.2 hb
  unfold encode recode
  rw [List.dropWhile_map, hz, List.map_append, List.map_replicate, List.length_map,
    List.length_map]
  rfl

theorem decode?_map_digit (hd : ∀ d ∈ ds, d < 58) :
    decode? (ds.map digit) = some ((recode 58 256 ds).map UInt8.ofNat) := by
  have hs : ∀ d ∈ ds.dropWhile (· = 0), d < 58 :=
    fun d h => hd d ((List.dropWhile_suffix _).subset h)
  rw [decode?, dropWhile_map_digit hd, mapM_digitValue? hs, recode, List.map_append,
    List.map_replicate, List.length_map, List.length_map]
  rfl

theorem decode?_encode (bs : Bytes) : decode? (encode bs) = some bs := by
  have hd : ∀ d ∈ bs.map UInt8.toNat, d < 256 := List.forall_mem_map.2 fun b _ => b.toNat_lt
  have hi : UInt8.ofNat ∘ UInt8.toNat = id := by
    funext b
    exact UInt8.ofNat_toNat
  rw [encode_eq_map_digit, decode?_map_digit fun d => lt_of_mem_recode (by decide),
    recode_recode (by decide) (by decide) hd, List.map_map, hi, List.map_id]

theorem trimEnd_encode (bs : Bytes) : Text.trimEnd (encode bs) = encode bs := by
  have hb : ∀ c ∈ encode bs, Text.isBlank c = false := by
    rw [encode_eq_map_digit, List.forall_mem_map]
    intro d hd
    apply isBlank_digit
    exact lt_of_mem_recode (by decide) hd
  have hr : (encode bs).reverse.dropWhile Text.isBlank = (encode bs).reverse := by
    cases h : (encode bs).reverse with
    | nil => rfl
    | cons c cs =>
      have hc : c ∈ encode bs := List.mem_reverse.1 (h ▸ .head _)
      rw [List.dropWhile_cons_of_neg (by simp [hb c hc])]
  unfold Text.trimEnd
  rw [hr, List.reverse_reverse]

end Base58

namespace PublicKey

theorem ofBase58_toBase58 (k : PublicKey) : ofBase58 (.str k.toBase58) = .ok k := by
  rw [ofBase58, toBase58, String.toList_ofList, Base58.trimEnd_encode, ofDigits,
    Base58.decode?_encode]
  show ofBytes k.bytes = .ok k
  unfold ofBytes
  rw [ofBytes?_bytes]
  rfl

end PublicKey
end SystemProgram
