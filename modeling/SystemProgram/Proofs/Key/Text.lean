import SystemProgram.Proofs.Key
import SystemProgram.Proofs.Wire.Skip
import Mathlib.Data.List.GetD
import Mathlib.Data.List.TakeWhile

namespace SystemProgram

namespace Base58

open Radix

theorem digit_of_digitValue? {c : Char} {d : Nat} (h : digitValue? c = some d) :
    d < 58 ∧ digit d = c := by
  obtain ⟨hd, hc⟩ := List.idxOf?_eq_some_iff.1 h
  have ha : alphabet.length = 58 := rfl
  refine ⟨by omega, ?_⟩
  rw [digit, List.getD_eq_getElem _ _ hd]
  simpa using hc.1

theorem map_digit_of_mapM {cs : List Char} {ds : List Nat} (h : cs.mapM digitValue? = some ds) :
    (∀ d ∈ ds, d < 58) ∧ ds.map digit = cs := by
  induction cs generalizing ds with
  | nil =>
    cases h
    exact ⟨by simp, rfl⟩
  | cons c cs ih =>
    rw [List.mapM_cons] at h
    obtain ⟨d, hd, h⟩ := Option.bind_eq_some_iff.1 h
    obtain ⟨ds', hds, h⟩ := Option.bind_eq_some_iff.1 h
    cases h
    obtain ⟨hlt, hc⟩ := digit_of_digitValue? hd
    obtain ⟨hall, hcs⟩ := ih hds
    exact ⟨List.forall_mem_cons.2 ⟨hlt, hall⟩, by rw [List.map_cons, hc, hcs]⟩

/-- All characters of a text that can be read are digits, the zeros in front included. -/
theorem exists_digits {cs : List Char} {bs : Bytes} (h : decode? cs = some bs) :
    ∃ ds : List Nat, (∀ d ∈ ds, d < 58) ∧ ds.map digit = cs := by
  obtain ⟨ds, hd, _⟩ := Option.bind_eq_some_iff.1 h
  obtain ⟨hlt, hm⟩ := map_digit_of_mapM hd
  let zeros := cs.takeWhile fun c => decide (c = '1')
  have hz : List.replicate zeros.length '1' = zeros := by
    symm
    apply List.eq_replicate_of_mem
    intro c hc
    simpa using List.mem_takeWhile_imp hc
  refine ⟨List.replicate zeros.length 0 ++ ds, ?_, ?_⟩
  · intro d hd
    rcases List.mem_append.1 hd with hd | hd
    · rw [List.eq_of_mem_replicate hd]
      decide
    · exact hlt d hd
  · rw [List.map_append, List.map_replicate, hm]
    change List.replicate zeros.length '1' ++ _ = cs
    rw [hz]
    exact List.takeWhile_append_dropWhile

/-- A text is that of the bytes that it is read as. -/
theorem encode_of_decode? {cs : List Char} {bs : Bytes} (h : decode? cs = some bs) :
    encode bs = cs := by
  obtain ⟨ds, hd, rfl⟩ := exists_digits h
  rw [decode?_map_digit hd] at h
  have hi : ∀ d ∈ recode 58 256 ds, (UInt8.toNat ∘ UInt8.ofNat) d = d := by
    intro d hr
    have hlt : d < 256 := lt_of_mem_recode (by decide) hr
    simpa using Nat.mod_eq_of_lt hlt
  rw [← Option.some.inj h, encode_eq_map_digit, List.map_map, List.map_congr_left hi,
    List.map_id', recode_recode (by decide) (by decide) hd]

end Base58

namespace PublicKey

variable {k : PublicKey} {t : String}

theorem toList_toBase58 (k : PublicKey) : k.toBase58.toList = Base58.encode k.bytes :=
  String.toList_ofList

/-- Reading a text either gives the key that has this text or finds that it is none. -/
theorem ofBase58_cases (t : String) :
    (∃ k, ofBase58 (.str t) = .ok k ∧ Text.trimEnd t.toList = k.toBase58.toList) ∨
      (ofBase58 (.str t)).Raises .invalidPublicKey := by
  rw [ofBase58, ofDigits]
  cases hd : Base58.decode? (Text.trimEnd t.toList) with
  | none => exact .inr ⟨_, rfl, rfl⟩
  | some bs =>
    change (∃ k, ofBytes bs = .ok k ∧ _) ∨ (ofBytes bs).Raises _
    rw [ofBytes]
    cases hk : ofBytes? bs with
    | none => exact .inr ⟨_, rfl, rfl⟩
    | some k =>
      refine .inl ⟨k, rfl, ?_⟩
      rw [toList_toBase58, bytes_of_ofBytes? hk, Base58.encode_of_decode? hd]

theorem ofBase58_eq_ok_iff :
    ofBase58 (.str t) = .ok k ↔ Text.trimEnd t.toList = k.toBase58.toList := by
  constructor
  · intro h
    rcases ofBase58_cases t with ⟨l, hl, ht⟩ | hr
    · rw [h] at hl
      rw [Except.ok.inj hl, ht]
    · exact absurd h (hr.ne_ok k)
  · intro h
    have hk := ofBase58_toBase58 k
    rw [ofBase58, toList_toBase58, Base58.trimEnd_encode] at hk
    have he : ofDigits (.str t) (Base58.encode k.bytes) =
        ofDigits (.str k.toBase58) (Base58.encode k.bytes) := by
      rw [ofDigits, ofDigits, Base58.decode?_encode]
      rfl
    rw [ofBase58, h, toList_toBase58, he, hk]

theorem ofBase58_broken (t : BrokenText) : (ofBase58 (.broken t)).Raises .invalidPublicKey :=
  ⟨_, rfl, rfl⟩

/-- Every key is read from its text. A text is read as a key exactly if, without the blanks at its
end, it is the text of that key, and any other is refused, as is any text with surrogates in it. So
texts of one key are the same up to these blanks. -/
theorem ofBase58_canonical :
    (∀ k : PublicKey, ofBase58 (.str k.toBase58) = .ok k) ∧
    (∀ (t : String) (k : PublicKey), ofBase58 (.str t) = .ok k ↔
      Text.trimEnd t.toList = k.toBase58.toList) ∧
    (∀ t : String, (∃ k : PublicKey, Text.trimEnd t.toList = k.toBase58.toList) ∨
      (ofBase58 (.str t)).Raises .invalidPublicKey) ∧
    (∀ t : BrokenText, (ofBase58 (.broken t)).Raises .invalidPublicKey) ∧
    ∀ (t u : String) (k : PublicKey), ofBase58 (.str t) = .ok k → ofBase58 (.str u) = .ok k →
      Text.trimEnd t.toList = Text.trimEnd u.toList := by
  refine ⟨ofBase58_toBase58, fun t k => ofBase58_eq_ok_iff, ?_, ofBase58_broken, ?_⟩
  · intro t
    rcases ofBase58_cases t with ⟨k, _, ht⟩ | hr
    · exact .inl ⟨k, ht⟩
    · exact .inr hr
  · intro t u k ht hu
    rw [ofBase58_eq_ok_iff.1 ht, ofBase58_eq_ok_iff.1 hu]

end PublicKey
end SystemProgram
