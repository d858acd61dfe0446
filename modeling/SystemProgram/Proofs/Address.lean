import SystemProgram.Address
import SystemProgram.Proofs.Wire.Skip

namespace SystemProgram

namespace Address

structure Origin where
  base : PublicKey
  seed : String
  owner : PublicKey
deriving DecidableEq, Repr

/-- The last 21 bytes of the owner are the marker. -/
def IsMarked (owner : PublicKey) : Prop :=
  owner.bytes.drop 11 = marker

theorem length_marker : marker.length = 21 := by
  decide +kernel

theorem isMarked_iff_suffix {owner : PublicKey} : IsMarked owner ↔ marker <:+ owner.bytes := by
  rw [List.suffix_iff_eq_drop, owner.size_eq, length_marker]
  exact eq_comm

namespace Origin

def address (o : Origin) : Outcome PublicKey :=
  create (.key o.base) (.str o.seed) (.key o.owner)

def bytes (o : Origin) : Bytes :=
  preimage o.base o.seed o.owner

structure IsAdmitted (o : Origin) : Prop where
  size_le : Utf8.size o.seed ≤ 32
  unmarked : ¬IsMarked o.owner

variable {o o' : Origin} {k : PublicKey}

theorem address_eq (o : Origin) :
    o.address =
      if 32 < Utf8.size o.seed then .error (.fault (.seedTooLong (Utf8.size o.seed) 32))
      else if marker.isSuffixOf o.owner.bytes then .error (.fault .illegalOwner)
      else .ok (derive o.base o.seed o.owner) :=
  rfl

/-- A seed that is too long is found first, whatever the owner is. -/
theorem address_cases (o : Origin) :
    (32 < Utf8.size o.seed ∧ o.address.Raises .maxSeedLengthExceeded) ∨
      (Utf8.size o.seed ≤ 32 ∧ IsMarked o.owner ∧ o.address.Raises .illegalOwner) ∨
      (o.IsAdmitted ∧ ∃ k, o.address = .ok k ∧ k.bytes = Sha256.digest o.bytes) := by
  rw [address_eq]
  by_cases hs : 32 < Utf8.size o.seed
  · rw [if_pos hs]
    exact .inl ⟨hs, _, rfl, rfl⟩
  · have hle : Utf8.size o.seed ≤ 32 := Nat.le_of_not_lt hs
    rw [if_neg hs]
    by_cases hm : IsMarked o.owner
    · rw [if_pos (List.isSuffixOf_iff_suffix.2 (isMarked_iff_suffix.1 hm))]
      exact .inr (.inl ⟨hle, hm, _, rfl, rfl⟩)
    · rw [if_neg (mt List.isSuffixOf_iff_suffix.1 (mt isMarked_iff_suffix.2 hm))]
      exact .inr (.inr ⟨⟨hle, hm⟩, _, rfl, rfl⟩)

theorem bytes_of_address (h : o.address = .ok k) : k.bytes = Sha256.digest o.bytes := by
  rcases o.address_cases with ⟨_, hr⟩ | ⟨_, _, hr⟩ | ⟨_, l, hl, hb⟩
  · exact absurd h (hr.ne_ok k)
  · exact absurd h (hr.ne_ok k)
  · rw [h] at hl
    rw [Except.ok.inj hl, hb]

theorem length_bytes (o : Origin) :
    o.bytes.length = keySize + Utf8.size o.seed + keySize := by
  rw [bytes, preimage, List.length_append, List.length_append, o.base.size_eq, o.owner.size_eq]
  rfl

theorem bytes_injective : Function.Injective bytes := by
  intro o o' h
  -- Only the seeds can differ in size, so equal sizes of the whole make theirs equal.
  have hs : (Utf8.encode o.seed).length = (Utf8.encode o'.seed).length := by
    have hl := congrArg List.length h
    rw [length_bytes, length_bytes] at hl
    exact Nat.add_left_cancel (Nat.add_right_cancel hl)
  have hb : o.base.bytes.length = o'.base.bytes.length := o.base.size_eq.trans o'.base.size_eq.symm
  unfold bytes preimage at h
  obtain ⟨hbs, ho⟩ := List.append_inj h (by rw [List.length_append, List.length_append, hb, hs])
  obtain ⟨hb, hs⟩ := List.append_inj hbs hb
  cases o
  cases o'
  rw [mk.injEq]
  exact ⟨PublicKey.ext hb, Utf8.encode_injective hs, PublicKey.ext ho⟩

/-- The owner stands at the end, and is longer than the marker. -/
theorem not_marker_suffix_bytes (h : o.IsAdmitted) : ¬marker <:+ o.bytes := by
  intro hm
  have ho : o.owner.bytes <:+ o.bytes := List.suffix_append ..
  have hl : marker.length ≤ o.owner.bytes.length := by
    rw [length_marker, o.owner.size_eq]
    decide
  exact h.unmarked (isMarked_iff_suffix.2 (List.suffix_of_suffix_length_le hm ho hl))

/-- A seed of more than 32 bytes is refused, and with any other a marked owner; all else has the
digest of base, seed and owner as its address. The hashed bytes belong to one origin only and do not
end with the marker, so two origins that share an address show a collision of the digest. A seed
without a UTF-8 form has no bytes to be hashed, and this is found before all else. -/
theorem address_separates :
    (∀ o : Origin,
      (o.address.Raises .maxSeedLengthExceeded ↔ 32 < Utf8.size o.seed) ∧
      (o.address.Raises .illegalOwner ↔ Utf8.size o.seed ≤ 32 ∧ IsMarked o.owner) ∧
      ((∃ k, o.address = .ok k) ↔ o.IsAdmitted) ∧
      ∀ k : PublicKey, o.address = .ok k →
        k.bytes = Sha256.digest (o.base.bytes ++ Utf8.encode o.seed ++ o.owner.bytes)) ∧
    (∀ o : Origin, o.IsAdmitted → ¬marker <:+ o.bytes) ∧
    (∀ o o' : Origin, o.bytes = o'.bytes → o = o') ∧
    (∀ (o o' : Origin) (k : PublicKey), o.address = .ok k → o'.address = .ok k → o ≠ o' →
      o.bytes ≠ o'.bytes ∧ Sha256.digest o.bytes = Sha256.digest o'.bytes) ∧
    ∀ (base owner : Value) (t : BrokenText),
      create base (.broken t) owner = .error .notEncodable := by
  refine ⟨fun o => ?_, fun o => not_marker_suffix_bytes, fun o o' h => bytes_injective h, ?_,
    fun base owner t => rfl⟩
  · rcases o.address_cases with ⟨hs, hr⟩ | ⟨hs, hm, hr⟩ | ⟨ha, l, hl, _⟩
    · refine ⟨iff_of_true hr hs, iff_of_false (fun h => nomatch hr.unique h) (by omega), ?_,
        fun k => bytes_of_address⟩
      exact iff_of_false (fun h => h.elim hr.ne_ok) fun h => absurd h.size_le (by omega)
    · refine ⟨iff_of_false (fun h => nomatch hr.unique h) (by omega), iff_of_true hr ⟨hs, hm⟩, ?_,
        fun k => bytes_of_address⟩
      exact iff_of_false (fun h => h.elim hr.ne_ok) fun h => h.unmarked hm
    · exact ⟨iff_of_false (fun h => h.ne_ok l hl) (by have := ha.size_le; omega),
        iff_of_false (fun h => h.ne_ok l hl) fun h => ha.unmarked h.2, iff_of_true ⟨l, hl⟩ ha,
        fun k => bytes_of_address⟩
  · intro o o' k h h' hne
    exact ⟨bytes_injective.ne hne, (bytes_of_address h).symm.trans (bytes_of_address h')⟩

/-- Sixteen letters of two bytes are short enough, seventeen are not. -/
example : Utf8.size "éééééééééééééééé" = 32 ∧ Utf8.size "ééééééééééééééééé" = 34 := by
  decide +kernel

end Origin

/-- A seed may also be half of a character. -/
theorem create_of_half :
    ¬∀ (base owner : PublicKey) (seed : Text),
      (create (.key base) (.ofText seed) (.key owner)).Raises .maxSeedLengthExceeded ∨
        (create (.key base) (.ofText seed) (.key owner)).Raises .illegalOwner ∨
        ∃ k, create (.key base) (.ofText seed) (.key owner) = .ok k := by
  intro h
  rcases h systemProgram systemProgram (.broken ⟨[], ⟨0⟩, []⟩) with ⟨_, h, _⟩ | ⟨_, h, _⟩ | ⟨_, h⟩
  · cases h
  · cases h
  · cases h

end Address
end SystemProgram
