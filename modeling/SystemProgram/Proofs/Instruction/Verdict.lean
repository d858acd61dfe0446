import SystemProgram.Proofs.Instruction.Sheet
import SystemProgram.Proofs.Payload.Verdict

namespace SystemProgram

namespace Outcome

variable {α β : Type} {m : Outcome α} {f : α → Outcome β} {code : ErrorCode}

theorem Raises.bind (h : m.Raises code) : (m >>= f).Raises code := by
  obtain ⟨fault, rfl, hc⟩ := h
  exact ⟨fault, rfl, hc⟩

theorem exists_bind_eq_ok (hm : ∃ a, m = .ok a) (hf : ∀ a, ∃ b, f a = .ok b) :
    ∃ b, (m >>= f) = .ok b := by
  obtain ⟨a, rfl⟩ := hm
  exact hf a

theorem exists_bind_eq {m : Outcome Unit} {f : Unit → Outcome β} (hf : ∃ b, f () = .ok b) :
    ∃ b, (m >>= f) = (m >>= fun _ => .ok b) := by
  obtain ⟨b, hb⟩ := hf
  exact ⟨b, congrArg (m >>= ·) (funext fun _ => hb)⟩

/-- Checks one after the other: the first that fails ends the walk. -/
theorem forM_raises {l : List α} {f : α → Outcome PUnit}
    (h : ∀ a ∈ l, f a = .ok () ∨ (f a).Raises code) (hn : ∃ a ∈ l, f a ≠ .ok ()) :
    (l.forM f).Raises code := by
  induction l with
  | nil =>
    obtain ⟨_, ⟨⟩, _⟩ := hn
  | cons a l ih =>
    obtain ⟨ha, hl⟩ := List.forall_mem_cons.1 h
    change (f a >>= fun _ => l.forM f).Raises code
    rcases ha with ha | ha
    · rw [ha]
      apply ih hl
      obtain ⟨b, hb, hne⟩ := hn
      rcases List.mem_cons.1 hb with rfl | hb
      · exact absurd ha hne
      · exact ⟨b, hb, hne⟩
    · exact ha.bind

end Outcome

theorem Fields.exists_get {fs : Fields} {name : String} (h : name ∈ fs.names) :
    ∃ v, fs.get name = .ok v := by
  obtain ⟨f, hf, hn⟩ := List.mem_map.1 h
  have hs : (fs.find? fun f => f.1 = name).isSome :=
    List.find?_isSome.2 ⟨f, hf, decide_eq_true hn⟩
  obtain ⟨g, hg⟩ := Option.isSome_iff_exists.1 hs
  exact ⟨g.2, Outcome.ofOption_eq_ok_iff.2 (Option.map_eq_some_iff.2 ⟨g, hg, rfl⟩)⟩

def Sheet.sysvars (s : Sheet) : List (Nat × Sysvar) :=
  s.accounts.zipIdx.filterMap fun (r, i) =>
    match r.slot with
    | .sysvar s => some (i, s)
    | .param _ => none

/-- Where the base of the payload stands among so many accounts, if it has to be there. -/
def Tag.basePlace : Tag → Nat → Option Nat
  | .createAccountWithSeed, 2 => some 0
  | .createAccountWithSeed, 3 => some 2
  | .allocateWithSeed, _ => some 1
  | .assignWithSeed, _ => some 1
  | _, _ => none

structure AccountsFit (tag : Tag) (fs : Fields) (ks : List Value) : Prop where
  count : ks.length ∈ tag.accountCounts
  sysvars : ∀ e ∈ tag.sheet.sysvars, ks[e.1]? = some (.key e.2.key)
  base : ∀ i, tag.basePlace ks.length = some i → ks[i]? = fs.get? "base"

namespace Instruction

variable {ix : Instruction} {tag : Tag} {fs : Fields} {body : Bytes}

theorem sysvarPlaces_eq (tag : Tag) : sysvarPlaces tag = tag.sheet.sysvars := by
  cases tag <;> rfl

/-- Every place that is looked at is there, once there are as many accounts as there may be. -/
theorem sysvar_lt {n : Nat} (hn : n ∈ tag.accountCounts) {e : Nat × Sysvar}
    (he : e ∈ sysvarPlaces tag) : e.1 < n := by
  cases tag <;> simp [Tag.accountCounts, sysvarPlaces] at hn he <;> grind

theorem basePlace_lt {n i : Nat} (hn : n ∈ tag.accountCounts) (hi : tag.basePlace n = some i) :
    i < n := by
  cases tag <;> simp [Tag.accountCounts, Tag.basePlace] at hn hi <;> grind

theorem exists_keyAt {i : Nat} (h : i < ix.accounts.length) : ∃ v, ix.keyAt i = .ok v := by
  have hi : i < ix.keys.length := by rwa [length_keys]
  exact ⟨ix.keys[i], keyAt_eq_ok_iff.2 (List.getElem?_eq_getElem hi)⟩

theorem expectSysvar_raises {i : Nat} {s : Sysvar} (hi : i < ix.accounts.length)
    (h : ix.keys[i]? ≠ some (.key s.key)) : (ix.expectSysvar i s).Raises .invalidAccounts := by
  obtain ⟨v, hv⟩ := exists_keyAt hi
  have hn : v.same (.key s.key) = false := by
    rw [Bool.eq_false_iff]
    intro hs
    exact h (Value.same_key_iff.1 hs ▸ keyAt_eq_ok_iff.1 hv)
  refine ⟨.notSysvar s v, ?_, rfl⟩
  rw [expectSysvar, hv]
  exact if_neg (by simp [hn])

theorem expectBase_raises {k : PublicKey} {i : Nat} {fault : Fault} (hi : i < ix.accounts.length)
    (h : ix.keys[i]? ≠ some (.key k)) : ix.expectBase (.key k) i fault = .error (.fault fault) := by
  obtain ⟨v, hv⟩ := exists_keyAt hi
  have hn : (Value.key k).same v = false := by
    rw [Bool.eq_false_iff]
    intro hs
    exact h (Value.key_same_iff.1 hs ▸ keyAt_eq_ok_iff.1 hv)
  rw [expectBase, hv]
  exact if_neg (by simp [hn])

/-- Parsing sees the keys of the accounts only. -/
theorem parse_congr {jx : Instruction} (hp : jx.programId = ix.programId)
    (hd : jx.data = ix.data) (hk : jx.keys = ix.keys) : jx.parse = ix.parse := by
  have hq (fs : Fields) (tag : Tag) : jx.params fs tag = ix.params fs tag := by
    cases tag <;> simp only [params, expectBase, keyAt_eq, ← length_keys, hk]
  simp only [parse_eq, expectSysvar, keyAt_eq, ← length_keys, hp, hd, hk, hq]

/-- The base of a payload that has one is a key. -/
theorem exists_base_eq {l : Layout} (hl : tag.layout = ("base", .pubkey) :: l)
    (hf : tag.layout.Spells fs body) :
    ∃ k, fs.get "base" = .ok (.key k) ∧ fs.get? "base" = some (.key k) := by
  rw [hl] at hf
  obtain ⟨_, _, _, _, rfl, _, _, _⟩ := id hf
  obtain ⟨k, rfl⟩ := hf.isKey_head
  exact ⟨k, rfl, rfl⟩

/-- Where the base has to be listed, it is looked for, and all else is found. -/
theorem params_eq_check (hf : tag.layout.Spells fs body)
    (hc : ix.accounts.length ∈ tag.accountCounts) :
    ∃ check : Outcome Unit,
      (match tag.basePlace ix.accounts.length with
        | none => check = .ok ()
        | some i => ∃ k fault, fs.get? "base" = some (.key k) ∧ fault.code = .invalidAccounts ∧
            check = ix.expectBase (.key k) i fault) ∧
      ∃ p, ix.params fs tag = (check >>= fun _ => .ok p) := by
  have hk (i : Nat) (hi : i < ix.accounts.length) := exists_keyAt hi
  have hg (name : String) (h : name ∈ tag.layout.names) := Fields.exists_get (hf.names_eq ▸ h)
  cases tag
  case' createAccountWithSeed =>
    obtain ⟨k, hv, hb⟩ := exists_base_eq rfl hf
    simp only [Tag.accountCounts, List.mem_cons, List.not_mem_nil, or_false] at hc
    rcases hc with hc | hc
    all_goals rw [params, hv, hc]
    case' inl => refine ⟨_, ⟨k, .baseMissing, hb, rfl, rfl⟩, Outcome.exists_bind_eq ?_⟩
    case' inr => refine ⟨_, ⟨k, .baseMismatch, hb, rfl, rfl⟩, Outcome.exists_bind_eq ?_⟩
  case' allocateWithSeed | assignWithSeed =>
    obtain ⟨k, hv, hb⟩ := exists_base_eq rfl hf
    simp only [Tag.accountCounts, List.mem_singleton] at hc
    rw [params, hv]
    refine ⟨_, ⟨k, .baseMismatch, hb, rfl, rfl⟩, Outcome.exists_bind_eq ?_⟩
  -- No other instruction has a base to compare.
  any_goals
    simp only [Tag.accountCounts, List.mem_singleton] at hc
    refine ⟨.ok (), rfl, ?_⟩
  all_goals
    repeat
      refine Outcome.exists_bind_eq_ok ?_ fun _ => ?_
      · first | exact hk _ (by omega) | exact hg _ (by decide)
    exact ⟨_, rfl⟩

/-- Once there are as many accounts as there may be, the base alone decides. -/
theorem params_verdict (hf : tag.layout.Spells fs body)
    (hc : ix.accounts.length ∈ tag.accountCounts) :
    (∀ i, tag.basePlace ix.accounts.length = some i → ix.keys[i]? = fs.get? "base") ∧
        (∃ p, ix.params fs tag = .ok p) ∨
      (∃ i, tag.basePlace ix.accounts.length = some i ∧ ix.keys[i]? ≠ fs.get? "base") ∧
        (ix.params fs tag).Raises .invalidAccounts := by
  obtain ⟨check, h, p, hp⟩ := params_eq_check hf hc
  cases hi : tag.basePlace ix.accounts.length with
  | none =>
    rw [hi] at h
    refine .inl ⟨fun _ => nofun, p, ?_⟩
    rw [hp, h]
    rfl
  | some i =>
    rw [hi] at h
    obtain ⟨k, fault, hb, hcode, rfl⟩ := h
    rw [hb, hp]
    by_cases hk : ix.keys[i]? = some (.key k)
    · refine .inl ⟨fun j hj => Option.some.inj hj ▸ hk, p, ?_⟩
      rw [expectBase_eq_ok_iff.2 hk]
      rfl
    · refine .inr ⟨⟨i, rfl, hk⟩, ⟨fault, ?_, hcode⟩⟩
      rw [expectBase_raises (basePlace_lt hc hi) hk]
      rfl

/-- After the payload, the accounts decide. -/
theorem parse_of_decode (hp : ix.programId = .key systemProgram)
    (hd : Payload.decode ix.data = .ok (tag, fs)) :
    ¬AccountsFit tag fs ix.keys ∧ ix.parse.Raises .invalidAccounts ∨
      AccountsFit tag fs ix.keys ∧ ∃ p, ix.parse = .ok p := by
  obtain ⟨body, hf, _⟩ := Payload.decode_eq_ok_iff.1 hd
  rw [parse_eq, hp, hd, if_pos (Value.same_key_iff.2 rfl)]
  dsimp only
  by_cases hc : ix.accounts.length ∈ tag.accountCounts
  · rw [if_pos (List.contains_iff_mem.2 hc)]
    by_cases hs : ∀ e ∈ sysvarPlaces tag, ix.keys[e.1]? = some (.key e.2.key)
    · rw [Outcome.forM_eq_ok_iff.2 fun e he => expectSysvar_eq_ok_iff.2 (hs e he)]
      change _ ∧ (ix.params fs tag).Raises _ ∨ _ ∧ ∃ p, ix.params fs tag = .ok p
      rcases params_verdict hf hc with ⟨hb, h⟩ | ⟨⟨i, hi, hne⟩, h⟩
      · refine .inr ⟨⟨?_, ?_, ?_⟩, h⟩
        · rwa [length_keys]
        · rwa [← sysvarPlaces_eq]
        · rwa [length_keys]
      · refine .inl ⟨fun ha => hne (ha.base i ?_), h⟩
        rwa [length_keys]
    · refine .inl ⟨fun ha => hs (sysvarPlaces_eq tag ▸ ha.sysvars), Outcome.Raises.bind ?_⟩
      apply Outcome.forM_raises
      · intro e he
        by_cases hk : ix.keys[e.1]? = some (.key e.2.key)
        · exact .inl (expectSysvar_eq_ok_iff.2 hk)
        · exact .inr (expectSysvar_raises (sysvar_lt hc he) hk)
      · push Not at hs
        obtain ⟨e, he, hne⟩ := hs
        exact ⟨e, he, mt expectSysvar_eq_ok_iff.1 hne⟩
  · rw [if_neg (mt List.contains_iff_mem.1 hc)]
    exact .inl ⟨fun ha => hc (length_keys ix ▸ ha.count), _, rfl, rfl⟩

/-- Parsing gives parameters or a fault. The program comes first, then the payload, whose fault is
passed on and has a code of its own, then the accounts; the flags of these play no part. -/
theorem parse_verdict (ix : Instruction) :
    (ix.programId ≠ .key systemProgram ∧ ix.parse.Raises .invalidProgramId ∨
      ix.programId = .key systemProgram ∧
        ((∃ fault, fault.code ∈ Payload.flaws ∧ Payload.decode ix.data = .error (.fault fault) ∧
            ix.parse = .error (.fault fault)) ∨
          ∃ tag fs, Payload.decode ix.data = .ok (tag, fs) ∧
            (¬AccountsFit tag fs ix.keys ∧ ix.parse.Raises .invalidAccounts ∨
              AccountsFit tag fs ix.keys ∧ ∃ p, ix.parse = .ok p))) ∧
      ∀ jx : Instruction, jx.programId = ix.programId → jx.data = ix.data → jx.keys = ix.keys →
        jx.parse = ix.parse := by
  refine ⟨?_, fun jx => parse_congr⟩
  by_cases hp : ix.programId = .key systemProgram
  · refine .inr ⟨hp, ?_⟩
    rcases Payload.decode_total ix.data with ⟨tag, fs, hd⟩ | ⟨_, hc, fault, hd, rfl⟩
    · exact .inr ⟨tag, fs, hd, parse_of_decode hp hd⟩
    · refine .inl ⟨fault, hc, hd, ?_⟩
      rw [parse_eq, hp, hd, if_pos (Value.same_key_iff.2 rfl)]
  · refine .inl ⟨hp, .foreignProgram ix.programId, ?_, rfl⟩
    rw [parse_eq, if_neg (mt Value.same_key_iff.1 hp)]

end Instruction
end SystemProgram
