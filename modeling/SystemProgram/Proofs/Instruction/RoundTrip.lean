import SystemProgram.Proofs.Instruction.Parse

namespace SystemProgram

namespace Params

variable {p q : Params} {ix : Instruction}

theorem names_payload (p : Params) : p.payload.names = p.tag.layout.names := by
  cases p <;> rfl

theorem build_eq_ok_iff :
    p.build = .ok ix ↔
      ix.programId = .key systemProgram ∧ ix.accounts = p.accounts ∧
        Payload.decode ix.data = .ok (p.tag, p.payload) := by
  unfold build
  rw [Outcome.bind_eq_ok_iff]
  constructor
  · intro h
    obtain ⟨bs, he, h⟩ := h
    cases h
    exact ⟨rfl, rfl, (Payload.encode_eq_ok_iff_decode p.names_payload).1 he⟩
  · obtain ⟨programId, accounts, data⟩ := ix
    intro h
    obtain ⟨rfl, rfl, hd⟩ := h
    exact ⟨data, (Payload.encode_eq_ok_iff_decode p.names_payload).2 hd, rfl⟩

/-- Building succeeds as soon as the values of the payload have spellings. -/
theorem build_of_spells {body : Bytes} (h : p.tag.layout.Spells p.payload body) :
    p.build = .ok ⟨.key systemProgram, p.accounts, Payload.header p.tag ++ body⟩ :=
  build_eq_ok_iff.2 ⟨rfl, rfl, Payload.decode_eq_ok_iff.2 ⟨body, h, rfl⟩⟩

theorem parse_of_build (h : p.build = .ok ix) : ix.parse = .ok p := by
  obtain ⟨hp, ha, hd⟩ := build_eq_ok_iff.1 h
  exact Instruction.parse_eq_ok_iff.2 ⟨hp, hd, .inl (congrArg (List.map _) ha)⟩

/-- Whatever values the parameters hold, they come back unchanged from the instruction that they
build, and the payload of this instruction has their tag. -/
theorem build_round_trip (h : p.build = .ok ix) : ix.parse = .ok p ∧ ix.tag = .ok p.tag := by
  obtain ⟨_, _, hd⟩ := build_eq_ok_iff.1 h
  refine ⟨parse_of_build h, ?_⟩
  unfold Instruction.tag
  rw [hd]
  rfl

/-- A new account with a seed of two-byte letters, paid by something that is no key, at both bounds
of the numbers. -/
theorem build_round_trip_at_bounds :
    ∃ ix, (createAccountWithSeed .null (.bool true) (.key rent) (.str "éß") (.int Wire.maxU64)
        (.int 0) (.key systemProgram)).build = .ok ix ∧
      ix.parse = .ok (createAccountWithSeed .null (.bool true) (.key rent) (.str "éß")
        (.int Wire.maxU64) (.int 0) (.key systemProgram)) ∧
      ix.tag = .ok .createAccountWithSeed := by
  have h := build_of_spells (p := createAccountWithSeed .null (.bool true) (.key rent) (.str "éß")
    (.int Wire.maxU64) (.int 0) (.key systemProgram))
    (.cons rfl (.cons rfl (.cons rfl (.cons rfl (.cons rfl .nil)))))
  exact ⟨_, h, build_round_trip h⟩

def IsTyped (p : Params) : Prop :=
  List.Forall₂ (fun f v => f.2.Admits v) p.tag.parameters p.values

theorem IsTyped.admits (h : p.IsTyped) :
    ∀ e ∈ p.fields, ∃ kind, (e.1, kind) ∈ p.tag.parameters ∧ kind.Admits e.2 := by
  intro e he
  obtain ⟨_, hz⟩ := List.forall₂_iff_zip.1 h
  rw [fields, Layout.names, List.zip_map_left] at he
  obtain ⟨⟨f, v⟩, hm, rfl⟩ := List.mem_map.1 he
  exact ⟨f.2, (List.of_mem_zip hm).1, hz hm⟩

/-- Each parameter goes into the payload or is an account, so all are of their kinds if those are
written and these are keys. -/
theorem isTyped_of_spells {body : Bytes} (hs : p.tag.layout.Spells p.payload body)
    (hk : ∀ v ∈ p.keys, ∃ k, v = .key k) : p.IsTyped := by
  have hp := hs.admits
  cases p
  -- Whether the base is an account depends on its value; in any case it is in the payload.
  case createAccountWithSeed source newAccount base seed lamports space owner =>
    have hs : ∃ k, source = .key k := hk _ (.head _)
    have hn : ∃ k, newAccount = .key k := hk _ (.tail _ (.head _))
    simp only [payload, tag, Tag.layout, List.forall₂_cons, FieldKind.Admits] at hp
    simp [IsTyped, values, tag, Tag.parameters, FieldKind.Admits, hs, hn, hp]
  all_goals
    simp only [keys, accounts, List.map_cons, List.forall_mem_cons, AccountMeta.pubkey_signer,
      AccountMeta.pubkey_writable] at hk
    simp only [payload, tag, Tag.layout, List.forall₂_cons, FieldKind.Admits] at hp
    simp [IsTyped, values, tag, Tag.parameters, FieldKind.Admits, hk, hp]

theorem keys_of_build (h : p.build = .ok ix) : ix.keys = p.keys := by
  obtain ⟨_, ha, _⟩ := build_eq_ok_iff.1 h
  unfold Instruction.keys keys
  rw [ha]

theorem isTyped_of_build (h : p.build = .ok ix) (hk : ∀ v ∈ ix.keys, ∃ k, v = .key k) :
    p.IsTyped := by
  obtain ⟨_, _, hd⟩ := build_eq_ok_iff.1 h
  obtain ⟨_, hs, _⟩ := Payload.decode_eq_ok_iff.1 hd
  exact isTyped_of_spells hs (keys_of_build h ▸ hk)

/-- All accounts are keys if the parameters that are to be keys are. -/
theorem keys_of_pubkeys
    (h : List.Forall₂ (fun f v => f.2 = FieldKind.pubkey → ∃ k, v = .key k) p.tag.parameters
      p.values) :
    ∀ v ∈ p.keys, ∃ k, v = .key k := by
  cases p
  case createAccountWithSeed source newAccount base seed lamports space owner =>
    simp only [values, tag, Tag.parameters, List.forall₂_cons] at h
    rw [keys_createAccountWithSeed]
    split <;> simp [h]
  all_goals
    simp only [values, tag, Tag.parameters, List.forall₂_cons] at h
    simp [keys, accounts, h]

theorem same_iff :
    p.same q = true ↔
      p.tag = q.tag ∧ List.Forall₂ (fun v w => v.same w = true) p.values q.values := by
  unfold same
  rw [Bool.and_eq_true, decide_eq_true_iff, Value.sameAll_iff]

theorem payload_same (h : p.same q = true) :
    List.Forall₂ (fun e f => e.1 = f.1 ∧ e.2.same f.2 = true) p.payload q.payload := by
  obtain ⟨ht, hv⟩ := same_iff.1 h
  cases p <;> cases q <;> cases ht
  all_goals
    simp only [values, List.forall₂_cons] at hv
    simp [payload, hv]

/-- The accounts of parameters that are the same are the same, once the base of a new account is
known to be a key. -/
theorem keys_same {body : Bytes} (hp : p.tag.layout.Spells p.payload body)
    (h : p.same q = true) : Value.sameAll p.keys q.keys = true := by
  obtain ⟨ht, hv⟩ := same_iff.1 h
  rw [Value.sameAll_iff]
  cases p <;> cases q <;> cases ht
  -- The base is listed on both sides or on neither.
  case createAccountWithSeed source newAccount base _ _ _ _ source' newAccount' base' _ _ _ _ =>
    simp only [values, List.forall₂_cons] at hv
    obtain ⟨hs, hn, hb, _⟩ := hv
    obtain ⟨k, rfl⟩ := hp.isKey_head
    obtain rfl := Value.key_same_iff.1 hb
    have he : (Value.key k).same source = (Value.key k).same source' := by
      rw [Bool.eq_iff_iff, Value.key_same_iff, Value.key_same_iff]
      constructor
      · intro h
        exact Value.key_same_iff.1 (h ▸ hs)
      · intro h
        exact Value.same_key_iff.1 (h ▸ hs)
    rw [keys_createAccountWithSeed, keys_createAccountWithSeed, he]
    split
    · simp [hs, hn]
    · simp [hs, hn, hb]
  all_goals
    simp only [values, List.forall₂_cons] at hv
    simp [keys, accounts, hv, Value.key_same_iff]

end Params

namespace Instruction

def hasRedundantBase (ix : Instruction) : Bool :=
  match Payload.decode ix.data, ix.keys with
  | .ok (.createAccountWithSeed, fs), [payer, _, signer] =>
    (fs.get? "base").any fun base => base.same payer && signer.same payer
  | _, _ => false

/-- The keys of the accounts, without a base that is listed twice. -/
def neededKeys (ix : Instruction) : List Value :=
  if ix.hasRedundantBase then ix.keys.take 2 else ix.keys

variable {p : Params} {ix : Instruction}

theorem neededKeys_of_parse (h : ix.parse = .ok p) : ix.neededKeys = p.keys := by
  obtain ⟨_, hd, hk⟩ := parse_eq_ok_iff.1 h
  obtain ⟨_, hs, _⟩ := Payload.decode_eq_ok_iff.1 hd
  unfold neededKeys
  obtain hk | ⟨payer, newAccount, seed, lamports, space, owner, rfl, hk⟩ := hk
  · have hr : ix.hasRedundantBase = false := by
      cases p with
      | createAccountWithSeed source newAccount base seed lamports space owner =>
        rw [Params.keys_createAccountWithSeed] at hk
        unfold hasRedundantBase
        rw [hd, hk]
        cases hb : base.same source with
        | true => rfl
        | false =>
          show (base.same source && base.same source) = false
          rw [hb, Bool.and_self]
      | _ =>
        unfold hasRedundantBase
        rw [hd]
        rfl
    rw [hr, hk]
    rfl
  · obtain ⟨k, rfl⟩ := hs.isKey_head
    have hb : (Value.key k).same (.key k) = true := Value.key_same_iff.2 rfl
    have hr : ix.hasRedundantBase = true := by
      unfold hasRedundantBase
      rw [hd, hk]
      show ((Value.key k).same (.key k) && (Value.key k).same (.key k)) = true
      rw [hb, Bool.and_self]
    rw [hr, hk, Params.keys_createAccountWithSeed, if_pos hb]
    rfl

/-- Building undoes parsing, up to the flags of the accounts, which parsing does not look at, and up
to a base that is listed twice. Instructions in which the same parameters are found differ in
nothing else. -/
theorem build_of_parse (h : ix.parse = .ok p) :
    (∃ jx, p.build = .ok jx ∧ jx.programId = ix.programId ∧ jx.data = ix.data ∧
      jx.keys = ix.neededKeys) ∧
    (∀ jx : Instruction, jx.parse = .ok p →
      jx.programId = ix.programId ∧ jx.data = ix.data ∧ jx.neededKeys = ix.neededKeys) ∧
    ∀ (jx : Instruction) (q : Params), jx.parse = .ok q → p.same q = true →
      jx.programId = ix.programId ∧ jx.data = ix.data ∧
        Value.sameAll ix.neededKeys jx.neededKeys = true := by
  have hx := neededKeys_of_parse h
  obtain ⟨hp, hd, _⟩ := parse_eq_ok_iff.1 h
  obtain ⟨_, hs, _⟩ := Payload.decode_eq_ok_iff.1 hd
  refine ⟨⟨⟨.key systemProgram, p.accounts, ix.data⟩, ?_, hp.symm, rfl, hx.symm⟩, ?_, ?_⟩
  · exact Params.build_eq_ok_iff.2 ⟨rfl, rfl, hd⟩
  · intro jx hj
    have hy := neededKeys_of_parse hj
    obtain ⟨hp', hd', _⟩ := parse_eq_ok_iff.1 hj
    have he : jx.data = ix.data := Payload.decode_injective hd' hd
    exact ⟨hp'.trans hp.symm, he, hy.trans hx.symm⟩
  · intro jx q hj hq
    have hy := neededKeys_of_parse hj
    obtain ⟨hp', hd', _⟩ := parse_eq_ok_iff.1 hj
    obtain ⟨_, hs', _⟩ := Payload.decode_eq_ok_iff.1 hd'
    have ht : p.tag = q.tag := (Params.same_iff.1 hq).1
    have hf : p.payload = q.payload :=
      Fields.eq_of_same (Params.payload_same hq) hs.isExact hs'.isExact
    rw [← ht, ← hf] at hd'
    have he : jx.data = ix.data := Payload.decode_injective hd' hd
    rw [hx, hy]
    exact ⟨hp'.trans hp.symm, he, Params.keys_same hs hq⟩

/-- A base that pays and is listed once more, without the flag of a signer; the new account is not
even a key. -/
theorem build_of_parse_redundant_base :
    ∃ (ix : Instruction) (p : Params) (base : Value), ix.parse = .ok p ∧
      ix.keys = [base, .null, base] ∧
      ∃ jx, p.build = .ok jx ∧ jx.data = ix.data ∧ jx.keys = [base, .null] := by
  have h := Params.build_of_spells (p := .createAccountWithSeed (.key rent) .null (.key rent)
    (.str "") (.int 1) (.int 2) (.key systemProgram))
    (.cons rfl (.cons rfl (.cons rfl (.cons rfl (.cons rfl .nil)))))
  obtain ⟨hp, _, hd⟩ := Params.build_eq_ok_iff.1 h
  let base := AccountMeta.readonly (.key rent)
  have hx : parse ⟨_, [base, .readonly .null, base], _⟩ = .ok _ :=
    parse_eq_ok_iff.2 ⟨hp, hd, .inr ⟨_, _, _, _, _, _, rfl, rfl⟩⟩
  obtain ⟨⟨jx, hb, _, hj, hk⟩, _⟩ := build_of_parse hx
  refine ⟨_, _, _, hx, rfl, jx, hb, hj, ?_⟩
  rw [hk, neededKeys_of_parse hx, Params.keys_createAccountWithSeed,
    if_pos (Value.key_same_iff.2 rfl)]
  rfl

end Instruction
end SystemProgram
