import SystemProgram.Proofs.Fixture.Course
import SystemProgram.Proofs.Fixture.Vector
import SystemProgram.Proofs.Instruction.Build
import SystemProgram.Proofs.Instruction.Verdict
import SystemProgram.Proofs.Key.Text

namespace SystemProgram

namespace Outcome

variable {α β : Type} {m : Outcome α} {f : α → Outcome β}

def Settles (m : Outcome α) : Prop :=
  (∃ a, m = .ok a) ∨ ∃ fault, m = .error (.fault fault)

theorem settles_ok (a : α) : Settles (.ok a) :=
  .inl ⟨a, rfl⟩

theorem Raises.settles {code : ErrorCode} (h : m.Raises code) : m.Settles := by
  obtain ⟨fault, h, _⟩ := h
  exact .inr ⟨fault, h⟩

theorem Settles.bind (hm : m.Settles) (hf : ∀ a, m = .ok a → (f a).Settles) :
    (m >>= f).Settles := by
  rcases hm with ⟨a, rfl⟩ | ⟨fault, rfl⟩
  · exact hf a rfl
  · exact .inr ⟨fault, rfl⟩

theorem settles_mapM {xs : List α} (h : ∀ x ∈ xs, (f x).Settles) : (xs.mapM f).Settles := by
  induction xs with
  | nil => exact settles_ok []
  | cons x xs ih =>
    obtain ⟨hx, hxs⟩ := List.forall_mem_cons.1 h
    rw [List.mapM_cons]
    exact hx.bind fun y _ => (ih hxs).bind fun ys _ => settles_ok (y :: ys)

end Outcome

/-- Parsing ends with parameters or with a fault. -/
theorem Instruction.parse_settles (ix : Instruction) : ix.parse.Settles := by
  by_cases hp : ix.programId = .key systemProgram
  · rcases Payload.decode_total ix.data with ⟨tag, fs, hd⟩ | ⟨_, _, fault, hd, _⟩
    · rcases parse_of_decode hp hd with ⟨_, h⟩ | ⟨_, h⟩
      · exact h.settles
      · exact .inl h
    · refine .inr ⟨fault, ?_⟩
      rw [parse_eq, hp, hd, if_pos (Value.same_key_iff.2 rfl)]
  · refine .inr ⟨.foreignProgram ix.programId, ?_⟩
    rw [parse_eq, if_neg (mt Value.same_key_iff.1 hp)]

/-- What is recorded for a field of the kind: a number or a text, whatever it says. -/
def FieldKind.IsWrittenAs : FieldKind → Value → Prop
  | .u64, w => ∃ i, w = .int i
  | .pubkey, w | .string, w => ∃ t, w = .ofText t

/-- As many values as an instruction takes are its parameters. -/
theorem Params.exists_of_length {tag : Tag} {vs : List Value}
    (h : vs.length = tag.parameters.length) : ∃ p : Params, p.tag = tag ∧ p.values = vs := by
  suffices hs : (ofValues? tag vs).isSome by
    obtain ⟨p, hp⟩ := Option.isSome_iff_exists.1 hs
    exact ⟨p, ofValues?_eq_some_iff.1 hp⟩
  cases tag
  all_goals
    repeat
      obtain ⟨_, vs, rfl⟩ := List.exists_of_length_succ vs h
      replace h := Nat.succ.inj h
    obtain rfl := List.eq_nil_of_length_eq_zero h
    rfl

namespace Fixture

variable {l : Layout} {kind : FieldKind} {tag : Tag} {p : Params} {ix : Instruction}
  {vec doc expected v w : Value}

/-- The parameters of an instruction, each of its kind. Other names may stand beside them. -/
structure ParamsShape (tag : Tag) (doc : Value) : Prop where
  instruction : ∃ s, field "instruction" doc = .ok (.str s) ∧ tagOf (.str s) = .ok tag
  fields : ∀ f ∈ tag.parameters, ∃ w, field f.1 doc = .ok w ∧ f.2.IsWrittenAs w

structure AccountShape (doc : Value) : Prop where
  pubkey : ∃ t, field "pubkey" doc = .ok (.ofText t)
  isSigner : ∃ b, field "is_signer" doc = .ok (.bool b)
  isWritable : ∃ b, field "is_writable" doc = .ok (.bool b)

structure InstructionShape (doc : Value) : Prop where
  programId : ∃ t, field "program_id" doc = .ok (.ofText t)
  accounts : ∃ docs, field "accounts" doc = .ok (.list docs) ∧ ∀ d ∈ docs, AccountShape d
  data : ∃ t, field "data" doc = .ok (.ofText t)

/-- A vector with the parameters `doc` and the instruction `expected`. Its name, if it has one, can
be written. -/
structure VectorShape (tag : Tag) (doc expected vec : Value) : Prop where
  name : ∀ v, field "name" vec = .ok v → v.isShowable = true
  field_params : field "params" vec = .ok doc
  field_expected : field "expected" vec = .ok expected
  params : ParamsShape tag doc
  instruction : InstructionShape expected

def IsKey (w : Value) : Prop :=
  ∃ k, PublicKey.ofBase58 w = .ok k

def KeysAreKeys (l : Layout) (doc : Value) : Prop :=
  ∀ f ∈ l, f.2 = .pubkey → ∀ w, field f.1 doc = .ok w → IsKey w

def OthersFit (l : Layout) (doc : Value) : Prop :=
  ∀ f ∈ l, f.2 ≠ .pubkey → ∀ w, field f.1 doc = .ok w → f.2.Holds w

def TextsAreEncodable (l : Layout) (doc : Value) : Prop :=
  ∀ f ∈ l, f.2 = .string → ∀ w, field f.1 doc = .ok w → ∀ t, w ≠ .broken t

/-- The data of the instruction is hexadecimal, unless its program or an account is no key. -/
def DataIsHex (expected : Value) : Prop :=
  (∀ w, field "program_id" expected = .ok w → IsKey w) →
    (∀ docs, field "accounts" expected = .ok (.list docs) →
      ∀ d ∈ docs, ∀ w, field "pubkey" d = .ok w → IsKey w) →
    ∃ bs, (field "data" expected >>= hexBytes) = .ok bs

theorem isKey_or_raises (t : Text) :
    IsKey (.ofText t) ∨
      ¬IsKey (.ofText t) ∧ (PublicKey.ofBase58 (.ofText t)).Raises .invalidPublicKey := by
  have h : IsKey (.ofText t) ∨ (PublicKey.ofBase58 (.ofText t)).Raises .invalidPublicKey := by
    cases t with
    | whole cs => exact (PublicKey.ofBase58_cases _).imp_left fun ⟨k, hk, _⟩ => ⟨k, hk⟩
    | broken t => exact .inr (PublicKey.ofBase58_broken t)
  refine h.imp_right fun hr => ⟨fun hk => ?_, hr⟩
  obtain ⟨k, hk⟩ := hk
  exact hr.ne_ok k hk

theorem ofBase58_settles (t : Text) : (PublicKey.ofBase58 (.ofText t)).Settles := by
  rcases isKey_or_raises t with hk | ⟨_, hr⟩
  · exact .inl hk
  · exact hr.settles

theorem load_cases (h : kind.IsWrittenAs w) :
    (kind = .pubkey → IsKey w) ∧ (∃ v, load kind w = .ok v) ∨
      (kind = .pubkey ∧ ¬IsKey w) ∧ (load kind w).Raises .invalidPublicKey := by
  cases kind with
  | u64 =>
    obtain ⟨i, rfl⟩ := h
    exact .inl ⟨nofun, _, rfl⟩
  | pubkey =>
    obtain ⟨t, rfl⟩ := h
    rcases isKey_or_raises t with ⟨k, hk⟩ | ⟨hn, hr⟩
    · exact .inl ⟨fun _ => ⟨k, hk⟩, .key k, by rw [load, hk]; rfl⟩
    · exact .inr ⟨⟨rfl, hn⟩, hr.bind⟩
  | string => exact .inl ⟨nofun, w, rfl⟩

/-- Numbers and texts are taken as they are. -/
theorem eq_of_load (h : kind.IsWrittenAs w) (hk : kind ≠ .pubkey) (hl : load kind w = .ok v) :
    v = w := by
  cases kind with
  | u64 =>
    obtain ⟨i, rfl⟩ := h
    exact (Except.ok.inj hl).symm
  | pubkey => exact absurd rfl hk
  | string => exact (Except.ok.inj hl).symm

theorem loadFields_cases (h : ∀ f ∈ l, ∃ w, field f.1 doc = .ok w ∧ f.2.IsWrittenAs w) :
    KeysAreKeys l doc ∧ (∃ vs, loadFields doc l = .ok vs) ∨
      ¬KeysAreKeys l doc ∧ (loadFields doc l).Raises .invalidPublicKey := by
  induction l with
  | nil => exact .inl ⟨List.forall_mem_nil _, [], rfl⟩
  | cons f l ih =>
    obtain ⟨name, kind⟩ := f
    obtain ⟨⟨w, hw, hf⟩, h⟩ := List.forall_mem_cons.1 h
    have hk : KeysAreKeys ((name, kind) :: l) doc ↔ (kind = .pubkey → IsKey w) ∧
        KeysAreKeys l doc := by
      rw [KeysAreKeys, List.forall_mem_cons, hw]
      simp [KeysAreKeys]
    rw [hk, loadFields, hw]
    change _ ∧ (∃ vs, (load kind w >>= _) = .ok vs) ∨ _ ∧ (load kind w >>= _).Raises _
    rcases load_cases hf with ⟨hk, v, hv⟩ | ⟨⟨rfl, hn⟩, hr⟩
    · rw [hv]
      change _ ∧ (∃ vs, (loadFields doc l >>= _) = .ok vs) ∨ _ ∧ (loadFields doc l >>= _).Raises _
      rcases ih h with ⟨hl, vs, hvs⟩ | ⟨hl, hr⟩
      · exact .inl ⟨⟨hk, hl⟩, v :: vs, by rw [hvs]; rfl⟩
      · exact .inr ⟨fun h => hl h.2, hr.bind⟩
    · exact .inr ⟨fun h => hn (h.1 rfl), hr.bind⟩

theorem params_cases (h : ParamsShape tag doc) :
    KeysAreKeys tag.parameters doc ∧ (∃ p, params doc = .ok p ∧ p.tag = tag) ∨
      ¬KeysAreKeys tag.parameters doc ∧ (params doc).Raises .invalidPublicKey := by
  obtain ⟨s, hs, ht⟩ := h.instruction
  have hp : params doc = loadFields doc tag.parameters >>= Params.ofValues tag := by
    rw [params, hs]
    change (tagOf (.str s) >>= _) = _
    rw [ht]
    rfl
  rw [hp]
  rcases loadFields_cases h.fields with ⟨hk, vs, hv⟩ | ⟨hk, hr⟩
  · have hl := (loadFields_eq_ok_iff.1 hv).length_eq
    obtain ⟨p, rfl, rfl⟩ := Params.exists_of_length hl.symm
    refine .inl ⟨hk, p, ?_, rfl⟩
    rw [hv]
    exact Outcome.ofOption_eq_ok_iff.2 p.ofValues?_values
  · exact .inr ⟨hk, hr.bind⟩

theorem build_of_params (h : ParamsShape p.tag doc) (hp : params doc = .ok p) :
    OthersFit p.tag.parameters doc ∧ (∃ ix, p.build = .ok ix) ∨
      ∃ f ∈ p.tag.parameters, f.2 ≠ .pubkey ∧ ∃ w, field f.1 doc = .ok w ∧ ¬f.2.Holds w ∧
        p.build = .error (f.2.refusal w) := by
  have hv : ∀ f ∈ p.tag.parameters, ∃ v, p.fields.get? f.1 = some v ∧ ∃ w,
      field f.1 doc = .ok w ∧ load f.2 w = .ok v := Params.exists_get? (params_eq_ok_iff.1 hp).2
  have he : ∀ f ∈ p.tag.parameters, f.2 ≠ .pubkey → ∀ w, field f.1 doc = .ok w →
      p.fields.get? f.1 = some w := by
    intro f hf hk w hw
    obtain ⟨v, hg, _, hw', hl⟩ := hv f hf
    obtain rfl := Except.ok.inj (hw.symm.trans hw')
    obtain ⟨_, hw', hs⟩ := h.fields f hf
    obtain rfl := Except.ok.inj (hw.symm.trans hw')
    rw [hg, eq_of_load hs hk hl]
  rcases p.build_cases with ⟨hb, hr⟩ | ⟨_, r, _, v, hl, _, hg, hn, hb⟩
  · refine .inl ⟨fun f hf hk w hw => ?_, hb⟩
    obtain ⟨v, hg, hv⟩ := hr _ (Params.mem_sheet_of_mem_parameters _ f hf hk)
    rw [he f hf hk w hw] at hg
    exact Option.some.inj hg ▸ hv
  · have hr : r ∈ p.tag.sheet.fields := hl ▸ List.mem_append_right _ (.head _)
    have hf := Params.mem_parameters_of_mem_sheet _ r hr
    obtain ⟨v', hg', w, hw, hl⟩ := hv _ hf
    obtain rfl := Option.some.inj (hg.symm.trans hg')
    -- What has been loaded as a key is one, and any field can hold it.
    have hk : r.kind ≠ .pubkey := by
      intro hk
      refine hn ?_
      rw [hk] at hl ⊢
      exact keeps_of_load hl nofun
    have hvw := he _ hf hk w hw
    obtain rfl := Option.some.inj (hg.symm.trans hvw)
    exact .inr ⟨_, hf, hk, v, hw, hn, hb⟩

theorem account_settles (h : AccountShape doc) : (account doc).Settles := by
  obtain ⟨t, ht⟩ := h.pubkey
  obtain ⟨b, hb⟩ := h.isSigner
  obtain ⟨c, hc⟩ := h.isWritable
  rw [account, ht, hb, hc]
  change (PublicKey.ofBase58 (.ofText t) >>= fun k => .ok _).Settles
  exact (ofBase58_settles t).bind fun _ _ => Outcome.settles_ok _

theorem isKey_of_account {a : AccountMeta} (h : account doc = .ok a)
    (hw : field "pubkey" doc = .ok w) : IsKey w := by
  simp only [account, Outcome.bind_eq_ok_iff] at h
  obtain ⟨w', hw', k, hk, _⟩ := h
  obtain rfl := Except.ok.inj (hw.symm.trans hw')
  exact ⟨k, hk⟩

/-- A recorded instruction is read, or some key in it is none. -/
theorem instruction_settles (h : InstructionShape doc) (hx : DataIsHex doc) :
    (instruction doc).Settles := by
  obtain ⟨t, ht⟩ := h.programId
  obtain ⟨docs, hd, ha⟩ := h.accounts
  rw [instruction, ht, hd]
  change (PublicKey.ofBase58 (.ofText t) >>= fun k => docs.mapM account >>= _).Settles
  have hm : (docs.mapM account).Settles :=
    Outcome.settles_mapM fun d hm => account_settles (ha d hm)
  refine (ofBase58_settles t).bind fun k hk => hm.bind fun as has => ?_
  -- All keys have been read, so the data is looked at.
  have hp : ∀ w, field "program_id" doc = .ok w → IsKey w := by
    intro w hw
    rw [Except.ok.inj (hw.symm.trans ht)]
    exact ⟨k, hk⟩
  have hf := (Outcome.mapM_eq_ok_iff.1 has).imp fun d a h => And.intro (Exists.intro a h) h
  have hks : ∀ docs', field "accounts" doc = .ok (.list docs') → ∀ d ∈ docs', ∀ w,
      field "pubkey" d = .ok w → IsKey w := by
    intro docs' hd' d hm w hw
    obtain rfl := Value.list.inj (Except.ok.inj (hd.symm.trans hd'))
    obtain ⟨a, ha⟩ := ((List.forall₂_and_left _ _).1 hf).1 d hm
    exact isKey_of_account ha hw
  obtain ⟨bs, hbs⟩ := hx hp hks
  obtain ⟨x, hx, hbs⟩ := Outcome.bind_eq_ok_iff.1 hbs
  rw [hx]
  change (hexBytes x >>= _).Settles
  rw [hbs]
  exact Outcome.settles_ok _

theorem exists_report {name : Value} (h : name.isShowable = true) (what : Text) :
    ∃ r, report name what = .ok r :=
  ⟨_, if_pos h⟩

theorem exists_compareField {name a b : Value} {part : String} (hn : name.isShowable = true)
    (ha : field part v = .ok a) (hb : field part w = .ok b) :
    ∃ reports, compareField name v w part = .ok reports := by
  simp only [compareField, Outcome.bind_eq_ok_iff]
  obtain ⟨r, hr⟩ := exists_report hn (part ++ "_mismatch")
  by_cases hs : a.same b = true
  · exact ⟨[], a, ha, b, hb, if_pos hs⟩
  · refine ⟨[r], a, ha, b, hb, ?_⟩
    rw [if_neg hs, hr]
    rfl

theorem exists_compareParsed {name : Value} (hn : name.isShowable = true)
    (h : (instruction expected).Settles) :
    ∃ reports, compareParsed name expected p = .ok reports := by
  have hs := h.bind fun ix _ => ix.parse_settles
  unfold compareParsed
  rcases hs with ⟨q, hq⟩ | ⟨fault, hf⟩
  · obtain ⟨r, hr⟩ := exists_report hn "parse_mismatch"
    rw [hq, hr]
    dsimp only
    split
    · exact ⟨_, rfl⟩
    · exact ⟨_, rfl⟩
  · obtain ⟨r, hr⟩ := exists_report hn ("parse_failed (" ++ fault.toSpecError.text ++ ")")
    refine ⟨[r], ?_⟩
    rw [hf]
    change (report name _ >>= fun r => .ok [r]) = _
    rw [hr]
    rfl

namespace VectorShape

/-- Whatever stands in for a name that is missing, the name can be written. -/
theorem isShowable_name {es : List (Value × Value)} (h : VectorShape tag doc expected (.map es))
    {default : Value} (hd : default.isShowable = true) :
    ((Value.find? "name" es).getD default).isShowable = true := by
  cases hf : Value.find? "name" es with
  | none => exact hd
  | some v => exact h.name v (Outcome.ofOption_eq_ok_iff.2 hf)

variable (h : VectorShape tag doc expected vec)
include h

theorem exists_name : ∃ name, vectorName vec = .ok name ∧ name.isShowable = true := by
  cases vec with
  | map es => exact ⟨_, rfl, h.isShowable_name rfl⟩
  | _ => cases h.field_params

theorem isShowable_loggedName : (loggedName vec).isShowable = true := by
  cases vec with
  | map es => exact h.isShowable_name rfl
  | _ => rfl

theorem rebuild_cases :
    ¬KeysAreKeys tag.parameters doc ∧ (rebuild vec).Raises .invalidPublicKey ∨
      KeysAreKeys tag.parameters doc ∧
        (OthersFit tag.parameters doc ∧ (∃ p ix, rebuild vec = .ok (p, ix)) ∨
          ∃ f ∈ tag.parameters, f.2 ≠ .pubkey ∧ ∃ w, field f.1 doc = .ok w ∧ ¬f.2.Holds w ∧
            rebuild vec = .error (f.2.refusal w)) := by
  have hd : rebuild vec = Fixture.params doc >>= fun p => p.build >>= fun ix => .ok (p, ix) := by
    rw [rebuild, h.field_params]
    rfl
  rw [hd]
  rcases params_cases h.params with ⟨hk, p, hp, rfl⟩ | ⟨hk, hr⟩
  · have hq : (Fixture.params doc >>= fun p => p.build >>= fun ix => .ok (p, ix)) =
        p.build >>= fun ix => .ok (p, ix) := by
      rw [hp]
      rfl
    rw [hq]
    rcases build_of_params h.params hp with ⟨hf, ix, hb⟩ | ⟨f, hf, hn, w, hw, hh, hb⟩
    · exact .inr ⟨hk, .inl ⟨hf, p, ix, by rw [hb]; rfl⟩⟩
    · exact .inr ⟨hk, .inr ⟨f, hf, hn, w, hw, hh, by rw [hb]; rfl⟩⟩
  · exact .inl ⟨hk, hr.bind⟩

theorem exists_checkVector (hr : rebuild vec = .ok (p, ix)) (hx : DataIsHex expected) :
    ∃ reports, checkVector vec = .ok reports := by
  obtain ⟨doc', _, hl, hb⟩ := rebuild_eq_ok_iff.1 hr
  have hk : ∀ v ∈ ix.keys, ∃ k, v = .key k := Params.keys_of_build hb ▸ keys_of_params hl
  obtain ⟨built, hi⟩ := exists_ofInstruction (Params.build_eq_ok_iff.1 hb).1 hk
  obtain ⟨k, docs, _, _, rfl⟩ := ofInstruction_eq_ok_iff.1 hi
  obtain ⟨name, hv, hn⟩ := h.exists_name
  obtain ⟨s, hs⟩ := h.instruction.programId
  obtain ⟨docs', hd, _⟩ := h.instruction.accounts
  obtain ⟨t, ht⟩ := h.instruction.data
  obtain ⟨xs, hxs⟩ := exists_compareField hn field_programId hs
  obtain ⟨ys, hys⟩ := exists_compareField hn field_accounts hd
  obtain ⟨zs, hzs⟩ := exists_compareField hn field_data ht
  obtain ⟨ps, hps⟩ := exists_compareParsed (p := p) hn (instruction_settles h.instruction hx)
  exact ⟨_, (checkVector_eq_ok_iff hr hi).2
    ⟨name, expected, xs, ys, zs, ps, hv, h.field_expected, hxs, hys, hzs, hps, rfl⟩⟩

theorem checkVector_of_raises {code : ErrorCode} (hr : (rebuild vec).Raises code) :
    ∃ (name : Value) (fault : Fault) (r : Text), vectorName vec = .ok name ∧
      fault.code = code ∧
      report name ("build_failed (" ++ fault.toSpecError.text ++ ")") = .ok r ∧
      checkVector vec = .ok [r] := by
  obtain ⟨fault, hf, hc⟩ := hr
  obtain ⟨name, hv, hn⟩ := h.exists_name
  obtain ⟨r, hr⟩ := exists_report hn ("build_failed (" ++ fault.toSpecError.text ++ ")")
  refine ⟨name, fault, r, hv, hc, hr, ?_⟩
  rw [checkVector, hv, hf]
  change (report name _ >>= _) = _
  rw [hr]
  rfl

theorem checkVector_of_defect {d : Defect} (hr : rebuild vec = .error (.ofDefect d)) :
    checkVector vec = .error (.ofDefect d) := by
  obtain ⟨name, hv, _⟩ := h.exists_name
  rw [checkVector, hv, hr]
  unfold Failure.ofDefect
  cases d.isShowable <;> rfl

end VectorShape

/-- The vector has the recorded shape and no defect. A key that is none is no defect, and nothing
behind it counts. -/
def IsCheckable (vec : Value) : Prop :=
  ∃ tag doc expected, VectorShape tag doc expected vec ∧
    (KeysAreKeys tag.parameters doc → OthersFit tag.parameters doc ∧ DataIsHex expected)

theorem IsCheckable.exists_checkVector (h : IsCheckable vec) :
    ∃ reports, checkVector vec = .ok reports := by
  obtain ⟨tag, doc, expected, hs, hc⟩ := h
  rcases hs.rebuild_cases with ⟨_, hr⟩ | ⟨hk, ⟨_, p, ix, hr⟩ | ⟨f, hf, hp, w, hw, hn, _⟩⟩
  · obtain ⟨_, _, r, _, _, _, hv⟩ := hs.checkVector_of_raises hr
    exact ⟨[r], hv⟩
  · exact hs.exists_checkVector hr (hc hk).2
  · exact absurd ((hc hk).1 f hf hp w hw) hn

theorem IsCheckable.exists_course (h : IsCheckable vec) :
    ∃ fs, (courseOfVector vec).failures = .ok fs := by
  obtain ⟨reports, hr⟩ := h.exists_checkVector
  obtain ⟨_, _, _, hs, _⟩ := h
  exact ⟨reports, courseOfVector_eq_ok_iff.2 ⟨hr, hs.isShowable_loggedName⟩⟩

theorem exists_checkVectors {stop : Bool} {vecs : List Value} (h : ∀ vec ∈ vecs, IsCheckable vec) :
    ∃ fs, (checkVectors stop vecs).failures = .ok fs := by
  rw [checkVectors_eq_each]
  exact Course.exists_each_eq_ok fun vec hm => (h vec hm).exists_course

theorem exists_checkFiles {t : FileTree} {stop : Bool} {paths : List String}
    (h : ∀ path ∈ paths, ∃ vecs, loadVectors t path = .ok vecs ∧ ∀ vec ∈ vecs, IsCheckable vec) :
    ∃ fs, (checkFiles t stop paths).failures = .ok fs := by
  rw [checkFiles_eq_each]
  refine Course.exists_each_eq_ok fun path hm => ?_
  obtain ⟨vecs, hl, hv⟩ := h path hm
  obtain ⟨fs, hf⟩ : ∃ fs, (checkVectors stop vecs).failures = .ok fs := exists_checkVectors hv
  rw [checkVectors_eq_each] at hf
  exact ⟨fs, checkFile_eq_ok_iff.2 ⟨vecs, hl, hf⟩⟩

/-- How a check of a vector of the recorded shape ends, whatever its texts and numbers say. With a
key that is none, the failure to build is all that is reported. If all keys are keys and all other
texts have a UTF-8 form, a number or a text that its field cannot hold is a defect and breaks the
check off; if there is none either and the data is hexadecimal, there are reports, perhaps none.
Files of vectors that have no defect are checked to the end, or up to the first failure, and what
any vector reports is in the result. -/
theorem checkVector_of_shape :
    (∀ vec tag doc expected, VectorShape tag doc expected vec →
      (¬KeysAreKeys tag.parameters doc → ∃ (name : Value) (fault : Fault) (r : Text),
        vectorName vec = .ok name ∧ fault.code = .invalidPublicKey ∧
        report name ("build_failed (" ++ fault.toSpecError.text ++ ")") = .ok r ∧
        checkVector vec = .ok [r]) ∧
      (KeysAreKeys tag.parameters doc → TextsAreEncodable tag.parameters doc →
        ¬OthersFit tag.parameters doc →
          ∃ f ∈ tag.parameters, f.2 ≠ .pubkey ∧ ∃ w, field f.1 doc = .ok w ∧ ¬f.2.Holds w ∧
            ∃ d, f.2.refusal w = .ofDefect d ∧ checkVector vec = .error (.ofDefect d)) ∧
      (KeysAreKeys tag.parameters doc → OthersFit tag.parameters doc → DataIsHex expected →
        ∃ reports, checkVector vec = .ok reports)) ∧
    (∀ stop vecs, (∀ vec ∈ vecs, IsCheckable vec) →
      ∃ fs, (checkVectors stop vecs).failures = .ok fs) ∧
    ∀ t stop paths, (∀ path ∈ paths, ∃ vecs, loadVectors t path = .ok vecs ∧
      ∀ vec ∈ vecs, IsCheckable vec) →
      ∃ fs, (checkFiles t stop paths).failures = .ok fs ∧
        if stop then ReportsFirst t paths fs else ReportsAll t paths fs := by
  refine ⟨fun vec tag doc expected h => ?_, fun stop vecs => exists_checkVectors,
    fun t stop paths h => ?_⟩
  · rcases h.rebuild_cases with ⟨hk, hr⟩ | ⟨hk, ⟨hf, p, ix, hr⟩ | ⟨f, hf, hp, w, hw, hn, hr⟩⟩
    · exact ⟨fun _ => h.checkVector_of_raises hr, fun h => absurd h hk, fun h => absurd h hk⟩
    · exact ⟨fun h => absurd hk h, fun _ _ h => absurd hf h, fun _ _ => h.exists_checkVector hr⟩
    · refine ⟨fun h => absurd hk h, fun _ he _ => ?_, fun _ ho => absurd (ho f hf hp w hw) hn⟩
      rcases f.2.refusal_cases w with ⟨d, hd⟩ | ⟨hs, _, t, ht⟩
      · exact ⟨f, hf, hp, w, hw, hn, d, hd, h.checkVector_of_defect (hd ▸ hr)⟩
      · exact absurd ht (he f hf hs w hw t)
  · obtain ⟨fs, hf⟩ : ∃ fs, (checkFiles t stop paths).failures = .ok fs := exists_checkFiles h
    refine ⟨fs, hf, ?_⟩
    cases stop with
    | true => exact reportsFirst_of_ok hf
    | false => exact reportsAll_of_ok hf

section Allocation

variable {key programId data : Text} {space : Int}

def allocationParams (key : Text) (space : Int) : Value :=
  .record [("instruction", .str "allocate"), ("account_pubkey", .ofText key), ("space", .int space)]

def emptyInstruction (programId data : Text) : Value :=
  .record [("program_id", .ofText programId), ("accounts", .list []), ("data", .ofText data)]

def allocationVector (key : Text) (space : Int) (programId data : Text) : Value :=
  .record [("name", .str "allocation"), ("params", allocationParams key space),
    ("expected", emptyInstruction programId data)]

theorem shape_allocationVector (key : Text) (space : Int) (programId data : Text) :
    VectorShape .allocate (allocationParams key space) (emptyInstruction programId data)
      (allocationVector key space programId data) where
  name v h := by
    obtain rfl := Except.ok.inj h
    rfl
  field_params := rfl
  field_expected := rfl
  params := ⟨⟨_, rfl, rfl⟩, by
    simp only [Tag.parameters, List.forall_mem_cons]
    exact ⟨⟨_, rfl, key, rfl⟩, ⟨_, rfl, _, rfl⟩, List.forall_mem_nil _⟩⟩
  instruction := ⟨⟨programId, rfl⟩, ⟨[], rfl, List.forall_mem_nil _⟩, ⟨data, rfl⟩⟩

theorem keysAreKeys_allocation :
    KeysAreKeys Tag.allocate.parameters (allocationParams key space) ↔ IsKey (.ofText key) := by
  simp only [KeysAreKeys, Tag.parameters, List.forall_mem_cons]
  constructor
  · intro h
    exact h.1 trivial _ rfl
  · intro h
    refine ⟨fun _ w hw => ?_, fun hk => ?_, List.forall_mem_nil _⟩
    · obtain rfl := Except.ok.inj hw
      exact h
    · cases hk

/-- An allocation has no text for its payload. -/
theorem textsAreEncodable_allocation :
    TextsAreEncodable Tag.allocate.parameters (allocationParams key space) := by
  simp only [TextsAreEncodable, Tag.parameters, List.forall_mem_cons]
  refine ⟨fun hk => ?_, fun hk => ?_, List.forall_mem_nil _⟩
  · cases hk
  · cases hk

theorem othersFit_allocation :
    OthersFit Tag.allocate.parameters (allocationParams key space) ↔
      0 ≤ space ∧ space ≤ Wire.maxU64 := by
  simp only [OthersFit, Tag.parameters, List.forall_mem_cons]
  constructor
  · intro h
    have hk : FieldKind.u64 ≠ .pubkey := by decide
    obtain ⟨_, hi, h⟩ := h.2.1 hk _ rfl
    obtain rfl := Value.int.inj hi
    exact h
  · intro h
    refine ⟨fun h => absurd rfl h, fun _ w hw => ?_, List.forall_mem_nil _⟩
    obtain rfl := Except.ok.inj hw
    exact ⟨space, rfl, h⟩

def ones : Text := .whole (List.replicate 32 '1')

theorem isKey_ones : IsKey (.ofText ones) :=
  ⟨systemProgram, PublicKey.ofBase58_eq_ok_iff.2 (by decide +kernel)⟩

/-- The shortest text without a UTF-8 form. -/
def half : Text := .broken ⟨[], ⟨⟨0, by decide⟩⟩, []⟩

theorem not_isKey_half : ¬IsKey (.ofText half) := by
  intro h
  obtain ⟨_, hk⟩ := h
  cases hk

/-- A space of 64 ones in binary is the last that fits; the first that does not breaks the check
off, but not if the account is no key. What is reported of the recorded instruction, whose program
is no key, does not end a run over several vectors. -/
theorem checkVector_of_shape_allocations :
    let unreadable := allocationVector half (2 ^ 64) ones "zz"
    let different := allocationVector ones (2 ^ 64 - 1) half "zz"
    let defect := allocationVector ones (2 ^ 64) ones ""
    (∃ name fault r, vectorName unreadable = .ok name ∧ Fault.code fault = .invalidPublicKey ∧
        report name ("build_failed (" ++ fault.toSpecError.text ++ ")") = .ok r ∧
        checkVector unreadable = .ok [r]) ∧
      (∃ reports, checkVector different = .ok reports) ∧
      (∃ d, checkVector defect = .error (.ofDefect d)) ∧
      ∃ fs, (checkVectors false [unreadable, different]).failures = .ok fs := by
  intro unreadable different defect
  have hu := shape_allocationVector half (2 ^ 64) ones "zz"
  have hd := shape_allocationVector ones (2 ^ 64 - 1) half "zz"
  have hn : ¬KeysAreKeys Tag.allocate.parameters (allocationParams half (2 ^ 64)) :=
    mt keysAreKeys_allocation.1 not_isKey_half
  have hk (space : Int) : KeysAreKeys Tag.allocate.parameters (allocationParams ones space) :=
    keysAreKeys_allocation.2 isKey_ones
  have hf : OthersFit Tag.allocate.parameters (allocationParams ones (2 ^ 64 - 1)) :=
    othersFit_allocation.2 (by decide)
  have ho : ¬OthersFit Tag.allocate.parameters (allocationParams ones (2 ^ 64)) :=
    mt othersFit_allocation.1 (by decide)
  have hx : DataIsHex (emptyInstruction half "zz") :=
    fun hp => absurd (hp _ rfl) not_isKey_half
  refine ⟨(checkVector_of_shape.1 _ _ _ _ hu).1 hn,
    (checkVector_of_shape.1 _ _ _ _ hd).2.2 (hk _) hf hx, ?_,
    checkVector_of_shape.2.1 false _ ?_⟩
  · obtain ⟨_, _, _, _, _, _, d, _, hc⟩ :=
      (checkVector_of_shape.1 _ _ _ _ (shape_allocationVector ones (2 ^ 64) ones "")).2.1 (hk _)
        textsAreEncodable_allocation ho
    exact ⟨d, hc⟩
  · simp only [List.forall_mem_cons]
    exact ⟨⟨_, _, _, hu, fun h => absurd h hn⟩, ⟨_, _, _, hd, fun _ => ⟨hf, hx⟩⟩,
      List.forall_mem_nil _⟩

/-- The first number beyond 64 bits breaks the check of a vector off. -/
theorem checkVector_beyond :
    ¬∀ vec tag doc expected, VectorShape tag doc expected vec →
      ∃ reports, checkVector vec = .ok reports := by
  intro h
  have hs := shape_allocationVector ones (2 ^ 64) ones ""
  obtain ⟨reports, hr⟩ := h _ _ _ _ hs
  rcases hs.rebuild_cases with ⟨hn, _⟩ | ⟨_, ⟨hf, _⟩ | ⟨f, hf, _, w, hw, _, hd⟩⟩
  · exact hn (keysAreKeys_allocation.2 isKey_ones)
  · exact absurd (othersFit_allocation.1 hf) (by decide)
  · rcases f.2.refusal_cases w with ⟨d, he⟩ | ⟨hk, _, t, ht⟩
    · rw [hs.checkVector_of_defect (he ▸ hd)] at hr
      cases hr
    · exact textsAreEncodable_allocation f hf hk w hw t ht

end Allocation

end Fixture
end SystemProgram
