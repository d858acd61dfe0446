import SystemProgram.Proofs.Fixture.Form
import SystemProgram.Fixture.Vector

namespace SystemProgram.Fixture

open Value

variable {p : Params} {ix : Instruction} {vec name built expected v w : Value} {part : String}
  {reports : List Text}

theorem rebuild_eq_ok_iff :
    rebuild vec = .ok (p, ix) ↔
      ∃ doc, field "params" vec = .ok doc ∧ params doc = .ok p ∧ p.build = .ok ix := by
  simp only [rebuild, Outcome.bind_eq_ok_iff]
  constructor
  · intro h
    obtain ⟨doc, hf, q, hq, jx, hj, h⟩ := h
    cases h
    exact ⟨doc, hf, hq, hj⟩
  · intro h
    obtain ⟨doc, hf, hp, hb⟩ := h
    exact ⟨doc, hf, p, hp, ix, hb, rfl⟩

theorem compareField_eq_ok_nil_iff :
    compareField name v w part = .ok [] ↔
      ∃ a b, field part v = .ok a ∧ field part w = .ok b ∧ a.same b = true := by
  simp only [compareField, Outcome.bind_eq_ok_iff]
  constructor
  · intro h
    obtain ⟨a, ha, b, hb, h⟩ := h
    split at h
    · next hs => exact ⟨a, b, ha, hb, hs⟩
    · obtain ⟨r, _, hr⟩ := Outcome.bind_eq_ok_iff.1 h
      cases hr
  · intro h
    obtain ⟨a, b, ha, hb, hs⟩ := h
    exact ⟨a, ha, b, hb, if_pos hs⟩

theorem mismatch_mem_of_ne_nil (h : compareField name v w part = .ok reports)
    (hn : reports ≠ []) : ∃ r ∈ reports, report name (part ++ "_mismatch") = .ok r := by
  simp only [compareField, Outcome.bind_eq_ok_iff] at h
  obtain ⟨a, ha, b, hb, h⟩ := h
  split at h
  · exact absurd (Except.ok.inj h).symm hn
  · obtain ⟨r, hr, h⟩ := Outcome.bind_eq_ok_iff.1 h
    cases h
    exact ⟨r, .head _, hr⟩

theorem agree_iff (name : Value) :
    Agree v w ↔ compareField name v w "program_id" = .ok [] ∧
      compareField name v w "accounts" = .ok [] ∧ compareField name v w "data" = .ok [] := by
  simp only [compareField_eq_ok_nil_iff, Agree, parts, List.forall_mem_cons]
  constructor
  · intro h
    exact ⟨h.1, h.2.1, h.2.2.1⟩
  · intro h
    exact ⟨h.1, h.2.1, h.2.2, List.forall_mem_nil _⟩

theorem checkVector_eq_ok_iff (hr : rebuild vec = .ok (p, ix))
    (hb : ofInstruction ix = .ok built) :
    checkVector vec = .ok reports ↔
      ∃ name expected xs ys zs ps, vectorName vec = .ok name ∧
        field "expected" vec = .ok expected ∧
        compareField name built expected "program_id" = .ok xs ∧
        compareField name built expected "accounts" = .ok ys ∧
        compareField name built expected "data" = .ok zs ∧
        compareParsed name expected p = .ok ps ∧ reports = xs ++ ys ++ zs ++ ps := by
  simp only [checkVector, hr, hb, Outcome.bind_eq_ok_iff]
  constructor
  · intro h
    obtain ⟨name, hn, _, he, expected, hx, xs, hxs, ys, hys, zs, hzs, ps, hps, h⟩ := h
    cases he
    exact ⟨name, expected, xs, ys, zs, ps, hn, hx, hxs, hys, hzs, hps, (Except.ok.inj h).symm⟩
  · intro h
    obtain ⟨name, expected, xs, ys, zs, ps, hn, hx, hxs, hys, hzs, hps, h⟩ := h
    exact ⟨name, hn, built, rfl, expected, hx, xs, hxs, ys, hys, zs, hzs, ps, hps,
      congrArg Except.ok h.symm⟩

theorem exists_vectorName (h : field part vec = .ok v) : ∃ name, vectorName vec = .ok name := by
  cases vec with
  | map es => exact ⟨_, rfl⟩
  | _ => cases h

/-- What agrees with the record of the built instruction is parsed to the parameters. -/
theorem compareParsed_of_agree (hp : p.IsTyped) (hb : p.build = .ok ix)
    (hi : ofInstruction ix = .ok built) (h : Agree built expected) :
    compareParsed name expected p = .ok [] := by
  have hx : instruction expected = .ok ix := instruction_of_agree hi h
  have hq : ix.parse = .ok p := Params.parse_of_build hb
  have hc : (do (← instruction expected).parse) = .ok p := Outcome.bind_eq_ok_iff.2 ⟨ix, hx, hq⟩
  unfold compareParsed
  rw [hc]
  exact if_pos (ofParams_same_self hp)

theorem checkVector_eq_ok_nil_iff (hr : rebuild vec = .ok (p, ix)) (hp : p.IsTyped)
    (hi : ofInstruction ix = .ok built) :
    checkVector vec = .ok [] ↔
      ∃ expected, field "expected" vec = .ok expected ∧ Agree built expected := by
  obtain ⟨doc, hf, _, hb⟩ := rebuild_eq_ok_iff.1 hr
  rw [checkVector_eq_ok_iff hr hi]
  constructor
  · intro h
    obtain ⟨name, expected, xs, ys, zs, ps, _, hx, hxs, hys, hzs, _, h⟩ := h
    simp only [List.nil_eq, List.append_eq_nil_iff] at h
    obtain ⟨⟨⟨rfl, rfl⟩, rfl⟩, _⟩ := h
    exact ⟨expected, hx, (agree_iff name).2 ⟨hxs, hys, hzs⟩⟩
  · intro h
    obtain ⟨expected, hx, ha⟩ := h
    obtain ⟨name, hn⟩ := exists_vectorName hf
    obtain ⟨hxs, hys, hzs⟩ := (agree_iff name).1 ha
    have hps : compareParsed name expected p = .ok [] := compareParsed_of_agree hp hb hi ha
    exact ⟨name, expected, [], [], [], [], hn, hx, hxs, hys, hzs, hps, rfl⟩

/-- No parse report stands alone: some part of the recorded instruction is reported as well. -/
theorem exists_mismatch (hr : rebuild vec = .ok (p, ix)) (hp : p.IsTyped)
    (hi : ofInstruction ix = .ok built) (h : checkVector vec = .ok reports) (hn : reports ≠ []) :
    ∃ name, vectorName vec = .ok name ∧
      ∃ part ∈ parts, ∃ r ∈ reports, report name (part ++ "_mismatch") = .ok r := by
  obtain ⟨_, _, _, hb⟩ := rebuild_eq_ok_iff.1 hr
  obtain ⟨name, expected, xs, ys, zs, ps, hv, _, hxs, hys, hzs, hps, rfl⟩ :=
    (checkVector_eq_ok_iff hr hi).1 h
  refine ⟨name, hv, ?_⟩
  -- Without any such report the recorded instruction agrees, and then parsing reports nothing.
  by_cases hx : xs = []
  · by_cases hy : ys = []
    · by_cases hz : zs = []
      · subst hx hy hz
        have ha : Agree built expected := (agree_iff name).2 ⟨hxs, hys, hzs⟩
        have hq := hps.symm.trans (compareParsed_of_agree hp hb hi ha)
        cases hq
        exact absurd rfl hn
      · obtain ⟨r, hm, hr⟩ := mismatch_mem_of_ne_nil hzs hz
        exact ⟨"data", .tail _ (.tail _ (.head _)), r, by simp [hm], hr⟩
    · obtain ⟨r, hm, hr⟩ := mismatch_mem_of_ne_nil hys hy
      exact ⟨"accounts", .tail _ (.head _), r, by simp [hm], hr⟩
  · obtain ⟨r, hm, hr⟩ := mismatch_mem_of_ne_nil hxs hx
    exact ⟨"program_id", .head _, r, by simp [hm], hr⟩

def vectorRecord (name : Value) (p : Params) (built : Value) : Value :=
  .record [("name", name), ("params", ofParams p), ("expected", built)]

theorem rebuild_vectorRecord (hp : p.IsTyped) (hb : p.build = .ok ix) :
    rebuild (vectorRecord name p built) = .ok (p, ix) := by
  have hl : params (ofParams p) = .ok p := params_ofParams_iff.2 hp.isKept
  exact rebuild_eq_ok_iff.2 ⟨ofParams p, rfl, hl, hb⟩

/-- A vector whose parameters build passes exactly if its recorded instruction agrees with the one
that is built; it then leads back to that instruction, flags included. Where something is reported,
some part differs. What is recorded of parameters whose accounts are keys passes. -/
theorem checkVector_verdict :
    (∀ vec p ix, rebuild vec = .ok (p, ix) → ∃ built, ofInstruction ix = .ok built ∧
      (checkVector vec = .ok [] ↔
        ∃ expected, field "expected" vec = .ok expected ∧ Agree built expected) ∧
      (checkVector vec = .ok [] →
        ∃ expected, field "expected" vec = .ok expected ∧ instruction expected = .ok ix) ∧
      ∀ reports, checkVector vec = .ok reports → reports ≠ [] →
        ∃ name, vectorName vec = .ok name ∧
          ∃ part ∈ parts, ∃ r ∈ reports, report name (part ++ "_mismatch") = .ok r) ∧
    ∀ (p : Params) ix name, p.build = .ok ix → (∀ v ∈ ix.keys, ∃ k, v = .key k) →
      ∃ built, ofInstruction ix = .ok built ∧ checkVector (vectorRecord name p built) = .ok [] := by
  refine ⟨fun vec p ix hr => ?_, fun p ix name hb hk => ?_⟩
  · obtain ⟨doc, _, hl, hb⟩ := rebuild_eq_ok_iff.1 hr
    have hk : ∀ v ∈ ix.keys, ∃ k, v = .key k := Params.keys_of_build hb ▸ keys_of_params hl
    have hp : p.IsTyped := Params.isTyped_of_build hb hk
    obtain ⟨built, hi⟩ := exists_ofInstruction (Params.build_eq_ok_iff.1 hb).1 hk
    have hv := checkVector_eq_ok_nil_iff hr hp hi
    refine ⟨built, hi, hv, fun h => ?_, fun reports => exists_mismatch hr hp hi⟩
    obtain ⟨expected, hx, ha⟩ := hv.1 h
    exact ⟨expected, hx, instruction_of_agree hi ha⟩
  · have hp : p.IsTyped := Params.isTyped_of_build hb hk
    obtain ⟨built, hi⟩ := exists_ofInstruction (Params.build_eq_ok_iff.1 hb).1 hk
    have hr : rebuild (vectorRecord name p built) = .ok (p, ix) := rebuild_vectorRecord hp hb
    exact ⟨built, hi, (checkVector_eq_ok_nil_iff hr hp hi).2 ⟨built, rfl, agree_self hi⟩⟩

end SystemProgram.Fixture
