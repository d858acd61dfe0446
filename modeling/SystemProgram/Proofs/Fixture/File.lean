import SystemProgram.Fixture.File

namespace SystemProgram.Fixture

variable {t : FileTree} {place : List Name} {cs : List Char}

def vectorsOfChars (cs : List Char) : Outcome (List Value) := do
  match ← Yaml.Tree.ofTokens (Yaml.tokens cs) with
  | none => vectors (.tree .null)
  | some tree => vectors (← tree.document)

theorem readText_eq {path : List Char} (hl : t.locate path = some place)
    (hb : t.bytes? place = some (Utf8.encode (String.ofList cs))) (hr : '\r' ∉ cs) :
    readText t path = .ok (String.ofList cs) := by
  refine Outcome.bind_eq_ok_iff.2 ⟨place, by rw [hl]; rfl, ?_⟩
  refine Outcome.bind_eq_ok_iff.2 ⟨_, by rw [hb]; rfl, ?_⟩
  refine Outcome.bind_eq_ok_iff.2 ⟨_, by rw [Utf8.decode?_encode]; rfl, ?_⟩
  rw [String.toList_ofList, Text.unifyLineEnds_of_not_mem hr]
  rfl

theorem loadVectors_eq {path : String} (hl : t.locate path.toList = some place)
    (hb : t.bytes? place = some (Utf8.encode (String.ofList cs)))
    (hy : isYaml path.toList = true) (hr : '\r' ∉ cs) (ha : cs.all Yaml.isAllowed = true) :
    loadVectors t path = vectorsOfChars cs := by
  rw [loadVectors, readDocument, readText_eq hl hb hr]
  change ((if isYaml path.toList then Yaml.load (String.ofList cs) else _) >>= vectors) = _
  rw [if_pos hy, Yaml.load, String.toList_ofList]
  simp only [ha, Text.unifyLineEnds_of_not_mem hr]
  unfold vectorsOfChars
  rcases Yaml.Tree.ofTokens (Yaml.tokens cs) with e | ⟨_ | tree⟩ <;> rfl

end SystemProgram.Fixture
