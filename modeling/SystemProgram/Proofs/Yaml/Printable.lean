import SystemProgram.Proofs.Yaml.Quoted
import SystemProgram.Yaml.Construct

namespace SystemProgram.Yaml

/-- Whether all characters may stand in a document as they are. -/
def IsPrintable (cs : List Char) : Prop :=
  ∀ c ∈ cs, isSpecial c = false

namespace IsPrintable

variable {cs ds : List Char} {c : Char} {tag : String} {indent column : Nat}

@[simp] theorem nil : IsPrintable [] :=
  List.forall_mem_nil _

@[simp] theorem cons_iff : IsPrintable (c :: cs) ↔ isSpecial c = false ∧ IsPrintable cs :=
  List.forall_mem_cons

theorem cons (hc : isSpecial c = false) (h : IsPrintable cs) : IsPrintable (c :: cs) :=
  cons_iff.2 ⟨hc, h⟩

@[simp] theorem append_iff : IsPrintable (cs ++ ds) ↔ IsPrintable cs ∧ IsPrintable ds :=
  List.forall_mem_append

@[simp] theorem spaces (n : Nat) : IsPrintable (spaces n) := by
  intro c hc
  rw [List.eq_of_mem_replicate hc]
  decide

@[simp] theorem newLine (indent : Nat) : IsPrintable (newLine indent) :=
  cons (by decide) (spaces indent)

theorem of_any_eq_false (h : (!cs.any isSpecial) = true) : IsPrintable cs := by
  simpa [IsPrintable] using h

theorem foldedText (h : IsPrintable cs) (isKey quoted : Bool) (previous : Option Char) :
    IsPrintable (foldedText indent isKey quoted column previous cs) := by
  have hn : isSpecial '\n' = false := by decide
  have hq : isSpecial '\'' = false := by decide
  induction cs generalizing column previous with
  | nil => simp [Yaml.foldedText]
  | cons c cs ih =>
    obtain ⟨hc, hcs⟩ := cons_iff.1 h
    unfold Yaml.foldedText
    dsimp only
    split_ifs
    all_goals simp [hc, hn, hq, ih hcs]

theorem upperHex (width n : Nat) : IsPrintable (upperHex width n) := by
  have hd : ∀ d < 16, isSpecial (Hex.digit d).toUpper = false := by decide
  induction width generalizing n with
  | zero => exact nil
  | succ width ih =>
    have hn : isSpecial (Hex.digit (n % 16)).toUpper = false := hd _ (Nat.mod_lt n (by decide))
    rw [upperHex_succ]
    simp [ih, hn]

theorem shortEscape {d : Char} (h : shortEscape? c = some d) : isSpecial d = false := by
  obtain ⟨before, behind, he, _⟩ := List.lookup_eq_some_iff.1 h
  have hm : ∀ e ∈ before ++ (c, d) :: behind, isSpecial e.2 = false := by
    rw [← he]
    decide
  exact hm (c, d) (by simp)

theorem longEscape (n : Nat) : IsPrintable (longEscape n) := by
  unfold Yaml.longEscape
  split_ifs
  all_goals exact cons (by decide) (upperHex _ _)

theorem escaped (p : CodePoint) : IsPrintable (escaped p) := by
  refine cons (by decide) ?_
  cases hs : p.char?.bind shortEscape? with
  | some d =>
    obtain ⟨c, _, hd⟩ := Option.bind_eq_some_iff.1 hs
    exact cons (shortEscape hd) nil
  | none => exact longEscape _

theorem escapedBreak (indent : Nat) (next : Option Char) :
    IsPrintable (escapedBreak indent next) := by
  have hb : isSpecial '\\' = false := by decide
  unfold Yaml.escapedBreak
  split_ifs
  all_goals simp [hb]

theorem of_unescaped {p : CodePoint} (h : unescaped? p = some c) : isSpecial c = false := by
  have hi : isInline c = true := isInline_of_not_needsEscape (unescaped?_eq_some_iff.1 h).2
  simp only [isInline] at hi
  simp [isSpecial, hi]

theorem escapedText (isKey isFirst behindEscape : Bool) (ps : List CodePoint) :
    IsPrintable (escapedText indent isKey column isFirst behindEscape ps) := by
  induction ps generalizing column isFirst behindEscape with
  | nil => exact nil
  | cons p ps ih =>
    unfold Yaml.escapedText
    dsimp only
    cases hu : unescaped? p with
    | none =>
      dsimp only
      split_ifs
      all_goals simp [escaped, escapedBreak, ih]
    | some c =>
      dsimp only
      split_ifs
      all_goals simp [escapedBreak, of_unescaped hu, ih]

theorem of_plainAllowed (h : plainAllowed cs = true) : IsPrintable cs := by
  simp only [plainAllowed, Bool.and_eq_true] at h
  exact of_any_eq_false h.1.1.1.1.1

theorem of_singleAllowed (h : singleAllowed cs = true) : IsPrintable cs := by
  simp only [singleAllowed, Bool.and_eq_true] at h
  exact of_any_eq_false h.1.1

theorem scalarText (isKey : Bool) (column indent : Nat) (tag : String) (text : Text) :
    IsPrintable (scalarText isKey column indent tag text) := by
  have hs : isSpecial '\'' = false := by decide
  have hd : isSpecial '"' = false := by decide
  cases text with
  | broken t => simp [Yaml.scalarText, hd, escapedText]
  | whole cs =>
    unfold Yaml.scalarText
    dsimp only [styleOf]
    split_ifs with hp hq
    · simp only [Bool.and_eq_true] at hp
      exact foldedText (of_plainAllowed hp.2) _ _ _
    · simp only [Bool.and_eq_true] at hq
      simp [hs, foldedText (of_singleAllowed hq.1)]
    · simp [hd, escapedText]

theorem pair {d : Char} (hc : isSpecial c = false) (hd : isSpecial d = false) :
    IsPrintable [c, d] :=
  cons hc (cons hd nil)

theorem brackets : IsPrintable ['[', ']'] :=
  pair (by decide) (by decide)

theorem braces : IsPrintable ['\x7b', '\x7d'] :=
  pair (by decide) (by decide)

theorem keyText (column : Nat) (n : Node) : IsPrintable (keyText column n) := by
  cases n with
  | scalar => exact scalarText _ _ _ _ _
  | seq => exact brackets
  | map => exact braces

end IsPrintable

theorem isSpecial_space : isSpecial ' ' = false := by decide

mutual
theorem isPrintable_inline (indent : Nat) : ∀ n : Node, IsPrintable (inline indent n)
  | .scalar _ _ => .cons isSpecial_space (.scalarText _ _ _ _ _)
  | .seq _ ns => by
    unfold inline
    split_ifs
    · exact .cons isSpecial_space .brackets
    · exact .cons isSpecial_space (isPrintable_items _ _ ns)
  | .map _ es => by
    unfold inline
    split_ifs
    · exact .cons isSpecial_space .braces
    · exact .cons isSpecial_space (isPrintable_entries _ _ es)

theorem isPrintable_afterKey (indent column : Nat) : ∀ n : Node,
    IsPrintable (afterKey indent column n)
  | .scalar _ _ => .cons isSpecial_space (.scalarText _ _ _ _ _)
  | .seq _ ns => by
    unfold afterKey
    split_ifs
    · exact .cons isSpecial_space .brackets
    · exact isPrintable_items _ _ ns
  | .map _ es => by
    unfold afterKey
    split_ifs
    · exact .cons isSpecial_space .braces
    · exact isPrintable_entries _ _ es

theorem isPrintable_items (indent : Nat) (here : Bool) : ∀ ns : List Node,
    IsPrintable (items indent here ns)
  | [] => .nil
  | n :: ns => by
    have hm : isSpecial '-' = false := by decide
    have hn := isPrintable_inline indent n
    have hns := isPrintable_items indent false ns
    cases here
    all_goals simp [items, hm, hn, hns]

theorem isPrintable_entries (indent : Nat) (here : Bool) : ∀ es : List (Node × Node),
    IsPrintable (entries indent here es)
  | [] => .nil
  | (k, v) :: es => by
    have hc : isSpecial ':' = false := by decide
    have hq : isSpecial '?' = false := by decide
    have hk := IsPrintable.keyText indent k
    have hki := isPrintable_inline indent k
    have hv := isPrintable_afterKey indent (indent + (keyText indent k).length + 1) v
    have hvi := isPrintable_inline indent v
    have hes := isPrintable_entries indent false es
    unfold entries
    split_ifs
    all_goals simp [*]
end

/-- Whatever is written is printable. -/
theorem isPrintable_document (n : Node) : IsPrintable (document n) := by
  have hn : isSpecial '\n' = false := by decide
  have hd : isSpecial '.' = false := by decide
  cases n with
  | scalar tag text =>
    have ht := IsPrintable.scalarText false 0 2 tag text
    simp only [document]
    split_ifs
    all_goals simp [hn, hd, ht]
  | seq _ ns =>
    have hns := isPrintable_items 0 true ns
    simp only [document]
    split_ifs
    · exact IsPrintable.append_iff.2 ⟨.brackets, .cons hn .nil⟩
    · exact IsPrintable.append_iff.2 ⟨hns, .cons hn .nil⟩
  | map _ es =>
    have hes := isPrintable_entries 0 true es
    simp only [document]
    split_ifs
    · exact IsPrintable.append_iff.2 ⟨.braces, .cons hn .nil⟩
    · exact IsPrintable.append_iff.2 ⟨hes, .cons hn .nil⟩

theorem isAllowed_of_not_isSpecial {c : Char} (h : isSpecial c = false) : isAllowed c = true := by
  simp only [isSpecial, Bool.not_eq_false', Bool.or_eq_true, decide_eq_true_eq] at h
  rcases h with rfl | h
  · decide
  · simp [isAllowed, h]

theorem all_isAllowed_document (n : Node) : (document n).all isAllowed = true :=
  List.all_eq_true.2 fun c hc => isAllowed_of_not_isSpecial (isPrintable_document n c hc)

theorem not_mem_document (n : Node) : '\r' ∉ document n := by
  intro h
  have hr : isSpecial '\r' = true := by decide
  rw [isPrintable_document n _ h] at hr
  cases hr

end SystemProgram.Yaml
