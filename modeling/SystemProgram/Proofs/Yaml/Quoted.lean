import SystemProgram.Proofs.Yaml.Source

namespace SystemProgram.Yaml

open Source

/-- Reading on between quotes, with a gap open, gives the text and stops at `rest`, wherever the
characters stand. -/
def QuotedReads (double : Bool) (gap : Gap) (cs : List Char) (text : List CodePoint)
    (rest : List Char) : Prop :=
  ∀ m, ∃ m', quotedScalar double gap (ofChars m cs) = .ok (text, ofChars m' rest)

namespace QuotedReads

variable {double : Bool} {gap : Gap} {c d : Char} {cs rest : List Char} {text : List CodePoint}
  {n : Nat}

theorem space (h : QuotedReads double (gap.addBlank ' ') cs text rest) :
    QuotedReads double gap (' ' :: cs) text rest := by
  intro m
  obtain ⟨m', h⟩ := h (m.after ' ')
  refine ⟨m', ?_⟩
  rw [ofChars, quotedScalar.eq_def]
  dsimp only
  rw [if_pos (Or.inl rfl), h]

theorem lineFeed (hb : ∀ m, atBorder (ofChars m cs) = false)
    (h : QuotedReads double (gap.addBreak '\n') cs text rest) :
    QuotedReads double gap ('\n' :: cs) text rest := by
  intro m
  obtain ⟨m', h⟩ := h (m.after '\n')
  refine ⟨m', ?_⟩
  rw [ofChars, quotedScalar.eq_def]
  dsimp only
  rw [if_neg (by decide), if_pos (by decide), hb, if_neg (by decide)]
  exact h

/-- What stands in a line shows that the gap before it belongs to the text. -/
theorem flush (hc : isBlankOrBreak c = false) (h : QuotedReads double .none (c :: cs) text rest) :
    QuotedReads double gap (c :: cs) (gap.points ++ text) rest := by
  simp only [isBlankOrBreak, Bool.or_eq_false_iff, decide_eq_false_iff_not] at hc
  obtain ⟨⟨hs, ht⟩, hb⟩ := hc
  by_cases hg : gap = .none
  · rw [hg]
    exact h
  · intro m
    obtain ⟨m', h⟩ := h m
    refine ⟨m', ?_⟩
    rw [ofChars] at h ⊢
    rw [quotedScalar.eq_def]
    dsimp only
    rw [if_neg (by simp [hs, ht]), hb, if_neg (by decide), if_pos hg, h]
    rfl

/-- A character that stands for itself. -/
theorem char (hc : isBlankOrBreak c = false) (hq : c ≠ if double then '"' else '\'')
    (he : double = true → c ≠ '\\') (h : QuotedReads double .none cs text rest) :
    QuotedReads double .none (c :: cs) (.char c :: text) rest := by
  simp only [isBlankOrBreak, Bool.or_eq_false_iff, decide_eq_false_iff_not] at hc
  obtain ⟨⟨hs, ht⟩, hb⟩ := hc
  intro m
  obtain ⟨m', h⟩ := h (m.after c)
  refine ⟨m', ?_⟩
  rw [ofChars, quotedScalar.eq_def]
  cases double <;> simp_all

theorem doubledQuote (h : QuotedReads false .none cs text rest) :
    QuotedReads false .none ('\'' :: '\'' :: cs) (.char '\'' :: text) rest := by
  intro m
  obtain ⟨m', h⟩ := h ((m.after '\'').after '\'')
  refine ⟨m', ?_⟩
  rw [ofChars, ofChars, quotedScalar.eq_def]
  simp [h, isBreak]

theorem closeSingle (h : rest.head? ≠ some '\'') :
    QuotedReads false .none ('\'' :: rest) [] rest := by
  intro m
  refine ⟨m.after '\'', ?_⟩
  rw [ofChars, quotedScalar.eq_def]
  cases rest with
  | nil => simp [isBreak, ofChars]
  | cons d ds => 
    have hd : d ≠ '\'' := by simpa using h
    simp only [ofChars, isBreak]
    split
    · simp_all
    · split <;> simp_all

theorem closeDouble (rest : List Char) : QuotedReads true .none ('"' :: rest) [] rest := by
  intro m
  refine ⟨m.after '"', ?_⟩
  rw [ofChars, quotedScalar.eq_def]
  simp [isBreak]

theorem shortEscape (he : escape? d = some c) (h : QuotedReads true .none cs text rest) :
    QuotedReads true .none ('\\' :: d :: cs) (.char c :: text) rest := by
  intro m
  obtain ⟨m', h⟩ := h ((m.after '\\').after d)
  refine ⟨m', ?_⟩
  rw [ofChars, ofChars, quotedScalar.eq_def]
  simp [isBreak, he, h]

theorem longEscape {ds : List Char} (he : escape? d = none) (hw : escapeWidth? d = some ds.length)
    (hn : hexNumber ds.length ds = .ok n) (h : QuotedReads true .none cs text rest) :
    QuotedReads true .none ('\\' :: d :: ds ++ cs) (.ofNumber n :: text) rest := by
  intro m
  obtain ⟨m', h⟩ := h (((m.after '\\').after d).behind ds)
  refine ⟨m', ?_⟩
  rw [List.cons_append, List.cons_append, ofChars, ofChars, ofChars_append, quotedScalar.eq_def]
  have ht : (ofChars ((m.after '\\').after d) ds).length = ds.length := length_ofChars ..
  simp [isBreak, he, hw, h, List.take_left' ht, List.drop_left' ht, hn]
  rfl

/-- A line end behind a backslash does not count. -/
theorem joinLines (hb : ∀ m, atBorder (ofChars m cs) = false)
    (h : QuotedReads true (.joined []) cs text rest) :
    QuotedReads true .none ('\\' :: '\n' :: cs) text rest := by
  intro m
  obtain ⟨m', h⟩ := h ((m.after '\\').after '\n')
  refine ⟨m', ?_⟩
  rw [ofChars, ofChars, quotedScalar.eq_def]
  simp [isBreak, escape?, escapeWidth?, hb, h]

end QuotedReads

theorem escape?_of_shortEscape? {c d : Char} (h : shortEscape? c = some d) :
    escape? d = some c := by
  obtain ⟨before, behind, he, _⟩ := List.lookup_eq_some_iff.1 h
  have hm : ∀ e ∈ before ++ (c, d) :: behind, escape? e.2 = some e.1 := by
    rw [← he]
    decide
  exact hm (c, d) (by simp)

theorem upperHex_succ (width n : Nat) :
    upperHex (width + 1) n = upperHex width (n / 16) ++ [(Hex.digit (n % 16)).toUpper] := by
  rw [upperHex, Quoted.hexDigits, List.map_append]
  rfl

theorem length_upperHex (width n : Nat) : (upperHex width n).length = width := by
  induction width generalizing n with
  | zero => rfl
  | succ width ih => rw [upperHex_succ, List.length_append, ih, List.length_singleton]

theorem digitValue?_toUpper_digit {n : Nat} (h : n < 16) :
    Hex.digitValue? (Hex.digit n).toUpper = some n := by
  revert n
  decide

theorem mapM_upperHex (width n : Nat) :
    ∃ ds, (upperHex width n).mapM Hex.digitValue? = some ds ∧ ds.length = width ∧
      Radix.value 16 ds = n % 16 ^ width := by
  induction width generalizing n with
  | zero => exact ⟨[], rfl, rfl, (Nat.mod_one n).symm⟩
  | succ width ih =>
    obtain ⟨ds, hd, hl, hv⟩ := ih (n / 16)
    have hx : Hex.digitValue? (Hex.digit (n % 16)).toUpper = some (n % 16) :=
      digitValue?_toUpper_digit (Nat.mod_lt n (by decide))
    refine ⟨ds ++ [n % 16], ?_, ?_, ?_⟩
    · rw [upperHex_succ, List.mapM_append, hd]
      simp [hx]
    · rw [List.length_append, hl, List.length_singleton]
    · rw [Radix.value_append_singleton, hv, Nat.pow_succ, Nat.mul_comm (16 ^ width), Nat.mod_mul]
      omega

theorem hexNumber_upperHex {width n : Nat} (hw : n < 16 ^ width) (hn : n < 0x110000) :
    hexNumber width (upperHex width n) = .ok n := by
  obtain ⟨ds, hd, hl, hv⟩ := mapM_upperHex width n
  rw [Nat.mod_eq_of_lt hw] at hv
  have h1 : ¬ 0x80000000 ≤ n := by omega
  have h2 : ¬ 0x110000 ≤ n := by omega
  refine Outcome.bind_eq_ok_iff.2 ⟨ds, Outcome.ofOption_eq_ok_iff.2 hd, ?_⟩
  dsimp only
  rw [hv, hl, if_neg (Nat.lt_irrefl _), if_neg h1, if_neg h2]
  rfl

namespace QuotedReads

variable {double : Bool} {gap : Gap} {d : Char} {p : CodePoint} {cs rest : List Char}
  {text : List CodePoint} {n : Nat}

theorem upperHex_append (he : escape? d = none) (hw : escapeWidth? d = some n)
    (hc : p.number < 16 ^ n) (h : QuotedReads true .none cs text rest) :
    QuotedReads true .none ('\\' :: d :: upperHex n p.number ++ cs) (p :: text) rest := by
  have hp : CodePoint.ofNumber p.number :: text = p :: text := by rw [CodePoint.ofNumber_number]
  rw [← hp]
  apply longEscape he
  · rw [hw, length_upperHex]
  · rw [length_upperHex]
    exact hexNumber_upperHex hc p.number_lt
  · exact h

theorem escaped (p : CodePoint) (h : QuotedReads true .none cs text rest) :
    QuotedReads true .none (escaped p ++ cs) (p :: text) rest := by
  unfold Yaml.escaped
  cases hs : p.char?.bind shortEscape? with
  | some d =>
    obtain ⟨c, hc, hd⟩ := Option.bind_eq_some_iff.1 hs
    obtain rfl := CodePoint.char?_eq_some_iff.1 hc
    exact shortEscape (escape?_of_shortEscape? hd) h
  | none =>
    dsimp only
    unfold Yaml.longEscape
    split
    · exact upperHex_append rfl rfl (by assumption) h
    · split
      · exact upperHex_append rfl rfl (by assumption) h
      · exact upperHex_append rfl rfl (p.number_lt.trans (by decide)) h

end QuotedReads

namespace QuotedReads

variable {double : Bool} {gap : Gap} {cs rest : List Char} {text : List CodePoint} {n : Nat}

/-- Spaces behind a line end are not part of the text. -/
theorem spaces_append {bs : List Char} (hg : gap = .breaks bs ∨ gap = .joined bs)
    (h : QuotedReads double gap cs text rest) :
    QuotedReads double gap (spaces n ++ cs) text rest := by
  induction n with
  | zero => exact h
  | succ n ih =>
    apply space
    rcases hg with rfl | rfl <;> exact ih

end QuotedReads

/-- What is left of a text that may stand between single quotes, and the character before it. -/
structure IsSingleRest (previous : Option Char) (cs : List Char) : Prop where
  not_special : cs.any isSpecial = false
  space_break : hasAdjacent (· = ' ') isBreak (previous.toList ++ cs) = false
  break_space : hasAdjacent isBreak (· = ' ') (previous.toList ++ cs) = false

namespace IsSingleRest

variable {previous : Option Char} {c : Char} {cs : List Char}

theorem tail (h : IsSingleRest previous (c :: cs)) : IsSingleRest (some c) cs := by
  obtain ⟨hs, hb, hc⟩ := h
  refine ⟨(Bool.or_eq_false_iff.1 hs).2, ?_, ?_⟩
  · cases previous with
    | none => exact hb
    | some d => exact (Bool.or_eq_false_iff.1 hb).2
  · cases previous with
    | none => exact hc
    | some d => exact (Bool.or_eq_false_iff.1 hc).2

theorem ne_lineFeed (h : IsSingleRest (some ' ') (c :: cs)) : c ≠ '\n' := by
  rintro rfl
  cases h.space_break

theorem ne_space (h : IsSingleRest (some '\n') (c :: cs)) : c ≠ ' ' := by
  rintro rfl
  cases h.break_space

end IsSingleRest

/-- The gap that is open, between single quotes, when so much of a text is left. Of line feeds in
the text one more has been read; a single one stands for a space at which the text was broken. -/
inductive IsOpen (previous : Option Char) (cs : List Char) : Gap → Prop
  | none : previous ≠ some ' ' → previous ≠ some '\n' →
    IsOpen previous cs .none
  | blanks (bs) : previous = some ' ' → IsOpen previous cs (.blanks bs)
  | breaks (n) : previous = some '\n' →
    IsOpen previous cs (.breaks ('\n' :: List.replicate (n + 1) '\n'))
  | broken : previous = some ' ' → cs.head? ≠ some ' ' → IsOpen previous cs (.breaks ['\n'])

theorem isOpen_none {c : Char} {cs : List Char} (hs : c ≠ ' ') (hn : c ≠ '\n') :
    IsOpen (some c) cs .none :=
  .none (fun h => hs (Option.some.inj h)) fun h => hn (Option.some.inj h)

section Folded

variable {indent column : Nat} {isKey : Bool} {previous : Option Char} {gap : Gap} {c : Char}
  {cs rest : List Char}

/-- Behind a line feed of the text no border between documents can stand. -/
theorem atBorder_behind_lineFeed (hi : 0 < indent) (m : Mark) :
    atBorder (ofChars m ((if cs.head? = some '\n' then [] else spaces indent) ++
      (foldedText indent isKey true indent (some '\n') cs ++ '\'' :: rest))) = false := by
  by_cases hc : cs.head? = some '\n'
  · obtain ⟨ds, rfl⟩ := List.head?_eq_some_iff.1 hc
    rw [if_pos hc, foldedText]
    exact atBorder_of_head (by decide) (by decide)
  · rw [if_neg hc]
    exact atBorder_spaces hi m _

/-- A space is written as such or, where it stands alone, as a new line. -/
theorem foldedText_space (hi : 0 < indent) (h : IsSingleRest previous (' ' :: cs))
    (hg : IsOpen previous (' ' :: cs) gap)
    (ih : ∀ column gap, IsOpen (some ' ') cs gap → QuotedReads false gap
      (foldedText indent isKey true column (some ' ') cs ++ '\'' :: rest)
      ((gap.text ++ cs).map .char) rest) :
    QuotedReads false gap
      (foldedText indent isKey true column previous (' ' :: cs) ++ '\'' :: rest)
      ((gap.text ++ ' ' :: cs).map .char) rest := by
  have hl : previous ≠ some '\n' := by
    rintro rfl
    exact h.ne_space rfl
  rw [foldedText, if_pos rfl]
  dsimp only
  split
  · next hb =>
    simp only [Bool.and_eq_true, bne_iff_ne] at hb
    obtain ⟨⟨⟨⟨⟨_, hp⟩, _⟩, hc⟩, _⟩, _⟩ := hb
    cases hg with
    | blanks _ hq | broken hq _ => exact absurd hq hp
    | breaks _ hq => exact absurd hq hl
    | none =>
      rw [newLine, List.append_assoc]
      apply QuotedReads.lineFeed
      · exact fun m => atBorder_spaces hi m _
      · exact QuotedReads.spaces_append (.inl rfl) (ih indent _ (.broken rfl hc))
  · apply QuotedReads.space
    cases hg with
    | none => exact ih _ _ (.blanks _ rfl)
    | blanks bs _ =>
      have hr := ih (column + 1) _ (.blanks (bs ++ [' ']) rfl)
      rwa [Gap.text, List.append_assoc] at hr
    | breaks _ hq => exact absurd hq hl
    | broken _ hc => exact absurd rfl hc

/-- Line feeds are written with one more in front of them. -/
theorem foldedText_lineFeed (hi : 0 < indent) (h : IsSingleRest previous ('\n' :: cs))
    (hg : IsOpen previous ('\n' :: cs) gap)
    (ih : ∀ column gap, IsOpen (some '\n') cs gap → QuotedReads false gap
      (foldedText indent isKey true column (some '\n') cs ++ '\'' :: rest)
      ((gap.text ++ cs).map .char) rest) :
    QuotedReads false gap
      (foldedText indent isKey true column previous ('\n' :: cs) ++ '\'' :: rest)
      ((gap.text ++ '\n' :: cs).map .char) rest := by
  have hs : previous ≠ some ' ' := by
    rintro rfl
    exact h.ne_lineFeed rfl
  have hk : ∀ n, QuotedReads false (.breaks ('\n' :: List.replicate (n + 1) '\n'))
      ((if cs.head? = some '\n' then [] else spaces indent) ++
        (foldedText indent isKey true indent (some '\n') cs ++ '\'' :: rest))
      ((List.replicate (n + 1) '\n' ++ cs).map .char) rest := by
    intro n
    have hr := ih indent _ (.breaks n rfl)
    split
    · exact hr
    · exact QuotedReads.spaces_append (.inl rfl) hr
  rw [foldedText, if_neg (by decide), if_pos rfl]
  simp only [List.append_assoc, List.cons_append]
  cases hg with
  | blanks _ hq | broken hq _ => exact absurd hq hs
  | none _ hp =>
    rw [if_neg hp]
    apply QuotedReads.lineFeed fun m => atBorder_of_head (by decide) (by decide)
    exact QuotedReads.lineFeed (atBorder_behind_lineFeed hi) (hk 0)
  | breaks n hp =>
    have hr := hk (n + 1)
    rw [List.replicate_succ', List.append_assoc, ← List.cons_append] at hr
    rw [if_pos hp]
    exact QuotedReads.lineFeed (atBorder_behind_lineFeed hi) hr

/-- A text between single quotes comes back, however it was folded. -/
theorem foldedText_reads (hi : 0 < indent) (hr : rest.head? ≠ some '\'')
    (h : IsSingleRest previous cs) (hg : IsOpen previous cs gap) :
    QuotedReads false gap (foldedText indent isKey true column previous cs ++ '\'' :: rest)
      ((gap.text ++ cs).map .char) rest := by
  induction cs generalizing column previous gap with
  | nil =>
    rw [List.map_append]
    exact .flush (by decide) (.closeSingle hr)
  | cons c cs ih =>
    -- Where the text is broken depends on the column, so nothing is assumed about it.
    have ih : ∀ column gap, IsOpen (some c) cs gap → QuotedReads false gap
        (foldedText indent isKey true column (some c) cs ++ '\'' :: rest)
        ((gap.text ++ cs).map .char) rest :=
      fun column gap => ih h.tail
    by_cases hs : c = ' '
    · subst hs
      exact foldedText_space hi h hg ih
    by_cases hn : c = '\n'
    · subst hn
      exact foldedText_lineFeed hi h hg ih
    have hi : isInline c = true :=
      isInline_of_not_isSpecial (Bool.or_eq_false_iff.1 h.not_special).1 hn
    have hb : isBlankOrBreak c = false := isBlankOrBreak_of_isInline hi hs
    have ih column := ih column _ (isOpen_none hs hn)
    rw [foldedText, if_neg hs, if_neg hn, List.map_append]
    split
    · next hq =>
      simp only [Bool.true_and, decide_eq_true_eq] at hq
      subst hq
      exact .flush hb (.doubledQuote (ih _))
    · next hq => exact .flush hb (.char hb (by simpa using hq) (by simp) (ih _))

end Folded

section Escaped

variable {indent column : Nat} {isKey isFirst behindEscape : Bool} {next : Option Char} {gap : Gap}
  {c : Char} {cs rest : List Char} {ps text : List CodePoint}

theorem isInline_of_not_needsEscape (h : needsEscape c = false) : isInline c = true := by
  simp only [needsEscape, Bool.or_eq_false_iff, Bool.not_eq_false'] at h
  exact h.2

theorem QuotedReads.char_of_not_needsEscape (hb : isBlankOrBreak c = false)
    (hc : needsEscape c = false) (h : QuotedReads true .none cs text rest) :
    QuotedReads true .none (c :: cs) (.char c :: text) rest := by
  simp only [needsEscape, Bool.or_eq_false_iff, decide_eq_false_iff_not] at hc
  exact char hb hc.1.1 (fun _ => hc.1.2) h

theorem QuotedReads.escapedBreak (hi : 0 < indent)
    (h : if next = some ' ' then QuotedReads true .none ('\\' :: cs) text rest
      else QuotedReads true (.joined []) cs text rest) :
    QuotedReads true .none (escapedBreak indent next ++ cs) text rest := by
  rw [Yaml.escapedBreak]
  simp only [newLine, List.cons_append, List.append_assoc]
  apply joinLines
  · exact fun m => atBorder_spaces hi m _
  · apply spaces_append (.inr rfl)
    split
    · next hn =>
      rw [if_pos hn] at h
      exact .flush (by decide) h
    · next hn => rwa [if_neg hn] at h

/-- Behind a break, a character that needs no escape still stands for itself. -/
theorem QuotedReads.escapedBreak_cons (hi : 0 < indent) (hc : needsEscape c = false)
    (h : QuotedReads true .none cs text rest) :
    QuotedReads true .none (Yaml.escapedBreak indent (some c) ++ c :: cs) (.char c :: text)
      rest := by
  apply escapedBreak hi
  split
  · next hs =>
    obtain rfl := Option.some.inj hs
    exact shortEscape rfl h
  · next hs =>
    have hb : isBlankOrBreak c = false :=
      isBlankOrBreak_of_isInline (isInline_of_not_needsEscape hc) fun he => hs (congrArg some he)
    exact .flush hb (char_of_not_needsEscape hb hc h)

theorem unescaped?_eq_some_iff {p : CodePoint} :
    unescaped? p = some c ↔ p = .char c ∧ needsEscape c = false := by
  rw [unescaped?, Option.filter_eq_some_iff, CodePoint.char?_eq_some_iff]
  simp

theorem next?_eq_some_iff : next? ps = some c ↔ ∃ qs, ps = .char c :: qs := by
  cases ps with
  | nil => simp [next?]
  | cons p ps => simp [next?, CodePoint.char?_eq_some_iff]

/-- The rest of a text behind a break next to an escape. If it begins with a space, that stands
behind a backslash of its own. -/
theorem escapedText_behind_break (hi : 0 < indent) (hw : indent < lineWidth)
    (h : next? ps ≠ some ' ' → QuotedReads true (.joined [])
      (escapedText indent isKey indent false true ps ++ '"' :: rest) ps rest)
    (hs : ∀ qs column, ps = .char ' ' :: qs → QuotedReads true .none
      (escapedText indent isKey column false false qs ++ '"' :: rest) qs rest) :
    QuotedReads true .none (escapedBreak indent (next? ps) ++
      (escapedText indent isKey (columnBehindBreak indent (next? ps)) false true ps ++ '"' :: rest))
      ps rest := by
  by_cases hc : next? ps = some ' '
  · obtain ⟨qs, rfl⟩ := next?_eq_some_iff.1 hc
    have hb : ¬ lineWidth < indent + 1 := by omega
    have hu : unescaped? (.char ' ') = some ' ' := by decide
    rw [hc, columnBehindBreak, if_pos rfl, escapedText, hu]
    simp only [hb, decide_false, Bool.and_false, Bool.false_eq_true, if_false]
    exact .escapedBreak_cons hi rfl (hs qs _ rfl)
  · apply QuotedReads.escapedBreak hi
    rw [if_neg hc, columnBehindBreak, if_neg hc]
    exact h hc

/-- A text between double quotes comes back, wherever it was broken. A space that comes first in a
line stands behind a backslash, so none is open behind a line end. -/
theorem escapedText_reads (hi : 0 < indent) (hw : indent < lineWidth)
    (hg : gap = .none ∨ (∃ bs, gap = .blanks bs) ∨ gap = .joined [] ∧ next? ps ≠ some ' ') :
    QuotedReads true gap (escapedText indent isKey column isFirst behindEscape ps ++ '"' :: rest)
      (gap.points ++ ps) rest := by
  -- A break behind an escape takes two characters at once, so the induction is on the length.
  induction hk : ps.length using Nat.strongRecOn
    generalizing ps column isFirst behindEscape gap with
  | ind k ih =>
  cases ps with
  | nil => exact .flush (by decide) (.closeDouble rest)
  | cons p ps =>
    rw [List.length_cons] at hk
    have hps column isFirst behindEscape : QuotedReads true .none
        (escapedText indent isKey column isFirst behindEscape ps ++ '"' :: rest) ps rest :=
      ih ps.length (by omega) (.inl rfl) rfl
    rw [escapedText]
    dsimp only
    cases hu : unescaped? p with
    | none =>
      dsimp only
      split
      · rw [List.append_assoc, List.append_assoc]
        apply QuotedReads.flush (c := '\\') (by decide)
        apply QuotedReads.escaped
        apply escapedText_behind_break hi hw
        · exact fun hs => ih ps.length (by omega) (.inr (.inr ⟨rfl, hs⟩)) rfl
        · rintro qs column rfl
          rw [List.length_cons] at hk
          exact ih qs.length (by omega) (.inl rfl) rfl
      · rw [List.append_assoc]
        exact .flush (c := '\\') (by decide) (.escaped p (hps _ _ _))
    | some c =>
      obtain ⟨rfl, hc⟩ := unescaped?_eq_some_iff.1 hu
      dsimp only
      split
      · rw [List.append_assoc]
        exact .flush (c := '\\') (by decide) (.escapedBreak_cons hi hc (hps _ _ _))
      · by_cases hs : c = ' '
        · subst hs
          apply QuotedReads.space
          rcases hg with rfl | ⟨bs, rfl⟩ | ⟨_, hg⟩
          · exact ih ps.length (by omega) (.inr (.inl ⟨[' '], rfl⟩)) rfl
          · have hr : QuotedReads true (.blanks (bs ++ [' ']))
                (escapedText indent isKey (column + 1) false false ps ++ '"' :: rest)
                ((Gap.blanks (bs ++ [' '])).points ++ ps) rest :=
              ih ps.length (by omega) (.inr (.inl ⟨_, rfl⟩)) rfl
            rwa [Gap.points, Gap.text, List.map_append, List.append_assoc] at hr
          · exact absurd rfl hg
        · have hb : isBlankOrBreak c = false :=
            isBlankOrBreak_of_isInline (isInline_of_not_needsEscape hc) hs
          exact .flush hb (.char_of_not_needsEscape hb hc (hps _ _ _))

end Escaped
end SystemProgram.Yaml
