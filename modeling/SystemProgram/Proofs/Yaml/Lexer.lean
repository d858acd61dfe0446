import SystemProgram.Proofs.Yaml.Plain
import SystemProgram.Proofs.Yaml.Quoted

namespace SystemProgram.Yaml

open Source

theorem Source.length_skipToToken (inComment : Bool) (src : Source) :
    (skipToToken inComment src).2.length ≤ src.length := by
  fun_induction skipToToken inComment src <;> simp_all <;> omega

theorem BeginsLine.skipToToken {cs : List Char} (h : BeginsLine cs) (m : Mark) :
    skipToToken false (ofChars m cs) = (false, ofChars m cs) := by
  cases cs with
  | nil => rfl
  | cons c cs =>
    have hb : isBreak c = false := isBreak_of_isInline h.isInline
    have hm : c ≠ byteOrderMark := ne_of_isInline h.isInline (by decide)
    simp [ofChars, Source.skipToToken, hb, hm, h.ne_space, h.ne_numberSign]

namespace Lexer

/-- Where a line has ended, a key may begin, but not between brackets. -/
def atLine (l : Lexer) (endsLine : Bool) : Lexer :=
  if endsLine && !l.inFlow then { l with keyAllowed := true } else l

/-- A run that ends well, with all its tokens. -/
inductive Runs : Lexer → Source → List Token → Prop
  | done {l l' : Lexer} {src : Source} {endsLine : Bool} :
    skipToToken false src = (endsLine, []) → (l.atLine endsLine).closeDocument = .ok l' →
    Runs l src (l'.push .streamEnd).reversed.reverse
  | step {l l' : Lexer} {src rest behind : Source} {endsLine : Bool} {m : Mark} {c : Char}
    {ts : List Token} :
    skipToToken false src = (endsLine, (m, c) :: rest) →
    (l.atLine endsLine).advance m c rest = .ok (l', behind) → behind.length ≤ rest.length →
    Runs l' behind ts → Runs l src ts

theorem Runs.run_eq {l : Lexer} {src : Source} {ts : List Token} (h : Runs l src ts) :
    l.run src = ts := by
  induction h with
  | done hs hc =>
    rw [atLine] at hc
    rw [run, hs]
    dsimp only
    rw [hc]
  | @step l l' src rest behind endsLine m c ts hs ha hl _ ih =>
    -- A step is taken only if it leaves less than there was.
    have hn : behind.length < src.length := by
      have := length_skipToToken false src
      rw [hs, List.length_cons] at this
      omega
    rw [atLine] at ha
    rw [run, hs]
    dsimp only
    rw [ha]
    dsimp only
    rw [if_pos hn, ih]

theorem Runs.space {l : Lexer} {m : Mark} {cs : List Char} {ts : List Token}
    (h : Runs l (ofChars (m.after ' ') cs) ts) : Runs l (ofChars m (' ' :: cs)) ts := by
  have hs : skipToToken false (ofChars m (' ' :: cs)) =
      skipToToken false (ofChars (m.after ' ') cs) := by
    rw [ofChars, skipToToken, if_neg (by decide), if_pos (by simp)]
  cases h with
  | done h hc => exact .done (hs.trans h) hc
  | step h ha hl hr => exact .step (hs.trans h) ha hl hr

end Lexer

/-- What has been read outside of brackets and behind no beginning of a key. -/
structure Place where
  reversed : List Token
  indent : Int
  outer : List Int

namespace Place

variable {p : Place} {ts us : List Token} {column : Nat} {keyAllowed : Bool}
  {cs : List Char}

def lexer (p : Place) (count : Nat) (keyAllowed : Bool) : Lexer :=
  ⟨p.reversed, count, p.indent, p.outer, keyAllowed, [none]⟩

def emit (p : Place) (ts : List Token) : Place :=
  { p with reversed := ts.reverse ++ p.reversed }

theorem emit_emit (p : Place) (ts us : List Token) : (p.emit ts).emit us = p.emit (ts ++ us) := by
  simp [emit]

/-- From here on text at the given column has the given tokens. -/
def Reads (p : Place) (keyAllowed : Bool) (column : Nat) (cs : List Char) (ts : List Token) :
    Prop :=
  ∀ count m, m.column = column → (p.lexer count keyAllowed).Runs (ofChars m cs) ts

theorem Reads.space (h : p.Reads keyAllowed (column + 1) cs ts) :
    p.Reads keyAllowed column (' ' :: cs) ts := by
  intro count m hm
  apply Lexer.Runs.space
  apply h
  rw [Mark.after_of_isInline (by decide), hm]

theorem Reads.spaces (n : Nat) (h : p.Reads keyAllowed (column + n) cs ts) :
    p.Reads keyAllowed column (spaces n ++ cs) ts := by
  induction n generalizing column with
  | zero => exact h
  | succ n ih =>
    apply Reads.space
    apply ih
    rwa [Nat.add_right_comm]

theorem Reads.newLine {n : Nat} (h : p.Reads true n cs ts) :
    p.Reads keyAllowed column (newLine n ++ cs) ts := by
  have h : p.Reads true 0 (Yaml.spaces n ++ cs) ts := Reads.spaces n (by rwa [Nat.zero_add])
  intro count m hm
  have hr := h count (m.after '\n') rfl
  have hs : skipToToken false (ofChars m (Yaml.newLine n ++ cs)) =
      (true, (skipToToken false (ofChars (m.after '\n') (Yaml.spaces n ++ cs))).2) := by
    change skipToToken false ((m, '\n') :: _) = _
    rw [skipToToken, if_pos (by decide)]
    rfl
  generalize ofChars (m.after '\n') (Yaml.spaces n ++ cs) = src at hr hs
  have hk (endsLine : Bool) :
      (p.lexer count true).atLine endsLine = (p.lexer count keyAllowed).atLine true := by
    cases endsLine <;> rfl
  cases hr with
  | done hn hc =>
    rw [hn] at hs
    rw [hk] at hc
    exact .done hs hc
  | step hn ha hl hr =>
    rw [hn] at hs
    rw [hk] at ha
    exact .step hs ha hl hr

/-- What is left begins with a new line, and has the given tokens from there on. The line is not
indented further than the innermost collection, unless nothing is left. -/
def Resumes (p : Place) (rest : List Char) (ts : List Token) : Prop :=
  ∃ n cs, rest = Yaml.newLine n ++ cs ∧ BeginsLine cs ∧ (cs ≠ [] → (n : Int) ≤ p.indent) ∧
    p.Reads true n cs ts

theorem Resumes.reads {rest : List Char} (h : p.Resumes rest ts) :
    p.Reads keyAllowed column rest ts := by
  obtain ⟨n, cs, rfl, _, _, h⟩ := h
  exact h.newLine

theorem resumes_end (h : p.outer = []) :
    p.Resumes (Yaml.newLine 0) (p.reversed.reverse ++ [.streamEnd]) := by
  refine ⟨0, [], rfl, .nothing, fun hn => absurd rfl hn, fun count m _ => ?_⟩
  have hc : ((p.lexer count true).atLine false).closeDocument = .ok (p.lexer count false) := by
    obtain ⟨R, i, is⟩ := p
    obtain rfl : is = [] := h
    rfl
  have hr : Lexer.Runs (p.lexer count true) [] _ := .done rfl hc
  have hl : ((p.lexer count false).push .streamEnd).reversed.reverse =
      p.reversed.reverse ++ [.streamEnd] := List.reverse_cons
  rwa [hl] at hr

section Close

variable {R : List Token} {i j : Int} {is : List Int} {count : Nat}

theorem unwind_open {column : Int} (h : column < j) :
    (lexer ⟨R, j, i :: is⟩ count keyAllowed).unwind column =
      (lexer ⟨.blockEnd :: R, i, is⟩ (count + 1) keyAllowed).unwind column := by
  change Lexer.unwindFrom column _ (i :: is) = Lexer.unwindFrom column _ is
  rw [Lexer.unwindFrom]
  exact if_pos h

theorem advance_lexer (m : Mark) (c : Char) (src : Source) :
    (p.lexer count keyAllowed).advance m c src =
      ((p.lexer count keyAllowed).unwind m.column).fetch m c src := rfl

/-- Once a collection has ended, it may also be left open before the line that shows its end. -/
theorem Resumes.close {rest : List Char} (h : Resumes ⟨.blockEnd :: R, i, is⟩ rest ts)
    (hi : -1 ≤ i) (hj : i < j) : Resumes ⟨R, j, i :: is⟩ rest ts := by
  obtain ⟨n, cs, rfl, hb, hn, h⟩ := h
  refine ⟨n, cs, rfl, hb, fun hc => (hn hc).trans hj.le, fun count m hm => ?_⟩
  have hr := h (count + 1) m hm
  have hs := hb.skipToToken m
  -- Whatever comes next stands further left, so the first thing that it does is to end this
  -- collection; from then on the two runs are the same.
  have hu {k : Int} (hk : k < j) : (lexer ⟨R, j, i :: is⟩ count true).unwind k =
      (lexer ⟨.blockEnd :: R, i, is⟩ (count + 1) true).unwind k := unwind_open hk
  cases hr with
  | @done _ l' _ _ hd hc =>
    obtain ⟨rfl, _⟩ := Prod.mk.inj (hd.symm.trans hs)
    have hl : (lexer ⟨R, j, i :: is⟩ count true).closeDocument = .ok l' := by
      rw [Lexer.closeDocument, hu (hi.trans_lt hj)]
      exact hc
    exact .done hd hl
  | @step _ l' _ rest behind _ m' c _ hd ha hl hr =>
    obtain ⟨rfl, ht⟩ := Prod.mk.inj (hd.symm.trans hs)
    cases cs with
    | nil => cases ht
    | cons c cs =>
      obtain ⟨rfl, rfl⟩ := Prod.mk.inj (List.cons.inj ht).1
      have hm : (m'.column : Int) < j := by
        have := hn (List.cons_ne_nil c cs)
        dsimp only at this
        omega
      have ha' : (lexer ⟨R, j, i :: is⟩ count true).advance m' c rest = .ok (l', behind) := by
        rw [advance_lexer, hu hm]
        exact ha
      exact .step hd ha' hl hr

end Close

section Tokens

variable {count : Nat} {m : Mark} {c : Char} {w : List Char}

theorem unwind_of_le {l : Lexer} (h : l.indent ≤ column) : l.unwind column = l := by
  have hn : ¬ (column : Int) < l.indent := not_lt.2 h
  unfold Lexer.unwind
  cases l.outer <;> simp [Lexer.unwindFrom, hn]

/-- Reading goes on with the token that begins here. -/
theorem runs_fetch {l : Lexer} {behind : Source} (hi : isInline c = true) (hs : c ≠ ' ')
    (hn : c ≠ '#') (hc : p.indent ≤ m.column)
    (hf : (p.lexer count keyAllowed).fetch m c (ofChars (m.after c) cs) = .ok (l, behind))
    (hl : behind.length ≤ cs.length) (hr : l.Runs behind ts) :
    (p.lexer count keyAllowed).Runs (ofChars m (c :: cs)) ts := by
  have hb : c ≠ byteOrderMark := ne_of_isInline hi (by decide)
  have ht : skipToToken false (ofChars m (c :: cs)) =
      (false, (m, c) :: ofChars (m.after c) cs) := by
    simp [ofChars, Source.skipToToken, isBreak_of_isInline hi, hs, hn, hb]
  have ha : (p.lexer count keyAllowed).advance m c (ofChars (m.after c) cs) = .ok (l, behind) := by
    rw [advance_lexer, unwind_of_le hc]
    exact hf
  have hl : behind.length ≤ (ofChars (m.after c) cs).length := by rwa [length_ofChars]
  exact .step ht ha hl hr

/-- The mark of an item in line with the key of the list. -/
theorem reads_item (hc : p.indent = column)
    (h : (p.emit [.blockEntry]).Reads true (column + 1) (' ' :: cs) ts) :
    p.Reads true column ('-' :: ' ' :: cs) ts := by
  intro count m hm
  subst hm
  have hf : (p.lexer count true).fetch m '-' (ofChars (m.after '-') (' ' :: cs)) =
      .ok ((p.emit [.blockEntry]).lexer (count + 1) true, ofChars (m.after '-') (' ' :: cs)) := by
    have hi : ¬ p.indent < m.column := hc.symm.not_gt
    simp [Lexer.fetch, ofChars, atBorder, atGap, isBlankOrBreak, Lexer.blockMark, lexer,
      Lexer.inFlow, Lexer.indentTo, hi, Lexer.dropKey, Lexer.push, emit]
  exact runs_fetch (by decide) (by decide) (by decide) hc.le hf (length_ofChars ..).le (h _ _ rfl)

/-- An empty list between brackets, as the value of a key. -/
theorem reads_emptyList {rest : List Char} (hc : p.indent < column) (hz : 0 < column)
    (h : (p.emit [.flowSeqStart, .flowSeqEnd]).Resumes rest ts) :
    p.Reads false column ('[' :: ']' :: rest) ts := by
  intro count m hm
  subst hm
  have ho : (p.lexer count false).fetch m '[' (ofChars (m.after '[') (']' :: rest)) =
      .ok (⟨.flowSeqStart :: p.reversed, count + 1, p.indent, p.outer, true, [none, none]⟩,
        ofChars (m.after '[') (']' :: rest)) := by
    simp [Lexer.fetch, ofChars, atBorder, Lexer.openFlow, Lexer.saveKey, lexer, Lexer.push]
    rfl
  have hf : (⟨.flowSeqStart :: p.reversed, count + 1, p.indent, p.outer, true, [none, none]⟩ :
      Lexer).advance (m.after '[') ']' (ofChars ((m.after '[').after ']') rest) =
      .ok ((p.emit [.flowSeqStart, .flowSeqEnd]).lexer (count + 2) false,
        ofChars ((m.after '[').after ']') rest) := by
    simp [Lexer.advance, Lexer.dropStale, Lexer.unwind, Lexer.inFlow, Lexer.fetch, atBorder,
      Lexer.closeFlow, Lexer.dropKey, Lexer.push, emit, lexer]
    rfl
  refine runs_fetch (by decide) (by decide) (by decide) hc.le ho (length_ofChars ..).le ?_
  exact .step rfl hf le_rfl (h.reads _ _ rfl)

/-- A plain scalar begins here, if the line is not the border of a document. -/
theorem fetch_plain {l : Lexer} {behind : Source} {endsLine : Bool} (hf : l.inFlow = false)
    (hb : isBlankOrBreak c = false) (hs : startMarks.contains c = false)
    (hm : c = '?' ∨ c = ':' ∨ c = '-' → atGap (ofChars (m.after c) cs) = false)
    (hd : m.column = 0 → atBorder (ofChars m (c :: cs)) = false)
    (ht : plainScalar false (l.indent + 1) (ofChars m (c :: cs)) = (w, behind, endsLine)) :
    l.fetch m c (ofChars (m.after c) cs) = (do
      let l ← l.contentToken m (.scalar w true)
      return ({ l with keyAllowed := endsLine }, behind)) := by
  simp only [startMarks, List.contains_cons, Bool.or_eq_false_iff, beq_eq_false_iff_ne] at hs
  rw [ofChars] at ht hd
  have hp : l.plainBegins c (ofChars (m.after c) cs) = true := by
    by_cases hc : c = '?' ∨ c = ':' ∨ c = '-'
    · have hg := hm hc
      rcases hc with rfl | rfl | rfl <;> simp [Lexer.plainBegins, hg, hf]
    · simp only [not_or] at hc
      simp [Lexer.plainBegins, Lexer.indicators, hb, hs, hc]
  -- None of the marks that need a gap behind them is meant here, nor the border of a document.
  have hn {d : Char} (hd : d = '?' ∨ d = ':' ∨ d = '-') :
      ¬ (c = d ∧ atGap (ofChars (m.after c) cs) = true) := by
    rintro ⟨rfl, hg⟩
    exact Bool.false_ne_true ((hm hd).symm.trans hg)
  have hd : ¬ (m.column = 0 ∧ atBorder ((m, c) :: ofChars (m.after c) cs) = true) := by
    rintro ⟨hz, hb⟩
    exact Bool.false_ne_true ((hd hz).symm.trans hb)
  simp [Lexer.fetch, hs, hf, ht, hp, hd, hn (d := '?'), hn (d := ':'), hn (d := '-')]

theorem gap_behind_mark {t : List Char} {indent n : Nat} {isKey : Bool}
    (hi : ∀ c ∈ t, isInline c = true) (hg : gapFollows t = false) (m : Mark) (rest : List Char) :
    atGap (ofChars m (foldedText indent isKey false n (some c) t ++ rest)) = false := by
  cases t with
  | nil => cases hg
  | cons d t =>
    have hd : d ≠ ' ' := by
      rintro rfl
      cases hg
    rw [foldedText_cons (hi d (.head _)) hd]
    exact hg

/-- A scalar without quotes, as the value of a key at column `j`. -/
theorem reads_plain {j indent n : Nat} {t rest : List Char} (hp : p.indent = j) (hj : j < column)
    (hi : j < indent) (ha : plainAllowed t = true) (hn : t ≠ [])
    (h : (p.emit [.scalar t true]).Resumes rest ts) :
    p.Reads false column (foldedText indent false false n none t ++ rest) ts := by
  obtain ⟨k, xs, rfl, hx, hk, h⟩ := h
  obtain ⟨hl, _, _, hm, _⟩ := plainAllowed_eq_true ha
  have ht := isPlainText_of_plainAllowed ha hn
  have hk : xs ≠ [] → k ≤ j := fun hx => Int.ofNat_le.1 ((hk hx).trans hp.le)
  intro count m hc
  obtain ⟨m', hm', hr⟩ := foldedText_plain ht hi hx hk (hc ▸ hj : j < m.column) n none
  obtain ⟨c, cs, rfl, hcl, hs, hb⟩ := ht.exists_cons
  rw [foldedText_cons hcl hs, List.cons_append, ← hp] at hr
  rw [foldedText_cons hcl hs, List.cons_append]
  have hf : (p.lexer count false).fetch m c _ = .ok ((p.emit [.scalar (c :: cs) true]).lexer
      (count + 1) true, _) := fetch_plain rfl (isBlankOrBreak_of_isInline hcl hs) ?_ ?_ ?_ hr
  · have hlen : (ofChars m' xs).length ≤
        (foldedText indent false false (n + 1) (some c) cs ++ (Yaml.newLine k ++ xs)).length := by
      simp only [length_ofChars, List.length_append]
      omega
    exact runs_fetch hcl hs hb (by omega) hf hlen (h _ _ hm')
  · exact (startsWithMark_cons hm).1
  · exact fun hc => gap_behind_mark (fun d hd => hl d (.tail c hd))
      ((startsWithMark_cons hm).2 hc) _ _
  · omega

/-- A scalar between quotes begins here. -/
theorem fetch_quoted {l : Lexer} {src behind : Source} {t : Text} (hc : c = '\'' ∨ c = '"')
    (h : quotedScalar (c = '"') .none src = .ok (t.points, behind)) :
    l.fetch m c src = (do return (← l.contentToken m (.scalar t false), behind)) := by
  rw [← t.ofPoints_points]
  rcases hc with rfl | rfl
  · have h : quotedScalar false .none src = .ok (t.points, behind) := h
    simp [Lexer.fetch, atBorder, h]
    rfl
  · have h : quotedScalar true .none src = .ok (t.points, behind) := h
    simp [Lexer.fetch, atBorder, h]
    rfl

/-- A scalar between quotes, as the value of a key. -/
theorem reads_quoted {q : Char} {body rest : List Char} {t : Text} (hq : q = '\'' ∨ q = '"')
    (hc : p.indent ≤ column) (hr : QuotedReads (q = '"') .none (body ++ q :: rest) t.points rest)
    (h : (p.emit [.scalar t false]).Resumes rest ts) :
    p.Reads false column (q :: (body ++ q :: rest)) ts := by
  intro count m hm
  subst hm
  obtain ⟨m', hr⟩ := hr (m.after q)
  have hl : (ofChars m' rest).length ≤ (body ++ q :: rest).length := by
    rw [length_ofChars, List.length_append, List.length_cons]
    omega
  have hf : (p.lexer count false).fetch m q (ofChars (m.after q) (body ++ q :: rest)) =
      .ok ((p.emit [.scalar t false]).lexer (count + 1) false, ofChars m' rest) :=
    fetch_quoted hq hr
  have hi : isInline q = true ∧ q ≠ ' ' ∧ q ≠ '#' := by
    rcases hq with rfl | rfl <;> decide
  exact runs_fetch hi.1 hi.2.1 hi.2.2 hc hf hl (h.reads _ _ rfl)

/-- The place behind the beginning of a map at the given column, unless it has begun before. -/
def openMap (p : Place) (column : Nat) : Place :=
  if p.indent < column then ⟨.blockMapStart :: p.reversed, column, p.indent :: p.outer⟩ else p

def wordLexer (p : Place) (count : Nat) (m : Mark) (w : List Char) : Lexer :=
  ⟨.scalar w true :: p.reversed, count + 1, p.indent, p.outer, false,
    [some ⟨count, p.indent = m.column, m⟩]⟩

theorem fetch_word (hw : IsKeyWord (c :: w)) (hg : ∀ m, atGap (ofChars m cs) = true) :
    (p.lexer count true).fetch m c (ofChars (m.after c) (w ++ ':' :: cs)) =
      .ok (p.wordLexer count m (c :: w), ofChars (m.behind (c :: w)) (':' :: cs)) := by
  have hc := hw.isWordChar c (.head w)
  have hne {d : Char} (hd : isWordChar d = false) : c ≠ d := ne_of_isWordChar hc hd
  refine (fetch_plain rfl ?_ ?_ ?_ ?_ (plainScalar_key hw.isPlainWord hg (p.indent + 1))).trans ?_
  · exact isBlankOrBreak_of_isInline (isInline_of_isWordChar hc) (hne (by decide))
  · by_contra hs
    rw [Bool.not_eq_false, List.contains_iff_mem] at hs
    have hm : startMarks.any isWordChar = false := by decide
    exact List.any_eq_false.1 hm c hs hc
  · rintro (rfl | rfl | rfl)
    · cases hc
    · cases hc
    · cases hc
  · exact fun _ => atBorder_of_head (hne (by decide)) (hne (by decide))
  · rfl

/-- The colon puts the tokens of the key, and of a new map, in front of the word. -/
theorem valueMark_wordLexer (p : Place) (count : Nat) (m m' : Mark) (w : List Char) :
    ∃ n, (p.wordLexer count m w).valueMark m' =
      .ok (((p.openMap m.column).emit [.key, .scalar w true, .value]).lexer n false) := by
  by_cases hi : p.indent < m.column
  · refine ⟨count + 4, ?_⟩
    have hn : count + 1 + 1 - count = 2 := by omega
    rw [openMap, if_pos hi]
    simp [Lexer.valueMark, wordLexer, Lexer.inFlow, Lexer.insert, Lexer.indentTo, Lexer.push, hi,
      hn]
    rfl
  · refine ⟨count + 3, ?_⟩
    rw [openMap, if_neg hi]
    simp [Lexer.valueMark, wordLexer, Lexer.inFlow, Lexer.insert, Lexer.indentTo, Lexer.push, hi]
    rfl

theorem runs_colon (hw : IsKeyWord w) (hc : p.indent ≤ m.column)
    (hg : ∀ m, atGap (ofChars m cs) = true)
    (h : ((p.openMap m.column).emit [.key, .scalar w true, .value]).Reads false
      (m.column + w.length + 1) cs ts) :
    (p.wordLexer count m w).Runs (ofChars (m.behind w) (':' :: cs)) ts := by
  have hb : m.behind w = ⟨m.index + w.length, m.line, m.column + w.length⟩ :=
    Mark.behind_of_isInline hw.isPlainWord.isInline m
  have hl : w.length ≤ 1024 := hw.length_le.trans (by decide)
  have hs : Lexer.isStale (m.behind w) ⟨count, p.indent = m.column, m⟩ = false := by
    simp [Lexer.isStale, hb, hl]
  have hd : (p.wordLexer count m w).dropStale (m.behind w) = .ok (p.wordLexer count m w) := by
    simp [Lexer.dropStale, wordLexer, hs]
  have hu : (p.wordLexer count m w).unwind (m.behind w).column = p.wordLexer count m w := by
    apply unwind_of_le
    rw [hb]
    change p.indent ≤ ((m.column + w.length : Nat) : Int)
    omega
  obtain ⟨n, hv⟩ := valueMark_wordLexer p count m (m.behind w) w
  have hf : (p.wordLexer count m w).advance (m.behind w) ':' (ofChars ((m.behind w).after ':') cs) =
      .ok (((p.openMap m.column).emit [.key, .scalar w true, .value]).lexer n false,
        ofChars ((m.behind w).after ':') cs) := by
    rw [Lexer.advance, hd]
    change Lexer.fetch ((p.wordLexer count m w).unwind _) _ _ _ = _
    rw [hu]
    simp [Lexer.fetch, hg, atBorder, hv]
  exact .step rfl hf le_rfl (h _ _ (by rw [hb]; rfl))

/-- A word and the colon that shows that it is a key. -/
theorem reads_key (hw : IsKeyWord w) (hc : p.indent ≤ column)
    (hg : ∀ m, atGap (ofChars m cs) = true)
    (h : ((p.openMap column).emit [.key, .scalar w true, .value]).Reads false
      (column + w.length + 1) cs ts) :
    p.Reads true column (w ++ ':' :: cs) ts := by
  intro count m hm
  subst hm
  cases w with
  | nil => exact absurd rfl hw.ne_nil
  | cons c w =>
    have hi := isInline_of_isWordChar (hw.isWordChar c (.head w))
    have hl : (ofChars (m.behind (c :: w)) (':' :: cs)).length ≤ (w ++ ':' :: cs).length := by
      rw [length_ofChars, List.length_append]
      exact Nat.le_add_left ..
    exact runs_fetch hi (hw.isPlainWord.ne_space c (.head w))
      (ne_of_isWordChar (hw.isWordChar c (.head w)) (by decide)) hc (fetch_word hw hg) hl
      (runs_colon hw hc hg h)

end Tokens
end Place
end SystemProgram.Yaml
