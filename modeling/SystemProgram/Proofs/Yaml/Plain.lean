import SystemProgram.Proofs.Yaml.Source

namespace SystemProgram.Yaml

open Source

structure IsPlainWord (w : List Char) : Prop where
  ne_nil : w ≠ []
  isInline : ∀ c ∈ w, isInline c = true
  ne_space : ∀ c ∈ w, c ≠ ' '
  head_ne : w.head? ≠ some '#'
  last_ne : w.getLast? ≠ some ':'

theorem IsKeyWord.isPlainWord {w : List Char} (h : IsKeyWord w) : IsPlainWord w where
  ne_nil := h.ne_nil
  isInline c hc := isInline_of_isWordChar (h.isWordChar c hc)
  ne_space c hc := ne_of_isWordChar (h.isWordChar c hc) (by decide)
  head_ne hc := ne_of_isWordChar (h.isWordChar _ (List.mem_of_mem_head? hc)) (by decide) rfl
  last_ne hc := ne_of_isWordChar (h.isWordChar _ (List.mem_of_getLast? hc)) (by decide) rfl

/-- Words with spaces between them. -/
inductive IsPlainText : List Char → Prop
  | word {w} : IsPlainWord w → IsPlainText w
  | cons {w t} (n) : IsPlainWord w → IsPlainText t → IsPlainText (w ++ (spaces (n + 1) ++ t))

namespace IsPlainText

theorem exists_cons {t : List Char} (h : IsPlainText t) :
    ∃ c cs, t = c :: cs ∧ isInline c = true ∧ c ≠ ' ' ∧ c ≠ '#' := by
  have hw : ∀ {w : List Char} (u : List Char), IsPlainWord w →
      ∃ c cs, w ++ u = c :: cs ∧ Yaml.isInline c = true ∧ c ≠ ' ' ∧ c ≠ '#' := by
    intro w u hw
    cases w with
    | nil => exact absurd rfl hw.ne_nil
    | cons c w =>
      exact ⟨c, w ++ u, rfl, hw.isInline c (.head _), hw.ne_space c (.head _),
        fun hc => hw.head_ne (congrArg some hc)⟩
  cases h with
  | word h =>
    have hr := hw [] h
    rwa [List.append_nil] at hr
  | cons n h _ => exact hw _ h

end IsPlainText

/-- What may follow a word: nothing, or spaces and more words. -/
def FollowsWord (r : List Char) : Prop :=
  r = [] ∨ ∃ n u, r = spaces (n + 1) ++ u ∧ IsPlainText u

theorem IsPlainWord.append {w r : List Char} (h : IsPlainWord w) (hr : FollowsWord r) :
    IsPlainText (w ++ r) := by
  rcases hr with rfl | ⟨n, u, rfl, hu⟩
  · rw [List.append_nil]
    exact .word h
  · exact .cons n h hu

theorem gapFollows_of_followsWord {r : List Char} (h : FollowsWord r) : gapFollows r = true := by
  rcases h with rfl | ⟨n, u, rfl, _⟩
  · rfl
  · rfl

theorem getLast?_ne_of_cons {c d : Char} {cs : List Char} (h : (c :: cs).getLast? ≠ some d) :
    cs.getLast? ≠ some d := by
  cases cs with
  | nil => simp
  | cons e cs => rwa [List.getLast?_cons_cons] at h

/-- The rest of a text that may be written plain begins with the rest of a word. -/
theorem exists_word {t : List Char} {behindGap : Bool} (hi : ∀ c ∈ t, isInline c = true)
    (hl : t.getLast? ≠ some ' ') (hm : hasMarks behindGap t = false) :
    ∃ w r, t = w ++ r ∧ (∀ c ∈ w, c ≠ ' ') ∧ (behindGap = true → w.head? ≠ some '#') ∧
      w.getLast? ≠ some ':' ∧ FollowsWord r := by
  induction t generalizing behindGap with
  | nil => exact ⟨[], [], rfl, by simp, by simp, by simp, .inl rfl⟩
  | cons c t ih =>
    obtain ⟨_, ht⟩ := List.forall_mem_cons.1 hi
    simp only [hasMarks, Bool.or_eq_false_iff] at hm
    obtain ⟨⟨hcolon, hsign⟩, hm⟩ := hm
    obtain ⟨w, r, rfl, hw, hh, hv, hr⟩ := ih ht (getLast?_ne_of_cons hl) hm
    by_cases hs : c = ' '
    · subst hs
      refine ⟨[], ' ' :: (w ++ r), rfl, by simp, by simp, by simp, .inr ?_⟩
      cases w with
      | nil =>
        rcases hr with rfl | ⟨n, u, rfl, hu⟩
        · exact absurd rfl hl
        · exact ⟨n + 1, u, rfl, hu⟩
      | cons d w =>
        have hw : IsPlainWord (d :: w) :=
          ⟨by simp, fun e he => ht e (List.mem_append_left r he), hw, hh rfl, hv⟩
        exact ⟨0, d :: w ++ r, rfl, hw.append hr⟩
    · refine ⟨c :: w, r, rfl, List.forall_mem_cons.2 ⟨hs, hw⟩, ?_, ?_, hr⟩
      · rintro rfl hc
        simp [Option.some.inj hc] at hsign
      · cases w with
        | nil =>
          rintro hc
          obtain rfl : c = ':' := Option.some.inj hc
          simp [gapFollows_of_followsWord hr] at hcolon
        | cons d w => rwa [List.getLast?_cons_cons]

theorem plainAllowed_eq_true {t : List Char} (h : plainAllowed t = true) :
    (∀ c ∈ t, isInline c = true) ∧ t.head? ≠ some ' ' ∧ t.getLast? ≠ some ' ' ∧
      startsWithMark t = false ∧ hasMarks true t = false := by
  simp only [plainAllowed, Bool.and_eq_true, Bool.not_eq_true', bne_iff_ne] at h
  obtain ⟨⟨⟨⟨⟨hs, hn⟩, hh⟩, hl⟩, hb⟩, hm⟩ := h
  refine ⟨fun c hc => isInline_of_not_isSpecial ?_ ?_, hh, hl, hb, hm⟩
  · rw [List.any_eq_false] at hs
    simpa using hs c hc
  · rintro rfl
    simp [hc] at hn

theorem hasMarks_of_forall {t : List Char} {behindGap : Bool} (hc : ∀ c ∈ t, c ≠ ':')
    (hn : ∀ c ∈ t, c ≠ '#') : hasMarks behindGap t = false := by
  induction t generalizing behindGap with
  | nil => rfl
  | cons c t ih =>
    have ht : hasMarks (isBlankOrBreak c) t = false :=
      ih (fun d hd => hc d (.tail c hd)) fun d hd => hn d (.tail c hd)
    simp [hasMarks, hc c (.head t), hn c (.head t), ht]

/-- Text without blanks, points and indicators may be written plain. -/
theorem plainAllowed_of_forall {t : List Char} (hi : ∀ c ∈ t, isInline c = true)
    (hs : ∀ c ∈ t, c ≠ ' ' ∧ c ≠ '.') (hm : ∀ c ∈ t, c ∉ Lexer.indicators) :
    plainAllowed t = true := by
  have hne {d : Char} (hd : d ∈ Lexer.indicators) : ∀ c ∈ t, c ≠ d := by
    rintro c hc rfl
    exact hm c hc hd
  have hspecial : t.any isSpecial = false := by
    rw [List.any_eq_false]
    intro c hc
    have := hi c hc
    simp only [isInline] at this
    simp [isSpecial, this]
  have hbreak : '\n' ∉ t := fun h => absurd (hi _ h) (by decide)
  have hmarks : hasMarks true t = false :=
    hasMarks_of_forall (hne (by decide)) (hne (by decide))
  have hstart : startsWithMark t = false := by
    cases t with
    | nil => rfl
    | cons c t =>
      have hc := hm c (.head t)
      simp [Lexer.indicators] at hc
      have hp := (hs c (.head t)).2
      unfold startsWithMark
      split <;> simp_all [startMarks]
  have hhead : t.head? ≠ some ' ' := fun h => (hs _ (List.mem_of_mem_head? h)).1 rfl
  have hlast : t.getLast? ≠ some ' ' := fun h => (hs _ (List.mem_of_getLast? h)).1 rfl
  simp [plainAllowed, hspecial, hbreak, hmarks, hstart, hhead, hlast]

theorem startsWithMark_cons {c : Char} {cs : List Char} (h : startsWithMark (c :: cs) = false) :
    startMarks.contains c = false ∧ (c = '?' ∨ c = ':' ∨ c = '-' → gapFollows cs = false) := by
  unfold startsWithMark at h
  split at h
  · cases h
  · cases h
  · next he =>
    obtain ⟨rfl, rfl⟩ := List.cons.inj he
    simp only [Bool.or_eq_false_iff, Bool.and_eq_false_iff, decide_eq_false_iff_not] at h
    refine ⟨h.1, fun hc => ?_⟩
    rcases hc with rfl | rfl | rfl <;> simpa using h.2
  · next he => cases he

theorem isPlainText_of_plainAllowed {t : List Char} (h : plainAllowed t = true) (hn : t ≠ []) :
    IsPlainText t := by
  obtain ⟨hi, hh, hl, _, hm⟩ := plainAllowed_eq_true h
  obtain ⟨w, r, rfl, hw, hs, hv, hr⟩ := exists_word hi hl hm
  refine IsPlainWord.append ⟨?_, fun c hc => hi c (List.mem_append_left r hc), hw, hs rfl, hv⟩ hr
  rintro rfl
  rcases hr with rfl | ⟨n, u, rfl, _⟩
  · exact hn rfl
  · exact hh rfl

section Writing

variable {indent column n : Nat} {isKey : Bool} {previous : Option Char} {c d : Char}
  {cs w t : List Char}

theorem foldedText_cons (hc : isInline c = true) (hs : c ≠ ' ') :
    foldedText indent isKey false column previous (c :: cs) =
      c :: foldedText indent isKey false (column + 1) (some c) cs := by
  rw [foldedText, if_neg hs, if_neg (ne_of_isInline hc (by decide))]
  rfl

theorem foldedText_word (h : IsPlainWord w) (t : List Char) :
    ∃ column' d, foldedText indent isKey false column previous (w ++ t) =
      w ++ foldedText indent isKey false column' (some d) t := by
  obtain ⟨hn, hi, hs, _, _⟩ := h
  clear * - hn hi hs
  induction w generalizing column previous with
  | nil => exact absurd rfl hn
  | cons c w ih =>
    obtain ⟨hc, hw⟩ := List.forall_mem_cons.1 hi
    obtain ⟨hb, hv⟩ := List.forall_mem_cons.1 hs
    rw [List.cons_append, foldedText_cons hc hb]
    cases w with
    | nil => exact ⟨column + 1, c, rfl⟩
    | cons d w =>
      obtain ⟨column', e, hr⟩ := ih (List.cons_ne_nil d w) hw hv
      exact ⟨column', e, congrArg (c :: ·) hr⟩

theorem foldedText_spaces (column n : Nat) (t : List Char) :
    foldedText indent isKey false column (some ' ') (spaces n ++ t) =
      spaces n ++ foldedText indent isKey false (column + n) (some ' ') t := by
  induction n generalizing column with
  | zero => rfl
  | succ n ih =>
    have hr := ih (column + 1)
    rw [Nat.add_right_comm, Nat.add_assoc] at hr
    change foldedText _ _ _ _ _ (' ' :: (spaces n ++ t)) = ' ' :: (spaces n ++ _)
    rw [foldedText, if_pos rfl, ← hr]
    simp

/-- A gap is written as it is, or as a new line if it is one space. -/
theorem foldedText_gap (t : List Char) :
    ∃ column' gap, (gap = spaces (n + 1) ∨ n = 0 ∧ gap = newLine indent) ∧
      foldedText indent isKey false column (some d) (spaces (n + 1) ++ t) =
        gap ++ foldedText indent isKey false column' (some ' ') t := by
  change ∃ column' gap, _ ∧ foldedText _ _ _ _ _ (' ' :: (spaces n ++ t)) = _
  rw [foldedText, if_pos rfl]
  dsimp only
  split
  · next hb =>
    simp only [Bool.and_eq_true, bne_iff_ne] at hb
    obtain ⟨⟨⟨_, hb⟩, _⟩, _⟩ := hb
    cases n with
    | zero => exact ⟨indent, newLine indent, .inr ⟨rfl, rfl⟩, rfl⟩
    | succ n => exact absurd rfl hb
  · exact ⟨column + 1 + n, spaces (n + 1), .inl rfl,
      congrArg (' ' :: ·) (foldedText_spaces (column + 1) n t)⟩

end Writing

section Reading

variable {m : Mark} {c : Char} {cs w t xs : List Char} {n : Nat}

theorem plainChunk_append (hi : ∀ c ∈ w, isInline c = true) (hs : ∀ c ∈ w, c ≠ ' ')
    (hl : w.getLast? ≠ some ':') (hx : ∀ m, plainStops false (ofChars m cs) = true) :
    plainChunk false (ofChars m (w ++ cs)) = (w, ofChars (m.behind w) cs) := by
  induction w generalizing m with
  | nil =>
    have hx := hx m
    rw [List.nil_append, Mark.behind_nil]
    cases cs with
    | nil => rfl
    | cons c cs =>
      rw [ofChars] at hx ⊢
      rw [plainChunk, if_pos hx]
  | cons c w ih =>
    obtain ⟨hc, hw⟩ := List.forall_mem_cons.1 hi
    obtain ⟨hb, hv⟩ := List.forall_mem_cons.1 hs
    -- A colon inside a word has no gap behind it.
    have hg : c = ':' → atGap (ofChars (m.after c) (w ++ cs)) = false := by
      rintro rfl
      cases w with
      | nil => exact absurd rfl hl
      | cons d w => exact isBlankOrBreak_of_isInline (hw d (.head _)) (hv d (.head _))
    have hp : plainStops false (ofChars m (c :: (w ++ cs))) = false := by
      rw [ofChars, plainStops, isBlankOrBreak_of_isInline hc hb]
      simpa using hg
    rw [List.cons_append]
    rw [ofChars] at hp ⊢
    rw [plainChunk, hp, if_neg Bool.false_ne_true, ih hw hv (getLast?_ne_of_cons hl)]
    rfl

theorem plainChunk_word (h : IsPlainWord w) (hx : ∀ m, plainStops false (ofChars m cs) = true) :
    plainChunk false (ofChars m (w ++ cs)) = (w, ofChars (m.behind w) cs) :=
  plainChunk_append h.isInline h.ne_space h.last_ne hx

theorem word_begins (h : IsPlainWord w) (m : Mark) (cs : List Char) :
    (w.isEmpty || atAny ['#'] (ofChars m (w ++ cs))) = false := by
  cases w with
  | nil => exact absurd rfl h.ne_nil
  | cons c w =>
    have hc : c ≠ '#' := fun hc => h.head_ne (congrArg some hc)
    rw [List.cons_append, ofChars, atAny]
    simpa using hc

theorem takeWhile_spaces (hc : c ≠ ' ') (n : Nat) (m : Mark) :
    chars ((ofChars m (spaces n ++ c :: cs)).takeWhile fun p => p.2 = ' ') = spaces n := by
  induction n generalizing m with
  | zero => simp [spaces, ofChars, hc, chars]
  | succ n ih => exact congrArg (' ' :: ·) (ih (m.after ' '))

theorem skipSpaces_spaces (hc : c ≠ ' ') (n : Nat) (m : Mark) :
    skipSpaces (ofChars m (spaces n ++ c :: cs)) = ofChars (m.behind (spaces n)) (c :: cs) := by
  induction n generalizing m with
  | zero => simp [spaces, ofChars, skipSpaces, hc]
  | succ n ih => exact ih (m.after ' ')

def goesOnAt (indent : Int) : Source → Bool
  | [] => false
  | (m, c) :: rest =>
    c ≠ '#' && decide (indent ≤ m.column) && !(m.column = 0 && atBorder ((m, c) :: rest))

/-- A word and what comes behind the gap that follows it. -/
theorem plainScalar_word {breaks : List Char} {next : Source} {indent : Int} (h : IsPlainWord w)
    (hc : c ≠ ' ') (hx : ∀ m, plainStops false (ofChars m (spaces n ++ c :: cs)) = true)
    (hb : (if isBreak c then plainBreaks (ofChars ((m.behind w).behind (spaces n)) (c :: cs))
      else ([], ofChars ((m.behind w).behind (spaces n)) (c :: cs))) = (breaks, next))
    (hl : next.length ≤ (spaces n ++ c :: cs).length) :
    plainScalar false indent (ofChars m (w ++ (spaces n ++ c :: cs))) =
      let gap := if !breaks.isEmpty then foldBreaks breaks else spaces n
      if gap.isEmpty || !goesOnAt indent next then (w, next, !breaks.isEmpty)
      else
        let (more, rest, last) := plainScalar false indent next
        if more.isEmpty then (w, next, !breaks.isEmpty) else (w ++ gap ++ more, rest, last) := by
  have hl : next.length < (ofChars m (w ++ (spaces n ++ c :: cs))).length := by
    have hw := List.length_pos_iff.2 h.ne_nil
    rw [length_ofChars, List.length_append]
    omega
  rw [plainScalar.eq_def, plainChunk_word h hx]
  dsimp only
  rw [word_begins h, if_neg Bool.false_ne_true, takeWhile_spaces hc, skipSpaces_spaces hc, ofChars]
  dsimp only
  rw [ofChars] at hb
  simp only [hb, if_pos hl]
  cases next <;> rfl

/-- A word alone, before the colon that makes it a key. -/
theorem plainScalar_key (h : IsPlainWord w) (hg : ∀ m, atGap (ofChars m cs) = true) (indent : Int) :
    plainScalar false indent (ofChars m (w ++ ':' :: cs)) =
      (w, ofChars (m.behind w) (':' :: cs), false) := by
  have hp : ∀ m, plainStops false (ofChars m (':' :: cs)) = true := by
    intro m
    rw [ofChars, plainStops, hg]
    rfl
  exact plainScalar_word h (n := 0) (by decide) hp rfl (length_ofChars ..).le

theorem plainBreaks_spaces (hx : StartsText xs) (n : Nat) (m : Mark) :
    plainBreaks (ofChars m (spaces n ++ xs)) = ([], ofChars (m.behind (spaces n)) xs) := by
  induction n generalizing m with
  | zero =>
    cases xs with
    | nil => rfl
    | cons c cs =>
      obtain ⟨hs, hb⟩ := hx c cs rfl
      change plainBreaks ((m, c) :: _) = ([], (m, c) :: _)
      rw [plainBreaks, if_neg hs, hb, if_neg Bool.false_ne_true]
      rfl
  | succ n ih => exact ih (m.after ' ')

theorem plainBreaks_newLine (hx : StartsText xs)
    (hb : ∀ m, atBorder (ofChars m (spaces n ++ xs)) = false) (m : Mark) :
    plainBreaks (ofChars m (newLine n ++ xs)) = (['\n'], ofChars (m.behind (newLine n)) xs) := by
  change plainBreaks ((m, '\n') :: ofChars (m.after '\n') (spaces n ++ xs)) = _
  rw [plainBreaks, if_neg (by decide), if_pos (by decide), hb, if_neg Bool.false_ne_true,
    plainBreaks_spaces hx]
  rfl

/-- What a scalar is interrupted by before `xs`, what that stands for, and whether a line ends. -/
inductive Interrupts (xs : List Char) : List Char → List Char → Bool → Prop
  | blanks (n : Nat) : xs ≠ [] → Interrupts xs (spaces (n + 1)) (spaces (n + 1)) false
  | line (n : Nat) : (∀ m, atBorder (ofChars m (spaces n ++ xs)) = false) →
    Interrupts xs (newLine n) [' '] true

/-- A word, the gap behind it, and the text from there on. -/
theorem plainScalar_gap {gap text : List Char} {endsLine : Bool} {indent : Int}
    (h : IsPlainWord w) (hx : StartsText xs) (hg : Interrupts xs gap text endsLine) :
    plainScalar false indent (ofChars m (w ++ (gap ++ xs))) =
      let next := ofChars ((m.behind w).behind gap) xs
      if !goesOnAt indent next then (w, next, endsLine)
      else
        let (more, rest, last) := plainScalar false indent next
        if more.isEmpty then (w, next, endsLine) else (w ++ text ++ more, rest, last) := by
  have hl : (ofChars ((m.behind w).behind gap) xs).length ≤ (gap ++ xs).length := by
    rw [length_ofChars, List.length_append]
    exact Nat.le_add_left ..
  cases hg with
  | line n hb =>
    have hp := plainBreaks_newLine hx hb (m.behind w)
    exact plainScalar_word h (n := 0) (c := '\n') (by decide) (fun _ => rfl) hp hl
  | blanks n hn =>
    cases xs with
    | nil => exact absurd rfl hn
    | cons c cs =>
      obtain ⟨hs, hc⟩ := hx c cs rfl
      exact plainScalar_word h hs (fun _ => rfl) (if_neg (by rw [hc]; decide)) hl

/-- The last word of a scalar in a collection at column `j`. -/
theorem plainScalar_last {j : Nat} (h : IsPlainWord w) (hx : BeginsLine xs) (hn : xs ≠ [] → n ≤ j)
    (m : Mark) :
    plainScalar false (j + 1) (ofChars m (w ++ (newLine n ++ xs))) =
      (w, ofChars ((m.behind w).behind (newLine n)) xs, true) := by
  have hg : goesOnAt (j + 1) (ofChars ((m.behind w).behind (newLine n)) xs) = false := by
    cases xs with
    | nil => rfl
    | cons c cs =>
      have hj := hn (List.cons_ne_nil c cs)
      have hc : ¬ (j : Int) + 1 ≤ n := by omega
      simp [ofChars, goesOnAt, Mark.column_behind_newLine, hc]
  rw [plainScalar_gap h hx.startsText (.line n (hx.not_atBorder_spaces n))]
  dsimp only
  rw [hg]
  rfl

theorem goesOnAt_of_lt {j : Nat} (hm : j < m.column) (hc : c ≠ '#') (cs : List Char) :
    goesOnAt (j + 1) (ofChars m (c :: cs)) = true := by
  have hi : (j : Int) + 1 ≤ m.column := by omega
  have hz : m.column ≠ 0 := by omega
  simp [ofChars, goesOnAt, hc, hi, hz]

/-- A word before a gap from which the scalar goes on further in than column `j`. -/
theorem plainScalar_more {j : Nat} {gap text : List Char} {endsLine last : Bool} {rest : Source}
    (h : IsPlainWord w) (hc : isInline c = true) (hs : c ≠ ' ') (hn : c ≠ '#')
    (hg : Interrupts (c :: cs) gap text endsLine) (hm : j < ((m.behind w).behind gap).column)
    (hr : plainScalar false (j + 1) (ofChars ((m.behind w).behind gap) (c :: cs)) = (t, rest, last))
    (ht : t ≠ []) :
    plainScalar false (j + 1) (ofChars m (w ++ (gap ++ c :: cs))) =
      (w ++ (text ++ t), rest, last) := by
  have hx : StartsText (c :: cs) := by
    intro d ds hd
    obtain ⟨rfl, rfl⟩ := List.cons.inj hd
    exact ⟨hs, isBreak_of_isInline hc⟩
  rw [plainScalar_gap h hx hg]
  dsimp only
  rw [goesOnAt_of_lt hm hn, hr, List.append_assoc]
  have ht : ¬ t.isEmpty = true := by rwa [List.isEmpty_iff]
  exact if_neg ht

/-- A text without quotes in a collection at column `j` comes back, up to the line behind it. -/
theorem foldedText_plain {indent j : Nat} {isKey : Bool} (h : IsPlainText t) (hi : j < indent)
    (hx : BeginsLine xs) (hn : xs ≠ [] → n ≤ j) (hm : j < m.column) (column : Nat)
    (previous : Option Char) :
    ∃ m', m'.column = n ∧ plainScalar false (j + 1)
      (ofChars m (foldedText indent isKey false column previous t ++ (newLine n ++ xs))) =
        (t, ofChars m' xs, true) := by
  induction h generalizing m column previous with
  | @word w h =>
    obtain ⟨_, d, hf⟩ := foldedText_word h []
    rw [List.append_nil] at hf
    rw [hf, List.append_assoc]
    exact ⟨_, Mark.column_behind_newLine .., plainScalar_last h hx hn m⟩
  | @cons w t k h ht ih =>
    -- The reader decides behind the gap whether the scalar goes on, so the gap is read with what
    -- follows it.
    obtain ⟨c, cs, rfl, hc, hs, hb⟩ := ht.exists_cons
    obtain ⟨_, d, hf⟩ := foldedText_word h (spaces (k + 1) ++ c :: cs)
    obtain ⟨column', gap, hg, hf'⟩ := foldedText_gap (c :: cs)
    rw [hf, hf', List.append_assoc, List.append_assoc, foldedText_cons hc hs, List.cons_append]
    have ih := fun hm => @ih ((m.behind w).behind gap) hm column' (some ' ')
    rw [foldedText_cons hc hs, List.cons_append] at ih
    obtain ⟨endsLine, hi, hm⟩ : ∃ endsLine,
        Interrupts (c :: (foldedText indent isKey false (column' + 1) (some c) cs ++
          (newLine n ++ xs))) gap (spaces (k + 1)) endsLine ∧
        j < ((m.behind w).behind gap).column := by
      rcases hg with rfl | ⟨rfl, rfl⟩
      · rw [Mark.column_behind_spaces, Mark.behind_of_isInline h.isInline]
        exact ⟨false, .blanks k (by simp), Nat.lt_add_right _ (Nat.lt_add_right _ hm)⟩
      · rw [Mark.column_behind_newLine]
        exact ⟨true, .line _ fun m => atBorder_spaces (by omega) m _, hi⟩
    obtain ⟨m', hm', hr⟩ := ih hm
    exact ⟨m', hm', plainScalar_more h hc hs hb hi hm hr (by simp)⟩

end Reading
end SystemProgram.Yaml
