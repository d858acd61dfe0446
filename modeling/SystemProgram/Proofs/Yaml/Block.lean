import SystemProgram.Proofs.Yaml.Lexer

namespace SystemProgram.Yaml

open Source

mutual
/-- The tokens of a node that is the value of a key. -/
def Node.tokens : Node → List Token
  | .scalar tag text => [.scalar text (styleOf false tag text = .plain)]
  | .seq _ ns => if ns.isEmpty then [.flowSeqStart, .flowSeqEnd] else itemTokens ns
  | .map _ es => .blockMapStart :: entryTokens es ++ [.blockEnd]

def itemTokens : List Node → List Token
  | [] => []
  | n :: ns => .blockEntry :: n.tokens ++ itemTokens ns

def entryTokens : List (Node × Node) → List Token
  | [] => []
  | (k, v) :: es => .key :: k.tokens ++ .value :: v.tokens ++ entryTokens es
end

/-- A text that is a short word and looks like nothing else. -/
def Node.IsKey (n : Node) : Prop :=
  ∃ w, n = .scalar strTag (.whole w) ∧ IsKeyWord w ∧ resolve w = strTag

/-- Nodes that come back, as values of a key at the given column: their scalars are texts or are
written plain, lists hold maps, and maps have entries. No line is indented by the line width. -/
inductive Node.Legible : Nat → Node → Prop
  | scalar {indent tag text} : indent + 2 < lineWidth →
    (tag = strTag ∨ styleOf false tag text = .plain ∧ text ≠ .whole []) →
    Legible indent (.scalar tag text)
  | seq {indent ns} : (∀ n ∈ ns, ∃ es, n = .map mapTag es) → (∀ n ∈ ns, Legible indent n) →
    Legible indent (.seq seqTag ns)
  | map {indent es} : es ≠ [] → (∀ e ∈ es, e.1.IsKey) → (∀ e ∈ es, Legible (indent + 2) e.2) →
    Legible indent (.map mapTag es)

theorem plainAllowed_of_isKeyWord {w : List Char} (h : IsKeyWord w) : plainAllowed w = true := by
  apply plainAllowed_of_forall h.isPlainWord.isInline
  · intro c hc
    have hw := h.isWordChar c hc
    exact ⟨ne_of_isWordChar hw (by decide), ne_of_isWordChar hw (by decide)⟩
  · have hm : Lexer.indicators.any isWordChar = false := by decide
    exact fun c hc hi => List.any_eq_false.1 hm c hi (h.isWordChar c hc)

theorem not_isMultiline_of_isKeyWord {w : List Char} (h : IsKeyWord w) : isMultiline w = false := by
  rw [isMultiline, List.any_eq_false]
  intro c hc
  rw [isBreak_of_isInline (isInline_of_isWordChar (h.isWordChar c hc))]
  decide

section Styles

variable {isKey : Bool} {tag : String} {text : Text} {cs : List Char}

theorem styleOf_eq_plain (h : styleOf isKey tag text = .plain) :
    ∃ cs, text = .whole cs ∧ resolve cs = tag ∧ plainAllowed cs = true := by
  cases text with
  | broken t => cases h
  | whole cs =>
    rw [styleOf] at h
    split at h
    · next hp =>
      simp only [Bool.and_eq_true, decide_eq_true_eq] at hp
      exact ⟨cs, rfl, hp.1.1, hp.2⟩
    · split at h
      · cases h
      · cases h

theorem styleOf_eq_single (h : styleOf isKey tag text = .single) :
    ∃ cs, text = .whole cs ∧ IsSingleRest none cs := by
  cases text with
  | broken t => cases h
  | whole cs =>
    rw [styleOf] at h
    split at h
    · cases h
    · split at h
      · next hs =>
        simp only [singleAllowed, Bool.and_eq_true, Bool.not_eq_true'] at hs
        exact ⟨cs, rfl, hs.1.1.1, hs.1.1.2, hs.1.2⟩
      · cases h

theorem scalarText_of_plain (h : styleOf isKey tag cs = .plain) (column indent : Nat) :
    scalarText isKey column indent tag cs = foldedText indent isKey false column none cs := by
  unfold scalarText
  rw [h]

theorem scalarText_of_single (h : styleOf isKey tag cs = .single) (column indent : Nat) :
    scalarText isKey column indent tag cs =
      '\'' :: foldedText indent isKey true (column + 1) none cs ++ ['\''] := by
  unfold scalarText
  rw [h]

theorem scalarText_of_double (h : styleOf isKey tag text = .double) (column indent : Nat) :
    scalarText isKey column indent tag text =
      '"' :: escapedText indent isKey (column + 1) true false text.points ++ ['"'] := by
  unfold scalarText
  rw [h]
  cases text <;> rfl

end Styles

namespace Node.IsKey

variable {k : Node}

theorem isSimpleKey (h : k.IsKey) : isSimpleKey k = true := by
  obtain ⟨w, rfl, hw, _⟩ := h
  have hl : tagSize strTag + w.length < maxKeySize := by
    have h1 : tagSize strTag = 5 := by decide
    have := hw.length_le
    rw [h1, maxKeySize]
    omega
  simp [Yaml.isSimpleKey, Text.points, Text.chars, hl, hw.ne_nil, not_isMultiline_of_isKeyWord hw]

theorem exists_word (h : k.IsKey) (indent : Nat) :
    ∃ w, k = .scalar (resolve w) (.whole w) ∧ IsKeyWord w ∧ keyText indent k = w ∧
      k.tokens = [.scalar (.whole w) true] := by
  obtain ⟨w, rfl, hw, hr⟩ := h
  have hp := plainAllowed_of_isKeyWord hw
  have hs (isKey : Bool) : styleOf isKey strTag (.whole w) = .plain := by
    simp [styleOf, hr, hp, hw.ne_nil, not_isMultiline_of_isKeyWord hw]
  obtain ⟨_, d, hf⟩ := foldedText_word hw.isPlainWord []
  rw [List.append_nil, foldedText, List.append_nil] at hf
  refine ⟨w, by rw [hr], hw, ?_, ?_⟩
  · rw [keyText, scalarText_of_plain (hs true)]
    exact hf
  · simp [tokens, hs]

end Node.IsKey

theorem atGap_afterKey (indent column : Nat) (n : Node) (rest : List Char) (m : Mark) :
    atGap (ofChars m (afterKey indent column n ++ rest)) = true := by
  cases n with
  | scalar => rfl
  | seq _ ns => cases ns <;> rfl
  | map _ es => cases es <;> rfl

namespace Place

variable {p : Place} {j column : Nat} {rest : List Char} {ts : List Token} {n : Node}
  {ns : List Node} {es : List (Node × Node)}

theorem Resumes.head? (h : p.Resumes rest ts) : rest.head? = some '\n' := by
  obtain ⟨n, cs, rfl, _⟩ := h
  rfl

/-- A scalar in the style in which it is written, as the value of a key at column `j`. -/
theorem reads_scalar {tag : String} {text : Text} (hp : p.indent = j) (hj : j < column)
    (hw : j + 2 < lineWidth)
    (ht : tag = strTag ∨ styleOf false tag text = .plain ∧ text ≠ .whole [])
    (h : (p.emit (Node.scalar tag text).tokens).Resumes rest ts) (col : Nat) :
    p.Reads false column (scalarText false col (j + 2) tag text ++ rest) ts := by
  have hs : (p.emit [.scalar text (styleOf false tag text = .plain)]).Resumes rest ts := h
  have hi : 0 < j + 2 := Nat.succ_pos _
  have hc : p.indent ≤ column := by omega
  cases hst : styleOf false tag text with
  | plain =>
    obtain ⟨cs, rfl, hr, ha⟩ := styleOf_eq_plain hst
    have hn : cs ≠ [] := by
      rintro rfl
      rcases ht with rfl | ⟨_, hn⟩
      · exact absurd hr (by decide)
      · exact hn rfl
    rw [hst] at hs
    rw [scalarText_of_plain hst]
    exact reads_plain hp hj (by omega) ha hn hs
  | single =>
    obtain ⟨cs, rfl, hcs⟩ := styleOf_eq_single hst
    have hr : rest.head? ≠ some '\'' := by
      rw [h.head?]
      decide
    have hq : QuotedReads false .none
        (foldedText (j + 2) false true (col + 1) none cs ++ '\'' :: rest) (cs.map .char) rest :=
      foldedText_reads hi hr hcs (.none (by simp) (by simp))
    rw [hst] at hs
    have hv := reads_quoted (t := .whole cs) (.inl rfl) hc hq hs
    rw [scalarText_of_single hst]
    simpa using hv
  | double =>
    have hq : QuotedReads true .none
        (escapedText (j + 2) false (col + 1) true false text.points ++ '"' :: rest) text.points
        rest :=
      escapedText_reads hi hw (.inl rfl)
    rw [hst] at hs
    have hv := reads_quoted (.inr rfl) hc hq hs
    rw [scalarText_of_double hst]
    simpa using hv

/-- Whether a node as the value of a key at column `j` is read as its tokens. -/
def ReadsValue (j : Nat) (n : Node) : Prop :=
  ∀ (p : Place) (column col : Nat) (rest : List Char) (ts : List Token), p.indent = j → j < column →
    (p.emit n.tokens).Resumes rest ts → p.Reads false column (afterKey j col n ++ rest) ts

/-- Whether entries at column `j` are read as the tokens of a new map. -/
def ReadsMap (j : Nat) (es : List (Node × Node)) : Prop :=
  ∀ (p : Place) (rest : List Char) (ts : List Token), -1 ≤ p.indent → p.indent < j →
    (p.emit (Node.map mapTag es).tokens).Resumes rest ts →
      p.Reads true j (entries j true es ++ rest) ts

theorem entries_cons {k : Node} (hk : k.IsKey) (v : Node) (j : Nat) (es : List (Node × Node)) :
    ∃ w, IsKeyWord w ∧ k.tokens = [.scalar w true] ∧ entries j true ((k, v) :: es) =
      w ++ ':' :: (afterKey j (j + w.length + 1) v ++ entries j false es) := by
  obtain ⟨w, _, hw, he, ht⟩ := hk.exists_word j
  refine ⟨w, hw, ht, ?_⟩
  simp [entries, hk.isSimpleKey, he]

theorem entries_false {e : Node × Node} : entries j false (e :: es) =
    Yaml.newLine j ++ entries j true (e :: es) := by
  simp [entries]

theorem beginsLine_entries {k v : Node} (hk : k.IsKey) :
    BeginsLine (entries j true ((k, v) :: es) ++ rest) := by
  obtain ⟨w, hw, _, he⟩ := entries_cons hk v j es
  cases w with
  | nil => exact absurd rfl hw.ne_nil
  | cons c w =>
    rw [he]
    exact .key _ (hw.isWordChar c (.head w))

/-- The first entry of a new map, or another one of a map that has begun. -/
theorem reads_entry {k v : Node} (hk : k.IsKey) (hv : ReadsValue j v) (hp : p.indent ≤ j)
    (ho : (p.openMap j).indent = j)
    (h : ((p.openMap j).emit (.key :: k.tokens ++ .value :: v.tokens)).Resumes
      (entries j false es ++ rest) ts) :
    p.Reads true j (entries j true ((k, v) :: es) ++ rest) ts := by
  obtain ⟨w, hw, ht, he⟩ := entries_cons hk v j es
  rw [he, List.append_assoc, List.cons_append, List.append_assoc]
  apply reads_key hw hp (atGap_afterKey j _ v _)
  refine hv (emit _ _) _ _ _ _ ho (by omega) ?_
  rw [emit_emit]
  rw [ht] at h
  exact h

/-- The entries behind the first one. -/
theorem resumes_entries (hk : ∀ e ∈ es, e.1.IsKey) (hv : ∀ e ∈ es, ReadsValue j e.2)
    (hp : p.indent = j) (h : (p.emit (entryTokens es)).Resumes rest ts) :
    p.Resumes (entries j false es ++ rest) ts := by
  induction es generalizing p with
  | nil => exact h
  | cons e es ih =>
    obtain ⟨k, v⟩ := e
    obtain ⟨hk, hks⟩ := List.forall_mem_cons.1 hk
    obtain ⟨hv, hvs⟩ := List.forall_mem_cons.1 hv
    -- The map has begun before, so a key in its column opens no other one.
    have ho : p.openMap j = p := if_neg hp.not_lt
    refine ⟨j, entries j true ((k, v) :: es) ++ rest, ?_, beginsLine_entries hk, fun _ => hp.ge, ?_⟩
    · rw [entries_false, List.append_assoc]
    · apply reads_entry hk hv hp.le (by rw [ho, hp])
      rw [ho]
      refine ih hks hvs hp ?_
      rw [emit_emit]
      exact h

theorem readsMap (hn : es ≠ []) (hk : ∀ e ∈ es, e.1.IsKey) (hv : ∀ e ∈ es, ReadsValue j e.2) :
    ReadsMap j es := by
  intro p rest ts hi hp h
  cases es with
  | nil => exact absurd rfl hn
  | cons e es =>
    obtain ⟨k, v⟩ := e
    obtain ⟨hk, hks⟩ := List.forall_mem_cons.1 hk
    obtain ⟨hv, hvs⟩ := List.forall_mem_cons.1 hv
    have ho : p.openMap j = ⟨.blockMapStart :: p.reversed, j, p.indent :: p.outer⟩ := if_pos hp
    apply reads_entry hk hv hp.le (by rw [ho])
    rw [ho]
    refine resumes_entries hks hvs rfl ?_
    rw [emit_emit]
    -- Behind the last entry the map is still open; the line that comes next ends it.
    refine Resumes.close ?_ hi hp
    simpa [emit, Node.tokens, entryTokens] using h

theorem resumes_items (h : ∀ n ∈ ns, ∃ es, n = .map mapTag es ∧ es ≠ [] ∧ ReadsMap (j + 2) es)
    (hp : p.indent = j) (hr : (p.emit (itemTokens ns)).Resumes rest ts) :
    p.Resumes (items j false ns ++ rest) ts := by
  induction ns generalizing p with
  | nil => exact hr
  | cons n ns ih =>
    obtain ⟨⟨es, rfl, hn, hm⟩, hns⟩ := List.forall_mem_cons.1 h
    have hi : items j false (.map mapTag es :: ns) ++ rest = Yaml.newLine j ++
        '-' :: ' ' :: (entries (j + 2) true es ++ (items j false ns ++ rest)) := by
      simp [items, inline, hn]
    refine ⟨j, _, hi, .item _, fun _ => hp.ge, ?_⟩
    apply reads_item hp
    apply Reads.space
    refine hm (emit _ _) _ _ ?_ ?_ ?_
    · change -1 ≤ p.indent
      omega
    · change p.indent < _
      omega
    · refine ih hns hp ?_
      rw [emit_emit, emit_emit]
      exact hr

end Place

/-- What is written of a node behind a key is read as its tokens, and if the node is a map, so are
its entries behind a hyphen. -/
theorem Node.Legible.reads {n : Node} {j : Nat} (h : n.Legible j) :
    Place.ReadsValue j n ∧ ∀ es, n = .map mapTag es → es ≠ [] ∧ Place.ReadsMap (j + 2) es := by
  induction h with
  | @scalar j tag text hw ht =>
    refine ⟨fun p column col rest ts hp hj hr => ?_, by simp⟩
    exact .space (Place.reads_scalar hp (by omega) hw ht hr _)
  | @seq j ns hm _ ih =>
    refine ⟨fun p column col rest ts hp hj hr => ?_, by simp⟩
    cases ns with
    | nil => exact .space (Place.reads_emptyList (by omega) (by omega) hr)
    | cons n ns =>
      have hi : ∀ i ∈ n :: ns, ∃ es, i = .map mapTag es ∧ es ≠ [] ∧ Place.ReadsMap (j + 2) es := by
        intro i hi
        obtain ⟨es, rfl⟩ := hm i hi
        exact ⟨es, rfl, (ih _ hi).2 es rfl⟩
      exact (Place.resumes_items hi hp hr).reads
  | @map j es hn hk _ ih =>
    have hr : Place.ReadsMap (j + 2) es := Place.readsMap hn hk fun e he => (ih e he).1
    refine ⟨fun p column col rest ts hp hj h => ?_, fun fs hf => ?_⟩
    · cases es with
      | nil => exact absurd rfl hn
      | cons e es =>
        change p.Reads false column (entries (j + 2) false (e :: es) ++ rest) ts
        rw [Place.entries_false, List.append_assoc]
        exact (hr p rest ts (by omega) (by omega) h).newLine
    · cases hf
      exact ⟨hn, hr⟩

/-- The tokens of a document that is a map with legible values. -/
theorem tokens_document {es : List (Node × Node)} (hn : es ≠ []) (hk : ∀ e ∈ es, e.1.IsKey)
    (hv : ∀ e ∈ es, e.2.Legible 0) :
    tokens (document (.map mapTag es)) = (Node.map mapTag es).tokens ++ [.streamEnd] := by
  have hm : Place.ReadsMap 0 es := Place.readsMap hn hk fun e he => (hv e he).reads.1
  let p : Place := ⟨[], -1, []⟩
  have he : (p.emit (Node.map mapTag es).tokens).Resumes (newLine 0)
      ((Node.map mapTag es).tokens ++ [.streamEnd]) := by
    have h := Place.resumes_end (p := p.emit (Node.map mapTag es).tokens) rfl
    simpa [Place.emit, p] using h
  have hr := hm p (newLine 0) _ le_rfl (by decide) he 0 .start rfl
  have hd : document (.map mapTag es) = entries 0 true es ++ newLine 0 := by
    simp [document, hn, newLine, spaces]
  rw [hd]
  exact hr.run_eq

end SystemProgram.Yaml
