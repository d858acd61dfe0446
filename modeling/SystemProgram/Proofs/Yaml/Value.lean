import SystemProgram.Proofs.Value
import SystemProgram.Proofs.Yaml.Printable
import SystemProgram.Proofs.Yaml.Scalar
import SystemProgram.Proofs.Yaml.Tree

namespace SystemProgram.Yaml

open Value (record)

/-- The node is what is written for the value, it has no merge keys, and it stands for the value. -/
structure Denotes (n : Node) (v : Value) : Prop where
  ofValue : Node.ofValue v = .ok n
  merged : merged n = .ok n
  construct : construct n = .ok v

/-- Whether a text may be the name of a field: a short word that looks like nothing else. -/
def isName (s : String) : Bool :=
  s != "" && s.toList.all isWordChar && s.toList.length ≤ 100 && resolve s.toList = strTag

/-- Whether the texts may be the names in a record. There is at least one, and none comes twice. -/
def areNames (names : List String) : Bool :=
  !names.isEmpty && names.Nodup && names.all isName

structure DenotesField (e : Node × Node) (f : String × Value) : Prop where
  isName : isName f.1 = true
  key : e.1 = .scalar strTag f.1.toList
  value : Denotes e.2 f.2

theorem isKey_of_isName {s : String} (h : isName s = true) :
    (Node.scalar strTag s.toList).IsKey := by
  simp only [isName, Bool.and_eq_true, bne_iff_ne, ne_eq, List.all_eq_true,
    decide_eq_true_eq] at h
  obtain ⟨⟨⟨hn, hw⟩, hl⟩, hr⟩ := h
  exact ⟨_, rfl, ⟨fun h => hn (String.toList_eq_nil_iff.1 h), hw, hl⟩, hr⟩

theorem areNames_iff {names : List String} :
    areNames names = true ↔ names ≠ [] ∧ names.Nodup ∧ ∀ name ∈ names, isName name = true := by
  simp [areNames, and_assoc]

theorem DenotesField.isKey {e : Node × Node} {f : String × Value} (h : DenotesField e f) :
    e.1.IsKey :=
  h.key ▸ isKey_of_isName h.isName

theorem denotes_str (s : String) : Denotes (.scalar strTag s.toList) (.str s) where
  ofValue := rfl
  merged := rfl
  construct := by
    change Except.ok (Value.str (String.ofList s.toList)) = _
    rw [String.ofList_toList]

theorem denotes_broken (t : BrokenText) : Denotes (.scalar strTag (.broken t)) (.broken t) where
  ofValue := rfl
  merged := rfl
  construct := rfl

theorem denotes_bool (b : Bool) : Denotes (.scalar boolTag (boolChars b)) (.bool b) where
  ofValue := rfl
  merged := rfl
  construct := by
    change (boolValue (boolChars b) >>= fun b => _) = _
    rw [boolValue_boolChars]
    rfl

theorem denotes_int {n : Nat} (h : n < 10 ^ Integer.maxDigits) :
    Denotes (.scalar intTag (Integer.natChars n)) (.int n) where
  ofValue := by
    change Except.ok (Node.scalar intTag (Integer.text n).toList) = _
    rw [Integer.text, String.toList_ofList]
    rfl
  merged := rfl
  construct := by
    change (intValue (Integer.natChars n) >>= fun i => _) = _
    rw [intValue_natChars h]
    rfl

section Lists

variable {ns : List Node} {vs : List Value}

theorem ofValues_eq_ok (h : List.Forall₂ Denotes ns vs) : Node.ofValues vs = .ok ns := by
  induction h with
  | nil => rfl
  | cons h _ ih =>
    rw [Node.ofValues, h.ofValue, ih]
    rfl

theorem mergedAll_eq_ok (h : List.Forall₂ Denotes ns vs) : mergedAll ns = .ok ns := by
  induction h with
  | nil => rfl
  | cons h _ ih =>
    rw [mergedAll, h.merged, ih]
    rfl

theorem constructAll_eq_ok (h : List.Forall₂ Denotes ns vs) : constructAll ns = .ok vs := by
  induction h with
  | nil => rfl
  | cons h _ ih =>
    rw [constructAll, h.construct, ih]
    rfl

theorem denotes_list (h : List.Forall₂ Denotes ns vs) : Denotes (.seq seqTag ns) (.list vs) where
  ofValue := by
    rw [Node.ofValue, ofValues_eq_ok h]
    rfl
  merged := by
    rw [merged, if_neg (by decide), mergedAll_eq_ok h]
    rfl
  construct := by
    rw [construct, if_pos rfl, constructAll_eq_ok h]
    rfl

end Lists

theorem insert_record {k : String} {v : Value} {fields : List (String × Value)}
    (h : k ∉ fields.map Prod.fst) :
    Value.insert (.str k) v (fields.map fun f => (.str f.1, f.2)) =
      (fields ++ [(k, v)]).map fun f => (.str f.1, f.2) := by
  induction fields with
  | nil => rfl
  | cons f fields ih =>
    rw [List.map_cons, List.mem_cons, not_or] at h
    have hs : (Value.str f.1).same (.str k) = false := by
      rw [Bool.eq_false_iff]
      intro hs
      exact h.1 (Value.str.inj (Value.str_same_iff.1 hs))
    rw [List.map_cons, Value.insert, hs, ih h.2]
    rfl

section Records

variable {es : List (Node × Node)} {fields : List (String × Value)}

theorem ofEntries_eq_ok (h : List.Forall₂ DenotesField es fields) :
    Node.ofEntries (fields.map fun f => (.str f.1, f.2)) = .ok es := by
  induction h with
  | nil => rfl
  | @cons e f _ _ h _ ih =>
    rw [List.map_cons, Node.ofEntries, (denotes_str f.1).ofValue, h.value.ofValue, ih, ← h.key]
    rfl

theorem mergedParts_eq_ok (h : List.Forall₂ DenotesField es fields) : mergedParts es = .ok es := by
  induction h with
  | nil => rfl
  | @cons e f _ _ h _ ih =>
    obtain ⟨k, n⟩ := e
    obtain rfl := h.key
    rw [mergedParts, (denotes_str f.1).merged, h.value.merged, ih]
    rfl

theorem splitMerges_eq_ok (h : List.Forall₂ DenotesField es fields) :
    splitMerges es = .ok ([], es) := by
  induction h with
  | nil => rfl
  | @cons e f _ _ h _ ih =>
    obtain ⟨k, n⟩ := e
    obtain rfl := h.key
    rw [splitMerges, Node.tag, if_neg (by decide), ih]
    rfl

/-- Fields that follow others with other names are put behind them. -/
theorem constructEntries_eq_ok (h : List.Forall₂ DenotesField es fields)
    (done : List (String × Value)) (hd : ((done ++ fields).map Prod.fst).Nodup) :
    constructEntries (done.map fun f => (.str f.1, f.2)) es =
      .ok ((done ++ fields).map fun f => (.str f.1, f.2)) := by
  induction h generalizing done with
  | nil => rw [constructEntries, List.append_nil]
  | @cons e f _ fields h _ ih =>
    obtain ⟨k, n⟩ := e
    obtain ⟨name, v⟩ := f
    obtain rfl := h.key
    have ha : done ++ (name, v) :: fields = (done ++ [(name, v)]) ++ fields := by simp
    have hn : name ∉ done.map Prod.fst := by
      rw [List.map_append, List.map_cons] at hd
      exact fun hm => List.nodup_middle.1 hd |>.notMem (List.mem_append_left _ hm)
    -- One field goes from those to come to those that are done.
    rw [ha] at hd ⊢
    rw [constructEntries, (denotes_str name).construct, h.value.construct, ← ih _ hd,
      ← insert_record hn]
    rfl

theorem denotes_record (h : List.Forall₂ DenotesField es fields)
    (hd : (fields.map Prod.fst).Nodup) : Denotes (.map mapTag es) (record fields) where
  ofValue := by
    change (Node.ofEntries (fields.map fun f => (.str f.1, f.2)) >>= fun es => _) = _
    rw [ofEntries_eq_ok h]
    rfl
  merged := by
    rw [merged, if_pos (by decide), mergedParts_eq_ok h]
    change (splitMerges es >>= fun p => _) >>= _ = _
    rw [splitMerges_eq_ok h]
    rfl
  construct := by
    have hc := constructEntries_eq_ok h [] hd
    rw [List.map_nil, List.nil_append] at hc
    rw [construct, if_pos rfl, hc]
    rfl

end Records

/-- Values that come back as values of a key at the given column: all texts, truth values, numbers
that are short enough to be read, lists of records, and records. No line is indented by the line
width. -/
inductive Legible : Nat → Value → Prop
  | str {indent} (s) : indent + 2 < lineWidth → Legible indent (.str s)
  | broken {indent} (t) : indent + 2 < lineWidth → Legible indent (.broken t)
  | bool {indent} (b) : indent + 2 < lineWidth → Legible indent (.bool b)
  | int {indent n} : indent + 2 < lineWidth → n < 10 ^ Integer.maxDigits →
    Legible indent (.int (n : Nat))
  | list {indent vs} : (∀ v ∈ vs, ∃ fields, v = record fields) → (∀ v ∈ vs, Legible indent v) →
    Legible indent (.list vs)
  | record {indent fields} : areNames (fields.map Prod.fst) = true →
    (∀ f ∈ fields, Legible (indent + 2) f.2) → Legible indent (record fields)

section Documents

variable {indent : Nat} {v : Value} {n : Node} {fields : List (String × Value)}

def HasNode (indent : Nat) (v : Value) : Prop :=
  ∃ n : Node, Denotes n v ∧ n.Legible indent

theorem hasNode_plain {tag : String} {text : List Char} (h : Denotes (.scalar tag text) v)
    (hi : indent + 2 < lineWidth) (hr : resolve text = tag) (hp : plainAllowed text = true)
    (hn : text ≠ []) : HasNode indent v := by
  have hs : styleOf false tag text = .plain := by
    simp [styleOf, hr, hp]
  exact ⟨_, h, .scalar hi (.inr ⟨hs, fun he => hn (Text.whole.inj he)⟩)⟩

theorem exists_map (h : Denotes n (record fields)) : ∃ es, n = .map mapTag es := by
  obtain ⟨es, _, he⟩ := Outcome.bind_eq_ok_iff.1 h.ofValue
  exact ⟨es, (Except.ok.inj he).symm⟩

theorem exists_items {vs : List Value} (hm : ∀ v ∈ vs, ∃ fields, v = record fields)
    (h : ∀ v ∈ vs, HasNode indent v) :
    ∃ ns, List.Forall₂ Denotes ns vs ∧ (∀ n ∈ ns, ∃ es, n = .map mapTag es) ∧
      ∀ n ∈ ns, n.Legible indent := by
  induction vs with
  | nil => exact ⟨[], .nil, List.forall_mem_nil _, List.forall_mem_nil _⟩
  | cons v vs ih =>
    obtain ⟨⟨fields, rfl⟩, hvs⟩ := List.forall_mem_cons.1 hm
    obtain ⟨⟨n, hd, hl⟩, h⟩ := List.forall_mem_cons.1 h
    obtain ⟨ns, hds, hms, hls⟩ := ih hvs h
    exact ⟨n :: ns, .cons hd hds, List.forall_mem_cons.2 ⟨exists_map hd, hms⟩,
      List.forall_mem_cons.2 ⟨hl, hls⟩⟩

theorem exists_entries (hn : ∀ name ∈ fields.map Prod.fst, isName name = true)
    (h : ∀ f ∈ fields, HasNode indent f.2) :
    ∃ es, List.Forall₂ DenotesField es fields ∧ (∀ e ∈ es, e.1.IsKey) ∧
      ∀ e ∈ es, e.2.Legible indent := by
  induction fields with
  | nil => exact ⟨[], .nil, List.forall_mem_nil _, List.forall_mem_nil _⟩
  | cons f fields ih =>
    obtain ⟨hf, hn⟩ := List.forall_mem_cons.1 hn
    obtain ⟨⟨n, hd, hl⟩, h⟩ := List.forall_mem_cons.1 h
    obtain ⟨es, hds, hks, hls⟩ := ih hn h
    have hd : DenotesField (.scalar strTag f.1.toList, n) f := ⟨hf, rfl, hd⟩
    exact ⟨_, .cons hd hds, List.forall_mem_cons.2 ⟨hd.isKey, hks⟩,
      List.forall_mem_cons.2 ⟨hl, hls⟩⟩

/-- The entries of a record make up a map. -/
theorem exists_mapNode (hn : areNames (fields.map Prod.fst) = true)
    (h : ∀ f ∈ fields, HasNode indent f.2) :
    ∃ es, Denotes (.map mapTag es) (record fields) ∧ es ≠ [] ∧ (∀ e ∈ es, e.1.IsKey) ∧
      ∀ e ∈ es, e.2.Legible indent := by
  obtain ⟨h0, hd, hn⟩ := areNames_iff.1 hn
  obtain ⟨es, he, hk, hl⟩ := exists_entries hn h
  refine ⟨es, denotes_record he hd, ?_, hk, hl⟩
  rintro rfl
  rw [List.forall₂_nil_left_iff.1 he] at h0
  exact h0 rfl

theorem Legible.hasNode (h : Legible indent v) : HasNode indent v := by
  induction h with
  | str s hi => exact ⟨_, denotes_str s, .scalar hi (.inl rfl)⟩
  | broken t hi => exact ⟨_, denotes_broken t, .scalar hi (.inl rfl)⟩
  | bool b hi =>
    exact hasNode_plain (denotes_bool b) hi (resolve_boolChars b) (plainAllowed_boolChars b)
      (by cases b <;> decide)
  | @int _ n hi hn =>
    exact hasNode_plain (denotes_int hn) hi (resolve_natChars n) (plainAllowed_natChars n)
      (Integer.natChars_ne_nil n)
  | list hm _ ih =>
    obtain ⟨ns, hd, hns, hl⟩ := exists_items hm ih
    exact ⟨_, denotes_list hd, .seq hns hl⟩
  | record hn _ ih =>
    obtain ⟨es, hd, hes, hk, hl⟩ := exists_mapNode hn ih
    exact ⟨_, hd, .map hes hk hl⟩

/-- A document without references is the value of its node. -/
theorem document_tree (h : Denotes n v) : n.tree.document = .ok (.tree v) := by
  have hv : n.value? = some v := by
    rw [Node.value?, h.merged]
    change (construct n).toOption = some v
    rw [h.construct]
    rfl
  simp [Tree.document, Node.node?_tree, hv]

/-- A record comes back from its document, which has no line ends but line feeds. -/
theorem load_render (hn : areNames (fields.map Prod.fst) = true)
    (hv : ∀ f ∈ fields, Legible 0 f.2) :
    ∃ cs, render (record fields) = .ok (String.ofList cs) ∧ '\r' ∉ cs ∧
      load (String.ofList cs) = .ok (.tree (record fields)) := by
  obtain ⟨es, hr, hes, hk, hl⟩ := exists_mapNode hn fun f hf => (hv f hf).hasNode
  have ht := Tree.ofTokens_tokens hk hl
  rw [← tokens_document hes hk hl] at ht
  generalize Node.map mapTag es = n at hr ht
  have hcr : '\r' ∉ document n := not_mem_document n
  refine ⟨document n, ?_, hcr, ?_⟩
  · rw [render, hr.ofValue]
    rfl
  · rw [load, String.toList_ofList, all_isAllowed_document, Text.unifyLineEnds_of_not_mem hcr]
    change (Tree.ofTokens (tokens (document n)) >>= _) = _
    rw [ht]
    exact document_tree hr

end Documents
end SystemProgram.Yaml
