import SystemProgram.Proofs.Yaml.Block
import SystemProgram.Yaml.Tree

namespace SystemProgram.Yaml

mutual
/-- The tree of a node, without anchors. -/
def Node.tree : Node → Tree
  | .scalar tag text => .scalar none tag text
  | .seq tag ns => .seq none tag (treesOf ns)
  | .map tag es => .map none tag (treeEntriesOf es)

def treesOf : List Node → List Tree
  | [] => []
  | n :: ns => n.tree :: treesOf ns

def treeEntriesOf : List (Node × Node) → List (Tree × Tree)
  | [] => []
  | (k, v) :: es => (k.tree, v.tree) :: treeEntriesOf es
end

mutual
theorem Node.node?_tree : ∀ n : Node, n.tree.node? = some n
  | .scalar _ _ => rfl
  | .seq t ns => by simp [Node.tree, Tree.node?, nodes?_treesOf ns]
  | .map t es => by simp [Node.tree, Tree.node?, nodeEntries?_treeEntriesOf es]

theorem nodes?_treesOf : ∀ ns : List Node, Tree.nodes? (treesOf ns) = some ns
  | [] => rfl
  | n :: ns => by simp [treesOf, Tree.nodes?, n.node?_tree, nodes?_treesOf ns]

theorem nodeEntries?_treeEntriesOf :
    ∀ es : List (Node × Node), Tree.nodeEntries? (treeEntriesOf es) = some es
  | [] => rfl
  | (k, v) :: es => by
    simp [treeEntriesOf, Tree.nodeEntries?, k.node?_tree, v.node?_tree,
      nodeEntries?_treeEntriesOf es]
end

namespace Composer

variable {stack : List Frame} {style : MapStyle} {p : Props} {items : List Tree}
  {done : List (Tree × Tree)} {key : Tree} {expected : Expected} {fresh bare : Bool}
  {handles : List (String × String)} {anchors : List String} {c : Composer} {text : Text}
  {plain : Bool}

/-- What was expected does not matter once a node is complete. -/
theorem complete_congr (expected' : Expected) (t : Tree) :
    complete ⟨stack, expected, handles, anchors⟩ t =
      complete ⟨stack, expected', handles, anchors⟩ t := by
  unfold complete
  rcases stack with _ | ⟨_ | ⟨_, _, _, _ | _⟩ | ⟨_ | _ | _, _, _, _⟩, _ | ⟨_ | _ | _, _⟩⟩ <;> rfl

/-- Tokens that show no node to be missing are taken as they come. -/
theorem step_eq_take {t : Token} (ht : ∀ f, t ≠ .bad f) (h : endsEmpty stack t = false) :
    step ⟨stack, .node, handles, anchors⟩ t = take ⟨stack, .node, handles, anchors⟩ t := by
  have hs : settle t ⟨stack, .node, handles, anchors⟩ = ⟨stack, .node, handles, anchors⟩ := by
    unfold settle
    simp [h]
  cases t with
  | bad f => exact absurd rfl (ht f)
  | _ =>
    unfold step
    simp [showsFlaw, hs]

theorem endsEmpty_eq_false {t : Token}
    (h : (∃ text plain, t = .scalar text plain) ∨ t = .blockMapStart) :
    endsEmpty stack t = false := by
  unfold endsEmpty
  split <;> rcases h with ⟨text, plain, rfl⟩ | rfl <;> rfl

theorem step_scalar : step ⟨stack, .node, handles, anchors⟩ (.scalar text plain) =
    .ok (complete ⟨stack, .node, handles, anchors⟩ (Props.none.scalar text plain)) := by
  rw [step_eq_take (by simp) (endsEmpty_eq_false (.inl ⟨_, _, rfl⟩))]
  rfl

theorem step_blockMapStart (h : inBlock stack = true) :
    step ⟨stack, .node, handles, anchors⟩ .blockMapStart =
      .ok ⟨.key .block .none [] false :: stack, .next true, handles, anchors⟩ := by
  rw [step_eq_take (by simp) (endsEmpty_eq_false (.inr rfl))]
  change (if !inBlock stack then _ else _) = _
  rw [h]
  rfl

theorem step_key : step ⟨.key .block p done bare :: stack, .next fresh, handles, anchors⟩ .key =
    .ok ⟨.key .block p done bare :: stack, .node, handles, anchors⟩ := rfl

theorem step_value : step ⟨stack, .valueMark, handles, anchors⟩ .value =
    .ok ⟨stack, .node, handles, anchors⟩ := rfl

theorem step_blockEnd :
    step ⟨.key .block p done bare :: stack, .next fresh, handles, anchors⟩ .blockEnd =
      .ok (complete ⟨stack, .next fresh, handles, anchors⟩
        (.map p.anchor (p.collectionTag mapTag) done.reverse)) := rfl

theorem step_firstItem :
    step ⟨.value .block p done key :: stack, .node, handles, anchors⟩ .blockEntry =
      .ok ⟨.seq .indentless .none [] :: .value .block p done key :: stack, .node, handles,
        anchors⟩ := rfl

theorem step_nextItem :
    step ⟨.seq .indentless p items :: stack, .next fresh, handles, anchors⟩ .blockEntry =
      .ok ⟨.seq .indentless p items :: stack, .node, handles, anchors⟩ := rfl

theorem step_emptyList :
    step ⟨.value .block p done key :: stack, .node, handles, anchors⟩ .flowSeqStart =
      .ok ⟨.seq .flow .none [] :: .value .block p done key :: stack, .next true, handles,
        anchors⟩ := rfl

theorem step_flowSeqEnd :
    step ⟨.seq .flow p items :: stack, .next fresh, handles, anchors⟩ .flowSeqEnd =
      .ok (complete ⟨stack, .next fresh, handles, anchors⟩
        (.seq p.anchor (p.collectionTag seqTag) items.reverse)) := rfl

/-- Items that are not indented end where the next token is no item. -/
theorem step_endItems {t : Token} (ht : t = .key ∨ t = .blockEnd) {q : Props} :
    step ⟨.seq .indentless q items :: .value .block p done key :: stack, .next fresh, handles,
      anchors⟩ t =
    step (complete ⟨.value .block p done key :: stack, .next fresh, handles, anchors⟩
      (.seq q.anchor (q.collectionTag seqTag) items.reverse)) t := by
  rcases ht with rfl | rfl <;> rfl

/-- Whether the tokens of a node, as the value of a key, are composed into its tree. -/
def ComposesValue (n : Node) : Prop :=
  ∀ p done key stack handles anchors t ts, t = .key ∨ t = .blockEnd →
    (n.tokens ++ t :: ts).foldlM step ⟨.value .block p done key :: stack, .node, handles, anchors⟩ =
      (t :: ts).foldlM step
        (complete ⟨.value .block p done key :: stack, .node, handles, anchors⟩ n.tree)

/-- Whether the tokens of a map are composed into its tree, wherever it stands in a block. -/
def ComposesMap (es : List (Node × Node)) : Prop :=
  ∀ stack handles anchors ts, inBlock stack = true →
    ((Node.map mapTag es).tokens ++ ts).foldlM step ⟨stack, .node, handles, anchors⟩ =
      ts.foldlM step (complete ⟨stack, .node, handles, anchors⟩ (Node.map mapTag es).tree)

variable {es : List (Node × Node)} {ns : List Node} {ts : List Token}

theorem foldlM_cons_ok {c c' : Composer} {t : Token} (h : step c t = .ok c') :
    (t :: ts).foldlM step c = ts.foldlM step c' := by
  rw [List.foldlM_cons, h]
  rfl

theorem exists_cons_entryTokens (es : List (Node × Node)) (ts : List Token) :
    ∃ t us, entryTokens es ++ .blockEnd :: ts = t :: us ∧ (t = .key ∨ t = .blockEnd) := by
  cases es with
  | nil => exact ⟨_, _, rfl, .inr rfl⟩
  | cons e es => exact ⟨_, _, rfl, .inl rfl⟩

theorem foldlM_entryTokens (hk : ∀ e ∈ es, e.1.IsKey) (hv : ∀ e ∈ es, ComposesValue e.2)
    (done : List (Tree × Tree)) (fresh : Bool) (ts : List Token) :
    (entryTokens es ++ .blockEnd :: ts).foldlM step
        ⟨.key .block .none done false :: stack, .next fresh, handles, anchors⟩ =
      ts.foldlM step (complete ⟨stack, .node, handles, anchors⟩
        (.map none mapTag (done.reverse ++ treeEntriesOf es))) := by
  induction es generalizing done fresh with
  | nil =>
    rw [entryTokens, List.nil_append, foldlM_cons_ok step_blockEnd, complete_congr .node]
    simp [treeEntriesOf, Props.collectionTag, Props.none]
  | cons e es ih =>
    obtain ⟨k, v⟩ := e
    obtain ⟨hk, hks⟩ := List.forall_mem_cons.1 hk
    obtain ⟨hv, hvs⟩ := List.forall_mem_cons.1 hv
    dsimp only at hk hv
    obtain ⟨w, hw, _, _, ht⟩ := hk.exists_word 0
    obtain ⟨t, us, hu, hs⟩ := exists_cons_entryTokens es ts
    -- Only the token behind a value shows that the value is complete.
    have hr := hv .none done k.tree stack handles anchors t us hs
    rw [← hu] at hr
    rw [entryTokens, ht]
    simp only [List.cons_append, List.nil_append, List.append_assoc]
    rw [foldlM_cons_ok step_key, foldlM_cons_ok step_scalar]
    have hc : complete ⟨.key .block .none done false :: stack, .node, handles, anchors⟩
          (Props.none.scalar (.whole w) true) =
        ⟨.value .block .none done k.tree :: stack, .valueMark, handles, anchors⟩ := by
      rw [hw]
      rfl
    rw [hc, foldlM_cons_ok step_value, hr]
    have hd := ih hks hvs ((k.tree, v.tree) :: done) false
    rw [List.reverse_cons, List.append_assoc] at hd
    exact hd

theorem composesMap (hk : ∀ e ∈ es, e.1.IsKey) (hv : ∀ e ∈ es, ComposesValue e.2) :
    ComposesMap es := by
  intro stack handles anchors ts hb
  simp only [Node.tokens, List.cons_append, List.append_assoc, List.nil_append]
  rw [foldlM_cons_ok (step_blockMapStart hb)]
  exact foldlM_entryTokens hk hv [] true ts

/-- The items behind the first one, up to the token that shows that there are no more. -/
theorem foldlM_itemTokens (h : ∀ n ∈ ns, ∃ es, n = .map mapTag es ∧ ComposesMap es)
    (items : List Tree) {t : Token} (ht : t = .key ∨ t = .blockEnd) (ts : List Token) :
    (itemTokens ns ++ t :: ts).foldlM step
        ⟨.seq .indentless .none items :: .value .block p done key :: stack, .next false, handles,
          anchors⟩ =
      (t :: ts).foldlM step (complete ⟨.value .block p done key :: stack, .node, handles, anchors⟩
        (.seq none seqTag (items.reverse ++ treesOf ns))) := by
  induction ns generalizing items with
  | nil =>
    rw [itemTokens, List.nil_append, List.foldlM_cons, List.foldlM_cons, step_endItems ht,
      complete_congr .node]
    simp [treesOf, Props.collectionTag, Props.none]
  | cons n ns ih =>
    obtain ⟨⟨es, rfl, hm⟩, hns⟩ := List.forall_mem_cons.1 h
    have hd := ih hns ((Node.map mapTag es).tree :: items)
    rw [List.reverse_cons, List.append_assoc] at hd
    rw [itemTokens, List.cons_append, List.cons_append, List.append_assoc,
      foldlM_cons_ok step_nextItem, hm _ _ _ _ rfl]
    exact hd

theorem none_scalar {tag : String}
    (h : tag = strTag ∨ styleOf false tag text = .plain ∧ text ≠ .whole []) :
    Props.none.scalar text (styleOf false tag text = .plain) = .scalar none tag text := by
  change Tree.scalar none (if decide (styleOf false tag text = .plain) = true then _ else _) _ = _
  by_cases hp : styleOf false tag text = .plain
  · obtain ⟨cs, rfl, hr, _⟩ := styleOf_eq_plain hp
    rw [if_pos (decide_eq_true hp), resolveText, hr]
  · rw [if_neg (by simpa using hp), h.resolve_right fun h => hp h.1]

end Composer

open Composer in
/-- The tokens of a legible node are composed into its tree, and if it is a map, also as an item. -/
theorem Node.Legible.composes {n : Node} {j : Nat} (h : n.Legible j) :
    ComposesValue n ∧ ∀ es, n = .map mapTag es → ComposesMap es := by
  induction h with
  | @scalar j tag text _ ht =>
    refine ⟨fun p done key stack handles anchors t ts _ => ?_, by simp⟩
    rw [Node.tokens, List.singleton_append, foldlM_cons_ok step_scalar, none_scalar ht]
    rfl
  | @seq j ns hm _ ih =>
    refine ⟨fun p done key stack handles anchors t ts ht => ?_, by simp⟩
    cases ns with
    | nil =>
      change (Token.flowSeqStart :: Token.flowSeqEnd :: t :: ts).foldlM step _ = _
      rw [foldlM_cons_ok step_emptyList, foldlM_cons_ok step_flowSeqEnd, complete_congr .node]
      rfl
    | cons n ns =>
      have hi : ∀ i ∈ n :: ns, ∃ es, i = .map mapTag es ∧ ComposesMap es := by
        intro i hi
        obtain ⟨es, rfl⟩ := hm i hi
        exact ⟨es, rfl, (ih _ hi).2 es rfl⟩
      obtain ⟨⟨es, rfl, hes⟩, hns⟩ := List.forall_mem_cons.1 hi
      change (Token.blockEntry :: ((Node.map mapTag es).tokens ++ itemTokens ns) ++ t :: ts).foldlM
        step _ = _
      rw [List.cons_append, List.append_assoc, foldlM_cons_ok step_firstItem, hes _ _ _ _ rfl]
      exact foldlM_itemTokens hns [_] ht ts
  | @map j es _ hk _ ih =>
    have hm : ComposesMap es := composesMap hk fun e he => (ih e he).1
    refine ⟨fun p done key stack handles anchors t ts ht => hm _ _ _ _ rfl, fun fs hf => ?_⟩
    cases hf
    exact hm

/-- The tree of a document that is a map with legible values. -/
theorem Tree.ofTokens_tokens {es : List (Node × Node)} (hk : ∀ e ∈ es, e.1.IsKey)
    (hv : ∀ e ∈ es, e.2.Legible 0) :
    Tree.ofTokens ((Node.map mapTag es).tokens ++ [.streamEnd]) =
      .ok (some (Node.map mapTag es).tree) := by
  have hm := Composer.composesMap hk fun e he => (hv e he).composes.1
  have hr := hm [] Composer.defaultHandles [] [.streamEnd] rfl
  -- The first token begins the document as it would begin any node.
  have hs : ((Node.map mapTag es).tokens ++ [Token.streamEnd]).foldlM Composer.step .start =
      ((Node.map mapTag es).tokens ++ [Token.streamEnd]).foldlM Composer.step
        ⟨[], .node, Composer.defaultHandles, []⟩ := rfl
  rw [Tree.ofTokens, hs, hr]
  rfl

end SystemProgram.Yaml
