import TableThrift.Proofs.Readers.Yaml.Tokens
import TableThrift.Readers.Yaml.Document

/-!
# The document of a mapping without quotes

The tokens of a mapping without quotes make up one node: a mapping from plain scalars to plain
scalars and sequences of them. No word is told apart from another one here.

## Main definitions

* `Yaml.PlainValue.node`, `Yaml.entryNode`: the nodes of a value and of an entry

## Main results

* `Yaml.flowItems_words`, `Yaml.nodeBefore_value`, `Yaml.blockPairs_entries`: lists, values and
  entries
* `Yaml.document?_mappingText`: the document of a mapping
-/

namespace TableThrift.Yaml

variable {handles : List Text} {anchors : Anchors} {context : Context} {ts : List Token}
  {bound : Nat} {w : Text} {ws : List Text}

/-! ## Nodes -/

/-- The node of a word. -/
def wordNode (w : Text) : Node := .scalar w true

namespace PlainValue

/-- The node of a value. -/
def node : PlainValue → Node
  | word w => wordNode w
  | words ws => .sequence (ws.map wordNode)

end PlainValue

/-- The nodes of an entry. -/
def entryNode (entry : Text × PlainValue) : Node × Node := (wordNode entry.1, entry.2.node)

/-! ## Values -/

section Values

theorem node_word (hb : 2 ≤ bound) :
    node bound handles context anchors (.scalar w true :: ts) = some (wordNode w, anchors, ts) := by
  obtain ⟨bound, rfl⟩ := Nat.exists_eq_add_of_le' hb
  rfl

/-- One more word in brackets, behind a comma if it is not the first. -/
theorem flowItems_word (hb : 2 ≤ bound) (isFirst : Bool) :
    flowItems (bound + 1) handles isFirst anchors
        ((if isFirst then [] else [.comma]) ++ .scalar w true :: ts) =
      (flowItems bound handles false anchors ts).map fun p => (wordNode w :: p.1, p.2) := by
  have hnode : node bound handles .flow anchors (.scalar w true :: ts) =
      some (wordNode w, anchors, ts) := node_word hb
  have hmap : ((flowItems bound handles false anchors ts).map fun p => (wordNode w :: p.1, p.2)) =
      (flowItems bound handles false anchors ts).bind fun p => some (wordNode w :: p.1, p.2) :=
    Option.map_eq_bind
  rw [hmap, flowItems]
  · cases isFirst <;> simp [afterComma, hnode]
  · -- The sequence does not close here.
    cases isFirst <;> simp

/-- **Words in brackets** are a sequence of plain scalars. -/
theorem flowItems_words (hb : ws.length + 3 ≤ bound) (isFirst : Bool) :
    flowItems bound handles isFirst anchors
      (Layout.itemTokens isFirst ws ++ .sequenceClose :: ts) =
      some (ws.map wordNode, anchors, ts) := by
  induction ws generalizing bound isFirst with
  | nil =>
    obtain ⟨bound, rfl⟩ := Nat.exists_eq_add_of_le' hb
    rfl
  | cons w ws ih =>
    obtain ⟨bound, rfl⟩ := Nat.exists_eq_add_one_of_ne_zero (Nat.ne_zero_of_lt hb)
    rw [List.length_cons] at hb
    rw [Layout.itemTokens, List.append_assoc, List.cons_append, flowItems_word (by omega),
      ih (by omega)]
    rfl

theorem length_le_length_itemTokens (isFirst : Bool) (ws : List Text) :
    ws.length ≤ (Layout.itemTokens isFirst ws).length := by
  induction ws generalizing isFirst with
  | nil => exact Nat.le_refl 0
  | cons w ws ih =>
    have := ih false
    simp only [Layout.itemTokens, List.length_append, List.length_cons]
    omega

/-- A value is the node that it stands for. -/
theorem node_value {value : PlainValue} (hb : (Layout.valueTokens value).length + 3 ≤ bound) :
    node bound handles context anchors (Layout.valueTokens value ++ ts) =
      some (value.node, anchors, ts) := by
  cases value with
  | word w => exact node_word (Nat.le_of_add_left_le hb)
  | words ws =>
    -- The node and its content take a call each before the items are read.
    obtain ⟨bound, rfl⟩ := Nat.exists_eq_add_of_le' (Nat.le_of_add_left_le hb)
    have hlength := length_le_length_itemTokens true ws
    have hitems : flowItems (bound + 1) handles true anchors
        (Layout.itemTokens true ws ++ .sequenceClose :: ts) =
        some (ws.map wordNode, anchors, ts) := by
      refine flowItems_words ?_ true
      simp only [Layout.valueTokens, List.length_cons, List.length_append, List.length_nil] at hb
      omega
    simp [Layout.valueTokens, node, properties, content, hitems, PlainValue.node]

end Values

/-! ## Entries -/

section Entries

variable {entries : List (Text × PlainValue)}

/-- A value that is there is read where it might be left out. -/
theorem nodeBefore_value (value : PlainValue)
    (hb : (Layout.valueTokens value).length + 4 ≤ bound) :
    nodeBefore bound handles context [.key, .value, .blockEnd] anchors
      (Layout.valueTokens value ++ ts) = some (value.node, anchors, ts) := by
  obtain ⟨bound, rfl⟩ := Nat.exists_eq_add_one_of_ne_zero (Nat.ne_zero_of_lt hb)
  rw [nodeBefore, if_neg, node_value (Nat.le_of_succ_le_succ hb)]
  cases value <;> simp [comes, Layout.valueTokens]

/-- **The entries of a mapping** are its pairs. -/
theorem blockPairs_entries (hb : (entries.flatMap Layout.entryTokens).length + 5 ≤ bound) :
    blockPairs bound handles anchors (entries.flatMap Layout.entryTokens ++ .blockEnd :: ts) =
      some (entries.map entryNode, anchors, ts) := by
  induction entries generalizing bound with
  | nil =>
    obtain ⟨bound, rfl⟩ := Nat.exists_eq_add_of_le' hb
    rfl
  | cons entry entries ih =>
    obtain ⟨bound, rfl⟩ := Nat.exists_eq_add_one_of_ne_zero (Nat.ne_zero_of_lt hb)
    simp only [List.flatMap_cons, Layout.entryTokens, List.length_append, List.length_cons] at hb
    -- A key is read like a value that is a word.
    have hkey ts : nodeBefore bound handles .blockPair [.key, .value, .blockEnd] anchors
        (.scalar entry.1 true :: ts) = some (wordNode entry.1, anchors, ts) :=
      nodeBefore_value (.word entry.1) (show 1 + 4 ≤ bound by omega)
    have hvalue ts : nodeBefore bound handles .blockPair [.key, .value, .blockEnd] anchors
        (Layout.valueTokens entry.2 ++ ts) = some (entry.2.node, anchors, ts) :=
      nodeBefore_value entry.2 (by omega)
    have hentries := @ih bound (by omega)
    simp [Layout.entryTokens, blockPairs, hkey, hvalue, hentries, entryNode]

/-- **The document of a mapping without quotes** is the mapping. -/
theorem document?_mappingText (hn : entries ≠ []) (he : ∀ entry ∈ entries, IsPlainEntry entry) :
    document? (mappingText entries) = some (some (.mapping (entries.map entryNode))) := by
  let ts := entries.flatMap Layout.entryTokens
  have hnode (bound : Nat) (hb : ts.length + 7 ≤ bound) :
      node bound defaultHandles .block [] (.mappingStart :: (ts ++ [.blockEnd])) =
        some (.mapping (entries.map entryNode), [], []) := by
    obtain ⟨bound, rfl⟩ := Nat.exists_eq_add_of_le' (Nat.le_of_add_left_le hb)
    have hpairs : blockPairs (bound + 5) defaultHandles [] (ts ++ [.blockEnd]) =
        some (entries.map entryNode, [], []) :=
      blockPairs_entries (show ts.length + 5 ≤ bound + 5 by omega)
    simp [node, properties, content, comes, hpairs]
  have hdocument : document (.mappingStart :: (ts ++ [.blockEnd])) =
      some (.mapping (entries.map entryNode), []) := by
    rw [document, if_neg (by simp [Token.isDirective, comes]), hnode]
    · rfl
    · simp only [List.length_cons, List.length_append]
      omega
  rw [document?, tokens?_mappingText hn he]
  simp only [Option.bind_eq_bind, Option.bind_some, reduceCtorEq, if_false]
  rw [hdocument]
  rfl

end Entries

end TableThrift.Yaml
