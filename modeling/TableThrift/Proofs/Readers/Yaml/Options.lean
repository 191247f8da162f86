import TableThrift.Proofs.Readers.Json.Options
import TableThrift.Proofs.Readers.Yaml.Nodes

/-!
# The reader of YAML keeps its laws

A line of a YAML file does to the options what a member of a JSON object does. So its reading is
the same fold over the members.

## Main results

* `Options.exists_entry_of_line`: a line is an entry that does what the member does
* `Options.ofYaml_layoutText`: a YAML text comes to what its lines come to
* `Options.yamlLaws_standardReaders`: the reader of YAML keeps its laws
-/

namespace TableThrift.Options

open TableThrift.Yaml (PlainValue IsPlainEntry entryText entryNode mappingText wordNode)

variable {ms : List Member} {m : Member} {t line : Text}

/-! ## Lines -/

section Lines

variable {root : Yaml.Node} {seen : Partial}

theorem text?_wordNode (w : Text) : Yaml.text? root (wordNode w) = some w := rfl

theorem texts?_words (ws : List Text) :
    Yaml.texts? root (PlainValue.node (.words ws)) = some ws := by
  have hitems : (ws.map wordNode).mapM (Yaml.text? root) = some ws := by
    induction ws with
    | nil => rfl
    | cons w ws ih =>
      rw [List.map_cons, List.mapM_cons, text?_wordNode, ih]
      rfl
  exact hitems

/-- The keys are bare words and short enough. -/
theorem bareWord_word (key : Key) :
    Yaml.BareWord key.word ∧ key.word.length ≤ Yaml.Layout.keyLimit := by
  cases key <;> decide

theorem member?_tablePrefix (p : Text) :
    Yaml.member? root seen (entryNode (Key.tablePrefix.word, .word p)) =
      ((Member.tablePrefix p).add seen).toOption := by
  have hkey : Key.ofWord? Key.tablePrefix.word = some .tablePrefix := rfl
  have hvalue : Yaml.text? root (PlainValue.node (.word p)) = some p := rfl
  cases hseen : seen.has .tablePrefix <;>
    simp [Yaml.member?, entryNode, text?_wordNode, hkey, hvalue, hseen, Member.add, Member.key?,
      Member.store, Except.toOption]

theorem member?_ignored (g : List Text) :
    Yaml.member? root seen (entryNode (Key.ignored.word, .words g)) =
      ((Member.ignored g).add seen).toOption := by
  have hkey : Key.ofWord? Key.ignored.word = some .ignored := rfl
  cases hseen : seen.has .ignored <;>
    simp [Yaml.member?, entryNode, text?_wordNode, texts?_words, hkey, hseen, Member.add,
      Member.key?, Member.store, Except.toOption]

/-- **A line is an entry that does what the member does.** -/
theorem exists_entry_of_line (h : m.Line line) :
    ∃ entry, line = entryText entry ∧ IsPlainEntry entry ∧
      ∀ root seen, Yaml.member? root seen (entryNode entry) = (m.add seen).toOption := by
  cases h with
  | @tablePrefix p hp =>
    obtain ⟨hword, hlength⟩ := bareWord_word .tablePrefix
    exact ⟨(Key.tablePrefix.word, .word p), rfl, ⟨hword, hlength, hp⟩,
      fun _ _ => member?_tablePrefix p⟩
  | @ignored g hg =>
    obtain ⟨hword, hlength⟩ := bareWord_word .ignored
    refine ⟨(Key.ignored.word, .words g), ?_, ⟨hword, hlength, hg⟩, fun _ _ => member?_ignored g⟩
    have hopen : "ignore_fields: [".toList = Key.ignored.word ++ ": ".toList ++ "[".toList := rfl
    have hclose : "]\n".toList = "]".toList ++ "\n".toList := rfl
    simp only [entryText, PlainValue.text, hopen, hclose, List.append_assoc]

/-- The lines are the entries of a mapping, and reading them is a fold over the members. -/
theorem exists_entries_of_layoutText (h : LayoutText ms t) :
    ∃ entries, t = mappingText entries ∧ (∀ entry ∈ entries, IsPlainEntry entry) ∧
      ∀ root seen, (entries.map entryNode).foldlM (Yaml.member? root) seen =
        (ms.foldlM Member.add seen).toOption := by
  induction h with
  | nil => exact ⟨[], rfl, nofun, fun _ _ => rfl⟩
  | cons hl _ ih =>
    obtain ⟨entry, rfl, hentry, hmember⟩ := exists_entry_of_line hl
    obtain ⟨entries, rfl, hentries, hfold⟩ := ih
    refine ⟨entry :: entries, rfl, List.forall_mem_cons.2 ⟨hentry, hentries⟩, fun root seen => ?_⟩
    rw [List.map_cons, List.foldlM_cons, List.foldlM_cons, hmember]
    cases Member.add seen _ with
    | error problem => rfl
    | ok seen => exact hfold root seen

/-- **A YAML text comes to what its lines come to.** A repeated key is the only problem. -/
theorem ofYaml_layoutText (h : LayoutText ms t) :
    ofYaml t = ((ms.foldlM Member.add {}).map Partial.complete).toOption := by
  obtain ⟨entries, rfl, hentries, hfold⟩ := exists_entries_of_layoutText h
  have hcomplete : ((ms.foldlM Member.add {}).map Partial.complete).toOption =
      (ms.foldlM Member.add {}).toOption.map Partial.complete := by
    cases ms.foldlM Member.add {} <;> rfl
  rw [hcomplete]
  cases entries with
  | nil =>
    -- Without lines there is no document, which gives no options either.
    rw [← hfold .empty {}]
    rfl
  | cons entry entries =>
    rw [ofYaml, Yaml.document?_mappingText (by simp) hentries, ← hfold]
    rfl

end Lines

/-! ## The laws -/

/-- **The reader of YAML keeps its laws**, and takes every plain scalar as its text. -/
theorem yamlLaws_standardReaders : YamlLaws (standardReaders .yaml) some given? where
  plain _ _ := rfl
  layout ms text ht := by
    rw [mapM_mapWords? (fun _ _ => rfl) ht, Option.bind_some, ← toOption_foldlM_add,
      ← ofYaml_layoutText ht, standardReaders]
    cases ofYaml text <;> rfl

end TableThrift.Options
