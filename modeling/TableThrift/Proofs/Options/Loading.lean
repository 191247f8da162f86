import TableThrift.Proofs.FileSystem.Paths
import TableThrift.Proofs.Readers.Yaml.Options

/-!
# Loading options

The options of a file are those of the members that its reader hands over, whichever reader keeps
the laws: in JSON in any spelling, and the same in YAML as in JSON.

## Main results

* `Options.ofPath?_isJsonPath`, `Options.ofPath?_isYamlPath`: the kinds of files
* `Options.load_jsonText`: all spellings of the same options load alike
* `Options.load_layoutText`: the same options in YAML and in JSON load alike
-/

namespace TableThrift.Options

open TableThrift.Json (Bracketed Document Quoted WellFormed)

/-! ## Paths -/

section Paths

/-- The kind of a file is told by the extension of its name. -/
theorem ofPath?_join {directory stem ext lower : Text} (hs : stem ≠ [] ∧ '/' ∉ stem)
    (he : ext.map Char.toLower = lower) (hl : lower ≠ [] ∧ '/' ∉ lower ∧ '.' ∉ lower) :
    Format.ofPath? (Path.join directory (stem ++ '.' :: ext)) = Format.ofExtension? ext := by
  subst he
  have hext : ext ≠ [] ∧ '/' ∉ ext ∧ '.' ∉ ext :=
    ⟨fun hnil => hl.1 (by rw [hnil]; rfl), fun hc => hl.2.1 (List.mem_map_of_mem hc),
      fun hc => hl.2.2 (List.mem_map_of_mem hc)⟩
  rw [Format.ofPath?, Path.extension?_join hs hext, Option.bind_some]

theorem ofPath?_isJsonPath {path : Text} (h : IsJsonPath path) :
    Format.ofPath? path = some .json := by
  cases h with
  | mk hs he =>
    rw [ofPath?_join hs he (by decide), Format.ofExtension?]
    simp [he]

theorem ofPath?_isYamlPath {path : Text} (h : IsYamlPath path) :
    Format.ofPath? path = some .yaml := by
  cases h with
  | @mk directory stem ext hs he =>
    have hlower : ∀ lower ∈ ["yaml".toList, "yml".toList],
        lower ≠ [] ∧ '/' ∉ lower ∧ '.' ∉ lower := by decide
    rw [ofPath?_join hs rfl (hlower _ he), Format.ofExtension?]
    -- JSON is looked for first.
    have hjson : ext.map Char.toLower ≠ "json".toList := by
      intro hjson
      rw [hjson] at he
      exact absurd he (by decide)
    exact (if_neg hjson).trans (if_pos (List.mem_pair.1 he))

end Paths

/-! ## Loading -/

section Loading

variable {readers : Readers} {fill? : List Member → Option Options} {scalar? : Text → Option Text}
  {read : Text → Except FileSystem.Problem Text} {path jsonPath text jsonText : Text}
  {ms ms' : List Member} {format : Format} {o : Options}

/-- A text from which its reader takes options. -/
theorem load_of_toOption_eq_some (hp : Format.ofPath? path = some format)
    (hr : read path = .ok text) (h : (readers format text).toOption = some o) :
    load readers read path = .ok o := by
  simp only [load, hr, ofText, hp]
  cases hread : readers format text with
  | error cause => simp [hread, Except.toOption] at h
  | ok o' => simpa [hread, Except.toOption] using h

/-- A text from which its reader takes none. -/
theorem load_of_toOption_eq_none (hp : Format.ofPath? path = some format)
    (hr : read path = .ok text) (h : (readers format text).toOption = none) :
    ∃ cause, load readers read path = .error (.malformed format path cause) := by
  simp only [load, hr, ofText, hp]
  cases hread : readers format text with
  | error cause => exact ⟨cause, rfl⟩
  | ok o' => simp [hread, Except.toOption] at h

/-- **All spellings of the same options load alike**, by any reader of JSON that keeps the laws. For
a file whose extension is `json` in any case: the members of an object give their options, in
whatever order, spelling and company they come, as long as no option is named twice; otherwise
there are no options. A sequence of the values in the order of the keys gives the same options, the
missing ones empty. -/
theorem load_jsonText (hf : FillLaws fill?) (hj : JsonLaws (readers .json) fill?)
    (hp : IsJsonPath path) (hr : read path = .ok text) :
    (∀ ms, ObjectText ms text →
      ((keys ms).Nodup → load readers read path = .ok (ofMembers ms)) ∧
      (¬(keys ms).Nodup →
        ∃ cause, load readers read path = .error (.malformed .json path cause))) ∧
    ∀ p g ms, ms <+: [.tablePrefix p, .ignored g] → SequenceText ms text →
      load readers read path = .ok (ofMembers ms) := by
  have hformat := ofPath?_isJsonPath hp
  refine ⟨fun ms ht => ⟨fun hn => ?_, fun hn => ?_⟩, fun p g ms hms ht => ?_⟩
  · exact load_of_toOption_eq_some hformat hr ((hj.object ms text ht).trans (hf.eq_some hn))
  · refine load_of_toOption_eq_none hformat hr ((hj.object ms text ht).trans ?_)
    rw [hf.eq_given?, given?, if_neg hn]
  · exact load_of_toOption_eq_some hformat hr
      ((hj.sequence p g ms text hms ht).trans (hf.eq_some (nodup_keys_of_sequence hms)))

/-- An object in mixed spellings: a member that is no option, with brackets and half a surrogate
pair inside, and the table prefix, with an escape in its key and a surrogate pair as its value. -/
def mixedText : Text :=
  "\x7b\"k\":[-1e5,\x7b\"\":\"\\ud800\"\x7d],\n".toList ++
    "\"\\u0074able_prefix\": \"\\uD83D\\ude00\"\x7d".toList

/-- An object that names an option twice. -/
def repeatedText : Text := "\x7b\"table_prefix\":\"a\",\"table_prefix\":\"b\"\x7d".toList

/-- The member with the brackets. -/
def bracketMember : Member := .other ['k'] (by rintro (_ | _) <;> decide)

theorem written_bracketMember :
    bracketMember.Written "\"k\":[-1e5,\x7b\"\":\"\\ud800\"\x7d]".toList := by
  have hnumber : WellFormed .value _ :=
    .numeral (.mk (.inr rfl) (.digits (c := '1') (t := []) (by decide) (by decide)) .absent
      (.digits (e := 'e') (t := ['5']) (.inl rfl) (.inl rfl) (by decide)))
  have hhalf : WellFormed .value _ :=
    .literal (@Json.Literal.mk [['\\', 'u', 'd', '8', '0', '0']] (List.forall_mem_singleton.2
      (.unit (n := 0xD800) (by decide) (by decide))))
  have hempty : Json.Literal ['"', '"'] := @Json.Literal.mk [] nofun
  have hobject : WellFormed .value _ :=
    @WellFormed.enclosed .object _ (.cons (.first (b := []) (by decide))
      (.object hempty (b := []) (c := []) (by decide) (by decide)) hhalf
      (.nil (b := []) (by decide)))
  have hvalue : WellFormed .value _ :=
    @WellFormed.enclosed .sequence _ (.cons (.first (b := []) (by decide)) .sequence hnumber
      (.cons (.comma (b := []) (c := []) (by decide) (by decide)) .sequence hobject
        (.nil (b := []) (by decide))))
  have hmember : bracketMember.Written _ :=
    .mk (b := []) (c := []) (Json.quoted_plain (by decide)) (by decide) (by decide) hvalue
  refine Eq.subst (motive := Member.Written _) ?_ hmember
  decide +kernel

theorem objectText_mixedText :
    ObjectText [bracketMember, .tablePrefix ['😀']] mixedText := by
  have hpair : Quoted ['😀'] _ :=
    .mk (.cons (.pair (t := ['D', '8', '3', 'D']) (u := ['d', 'e', '0', '0'])
      (by decide) (by decide) (by decide)) .nil)
  have hkey : Quoted Key.tablePrefix.word _ :=
    .mk (.cons (.unit (t := ['0', '0', '7', '4']) (by decide) (by decide))
      (Json.spelling_plain (by decide)))
  have hprefix : (Member.tablePrefix ['😀']).Written _ :=
    .mk (b := []) (c := [' ']) hkey (by decide) (by decide) hpair
  have htext : ObjectText [bracketMember, .tablePrefix ['😀']] _ :=
    .mk (b := []) (c := []) (by decide)
      (.mk (.cons (.first (b := []) (by decide)) written_bracketMember
        (.cons (.comma (b := []) (c := ['\n']) (by decide) (by decide)) hprefix
          (.nil (b := []) (by decide))))) (by decide)
  refine Eq.subst (motive := ObjectText _) ?_ htext
  decide +kernel

theorem objectText_repeatedText :
    ObjectText [.tablePrefix ['a'], .tablePrefix ['b']] repeatedText := by
  have hkey : Quoted Key.tablePrefix.word _ := Json.quoted_plain (by decide)
  have ha : (Member.tablePrefix ['a']).Written _ :=
    .mk (b := []) (c := []) hkey (by decide) (by decide) (Json.quoted_plain (by decide))
  have hb : (Member.tablePrefix ['b']).Written _ :=
    .mk (b := []) (c := []) hkey (by decide) (by decide) (Json.quoted_plain (by decide))
  have htext : ObjectText [.tablePrefix ['a'], .tablePrefix ['b']] _ :=
    .mk (b := []) (c := []) (by decide)
      (.mk (.cons (.first (b := []) (by decide)) ha
        (.cons (.comma (b := []) (c := []) (by decide) (by decide)) hb
          (.nil (b := []) (by decide))))) (by decide)
  refine Eq.subst (motive := ObjectText _) ?_ htext
  decide +kernel

/-- The outcomes at fixed texts: mixed spellings, a key that comes twice, and an empty sequence. -/
theorem load_jsonText_mixed :
    (FillLaws given? ∧ JsonLaws (standardReaders .json) given?) ∧
    IsJsonPath "conf/a.b.JsOn".toList ∧
    load standardReaders (fun _ => .ok mixedText) "conf/a.b.JsOn".toList = .ok ⟨['😀'], []⟩ ∧
    (∃ cause, load standardReaders (fun _ => .ok repeatedText) "conf/a.b.JsOn".toList =
      .error (.malformed .json "conf/a.b.JsOn".toList cause)) ∧
    load standardReaders (fun _ => .ok ['[', ']']) "conf/a.b.JsOn".toList = .ok ⟨[], []⟩ := by
  have hp : IsJsonPath "conf/a.b.JsOn".toList := by
    refine Eq.subst (motive := IsJsonPath) ?_
      (@IsJsonPath.mk "conf".toList "a.b".toList "JsOn".toList (by decide) (by decide))
    decide +kernel
  have hempty : SequenceText [] ['[', ']'] :=
    @Document.mk _ [] ['[', ']'] [] (by decide) (.mk (.nil (b := []) (by decide))) (by decide)
  have hmixed := @load_jsonText standardReaders given? (fun _ => .ok mixedText) _ _ fillLaws_given?
    jsonLaws_standardReaders hp rfl
  have hrepeated := @load_jsonText standardReaders given? (fun _ => .ok repeatedText) _ _
    fillLaws_given? jsonLaws_standardReaders hp rfl
  have hsequence := @load_jsonText standardReaders given? (fun _ => .ok ['[', ']']) _ _
    fillLaws_given? jsonLaws_standardReaders hp rfl
  exact ⟨⟨fillLaws_given?, jsonLaws_standardReaders⟩, hp,
    (hmixed.1 _ objectText_mixedText).1 (by decide),
    (hrepeated.1 _ objectText_repeatedText).2 (by decide),
    hsequence.2 [] [] [] List.nil_prefix hempty⟩

/-- **The same options in YAML and in JSON load alike**, by any two readers that keep the laws. The
lines of a YAML file without quotes stand in any order and none has to be there; whatever a word
might mean by itself, it is taken as the string that the JSON object holds. -/
theorem load_layoutText (hf : FillLaws fill?) (hjson : JsonLaws (readers .json) fill?)
    (hyaml : YamlLaws (readers .yaml) scalar? fill?)
    (hy : IsYamlPath path) (hj : IsJsonPath jsonPath) (hn : (keys ms).Nodup)
    (hms : ms.Perm ms') (ht : LayoutText ms text) (hjt : ObjectText ms' jsonText)
    (hr : read path = .ok text) (hjr : read jsonPath = .ok jsonText) :
    load readers read path = .ok (ofMembers ms) ∧
      load readers read path = load readers read jsonPath := by
  have hload : load readers read path = .ok (ofMembers ms) := by
    -- The words are taken as they stand, so the members are those that JSON spells.
    refine load_of_toOption_eq_some (ofPath?_isYamlPath hy) hr ((hyaml.layout ms text ht).trans ?_)
    rw [mapM_mapWords? hyaml.plain ht, Option.bind_some, hf.eq_some hn]
  have hjsonLoad : load readers read jsonPath = .ok (ofMembers ms') := by
    have hn' : (keys ms').Nodup := (hms.filterMap Member.key?).nodup_iff.1 hn
    exact load_of_toOption_eq_some (ofPath?_isJsonPath hj) hjr
      ((hjson.object ms' jsonText hjt).trans (hf.eq_some hn'))
  exact ⟨hload, by rw [hload, hjsonLoad, ofMembers_perm hms hn]⟩

/-- Words that another reader would take for `null`, a truth value and a number, and one that it
would not. -/
def lookalikes : List Text := ["null".toList, "true".toList, "12".toList, "_x".toList]

/-- The lines of a file with these words, and a number as the table prefix. -/
def lookalikeLines : Text := "ignore_fields: [null, true, 12, _x]\ntable_prefix: 007\n".toList

/-- An object with the same members, in the other order. -/
def lookalikeObject : Text :=
  "\x7b\"table_prefix\":\"007\",\"ignore_fields\":[\"null\",\"true\",\"12\",\"_x\"]\x7d".toList

theorem objectText_lookalikeObject :
    ObjectText [.tablePrefix "007".toList, .ignored lookalikes] lookalikeObject := by
  have hprefix : (Member.tablePrefix "007".toList).Written _ :=
    .mk (b := []) (c := []) (Json.quoted_plain (by decide)) (by decide) (by decide)
      (Json.quoted_plain (by decide))
  have hlist : Bracketed .sequence Quoted lookalikes _ :=
    .mk (.cons (.first (b := []) (by decide)) (Json.quoted_plain (by decide))
      (.cons (.comma (b := []) (c := []) (by decide) (by decide)) (Json.quoted_plain (by decide))
      (.cons (.comma (b := []) (c := []) (by decide) (by decide)) (Json.quoted_plain (by decide))
      (.cons (.comma (b := []) (c := []) (by decide) (by decide)) (Json.quoted_plain (by decide))
        (.nil (b := []) (by decide))))))
  have hignored : (Member.ignored lookalikes).Written _ :=
    .mk (b := []) (c := []) (Json.quoted_plain (by decide)) (by decide) (by decide) hlist
  have htext : ObjectText [.tablePrefix "007".toList, .ignored lookalikes] _ :=
    .mk (b := []) (c := []) (by decide)
      (.mk (.cons (.first (b := []) (by decide)) hprefix
        (.cons (.comma (b := []) (c := []) (by decide) (by decide)) hignored
          (.nil (b := []) (by decide))))) (by decide)
  refine Eq.subst (motive := ObjectText _) ?_ htext
  decide +kernel

theorem layoutText_lookalikeLines :
    LayoutText [.ignored lookalikes, .tablePrefix "007".toList] lookalikeLines := by
  have htext : LayoutText [.ignored lookalikes, .tablePrefix "007".toList] _ :=
    .cons (.ignored (by decide)) (.cons (.tablePrefix (by decide)) .nil)
  refine Eq.subst (motive := LayoutText _) ?_ htext
  decide +kernel

/-- A YAML file and a JSON file with the same options. -/
def lookalikeFiles (path : Text) : Except FileSystem.Problem Text :=
  .ok (if path = "conf/options.json".toList then lookalikeObject else lookalikeLines)

/-- The outcome at fixed files: words that are taken as strings, in both orders of the options. -/
theorem load_layoutText_lookalikes :
    (FillLaws given? ∧ JsonLaws (standardReaders .json) given? ∧
      YamlLaws (standardReaders .yaml) some given?) ∧
    (IsYamlPath "conf/options.YmL".toList ∧ IsJsonPath "conf/options.json".toList) ∧
    load standardReaders lookalikeFiles "conf/options.YmL".toList =
      .ok ⟨"007".toList, lookalikes⟩ ∧
    load standardReaders lookalikeFiles "conf/options.YmL".toList =
      load standardReaders lookalikeFiles "conf/options.json".toList := by
  have hy : IsYamlPath "conf/options.YmL".toList := by
    refine Eq.subst (motive := IsYamlPath) ?_
      (@IsYamlPath.mk "conf".toList "options".toList "YmL".toList (by decide) (by decide))
    decide +kernel
  have hj : IsJsonPath "conf/options.json".toList := by
    refine Eq.subst (motive := IsJsonPath) ?_
      (@IsJsonPath.mk "conf".toList "options".toList "json".toList (by decide) (by decide))
    decide +kernel
  have hr : lookalikeFiles "conf/options.YmL".toList = .ok lookalikeLines := by decide +kernel
  have hjr : lookalikeFiles "conf/options.json".toList = .ok lookalikeObject := by decide +kernel
  exact ⟨⟨fillLaws_given?, jsonLaws_standardReaders, yamlLaws_standardReaders⟩, ⟨hy, hj⟩,
    load_layoutText fillLaws_given? jsonLaws_standardReaders yamlLaws_standardReaders hy hj
      (by decide) (.swap _ _ _) layoutText_lookalikeLines objectText_lookalikeObject hr hjr⟩

end Loading

end TableThrift.Options
