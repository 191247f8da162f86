import Mathlib.Data.List.TakeWhile
import Mathlib.Logic.Relation
import TableThrift.Proofs.Readers.Yaml.Words

/-!
# The tokens of a mapping without quotes

A mapping without quotes is read token by token. At the start of a line a key may come, behind its
colon its value does, and brackets are left where they close; at each of these places little else of
the reading matters. A key must have its colon within a limit, a value may have any length.

## Main definitions

* `Yaml.Layout.Reads`: one token is read
* `Yaml.Layout.lineStart`, `Yaml.Layout.atColon`, `Yaml.Layout.inValue`, `Yaml.Layout.inBrackets`:
  the places in a mapping
* `Yaml.IsPlainEntry`: the entries that can be read, as their keys are short enough
* `Yaml.Layout.itemTokens`, `Yaml.Layout.valueTokens`, `Yaml.Layout.entryTokens`: the tokens of
  words in brackets, of a value and of an entry

## Main results

* `Yaml.Layout.exists_run_eq`: the number of tokens is bounded by the text
* `Yaml.Layout.reads_items`, `Yaml.Layout.reads_value`, `Yaml.Layout.reads_entries`: lists, values
  and entries
* `Yaml.tokens?_mappingText`: the tokens of a mapping
-/

namespace TableThrift.Yaml

open Relation (ReflTransGen)

/-- An entry of a mapping without quotes whose key is short enough to be read. -/
structure IsPlainEntry (entry : Text × PlainValue) : Prop where
  key : BareWord entry.1
  length : entry.1.length ≤ Layout.keyLimit
  value : entry.2.Bare

namespace Layout

variable {s s' u v : Layout} {t w : Text} {ts : List Token} {p : Position} {columns : List Nat}

/-! ## One token -/

section Reads

/-- One token is read, and at least a character with it. -/
def Reads (s s' : Layout) : Prop :=
  s'.rest.length < s.rest.length ∧ ∀ bound, s.run (bound + 1) = s'.run bound

/-- **A bound that covers the text is enough** for the tokens in it. -/
theorem exists_run_eq (h : ReflTransGen Reads s s') {bound : Nat} (hb : s.rest.length < bound) :
    ∃ bound', s'.rest.length < bound' ∧ s.run bound = s'.run bound' := by
  induction h using ReflTransGen.head_induction_on generalizing bound with
  | refl => exact ⟨bound, hb, rfl⟩
  | head hs _ ih =>
    -- A token takes a character at least, so one less covers what is left.
    obtain ⟨hlt, hrun⟩ := hs
    obtain ⟨bound, rfl⟩ := Nat.exists_eq_add_one_of_ne_zero (Nat.ne_zero_of_lt hb)
    rw [hrun]
    exact ih (by omega)

theorem close_eq {isOver : Nat → Bool} (h : ∀ column ∈ s.columns, isOver column = false) :
    s.close isOver = s := by
  have hnone : s.columns.takeWhile isOver = [] :=
    List.takeWhile_eq_nil_iff.2 fun hl => by simp [h _ (List.getElem_mem hl)]
  have hall : s.columns.dropWhile isOver = s.columns :=
    List.dropWhile_eq_self_iff.2 fun hl => by simp [h _ (List.getElem_mem hl)]
  unfold close
  rw [hnone, hall]
  split <;> rfl

theorem length_toToken_le (s : Layout) : s.toToken.rest.length ≤ s.rest.length :=
  length_skipSpace_le _ _ _ _ s.rest

/-- **How a token is read** while no collection ends: space in front of it is passed over, keys that
are too far away are dropped, and then its first character tells what it is. -/
theorem Reads.of_next (ht : s.toToken = v) (hd : v.dropStale = some u)
    (hc : ∀ column ∈ u.columns, column = 0) (hn : u.next = some s')
    (hlt : s'.rest.length < v.rest.length) : Reads s s' := by
  subst ht
  refine ⟨Nat.lt_of_lt_of_le hlt (length_toToken_le s), fun bound => ?_⟩
  have hclose : (u.close fun column => u.position.column < column) = u :=
    close_eq fun column hmem => by simp [hc column hmem]
  -- A token comes next, so the text is not at its end.
  have hrest : u.rest ≠ [] := by
    intro hnil
    rw [next, hnil] at hn
    cases hn
  rw [run, hd]
  simp [hclose, hrest, hn]

end Reads

/-! ## In front of a token -/

section Space

theorem toToken_of_startsToken (h : StartsToken s.rest) : s.toToken = s := by
  simp [toToken, h.skipSpace, moveTo]

theorem toToken_space (hr : s.rest = ' ' :: t) (h : StartsToken t) :
    s.toToken = { s with rest := t, position := s.position.after [' '] } := by
  simp [toToken, hr, h.skipSpace_space, moveTo]

/-- Behind a line break a key may start. -/
theorem toToken_newline (hr : s.rest = '\n' :: t) (h : StartsToken t) :
    s.toToken = { s with
      rest := t
      position := s.position.after ['\n']
      isKeyAllowed := s.isKeyAllowed || !s.inFlow } := by
  simp [toToken, hr, h.skipSpace_newline, moveTo, inFlow]

end Space

/-! ## The first character of a token -/

section Next

theorem moveTo_append (hr : s.rest = w ++ t) :
    s.moveTo t = { s with rest := t, position := s.position.after w } := by
  simp [moveTo, hr]

/-- **A bare word is a plain scalar**, which goes up to where the word ends. -/
theorem next_bareWord {rest : Text} {isBroken : Bool} (hr : s.rest = w ++ t) (hw : BareWord w)
    (hs : s.saveKey = some u)
    (hread : plain u.inFlow u.least u.rest = some ⟨w, isBroken, rest⟩) :
    s.next = some { (u.moveTo rest).emit (.scalar w true) with isKeyAllowed := isBroken } := by
  have hplain : s.plainScalar =
      some { (u.moveTo rest).emit (.scalar w true) with isKeyAllowed := isBroken } := by
    rw [plainScalar, hs]
    simp [hread]
  rw [← hplain]
  obtain ⟨c, w, rfl⟩ := List.exists_cons_of_ne_nil hw.1
  have hc := hw.2 c List.mem_cons_self
  have hi : c ∉ indicators := not_mem_of_isBare hc (by decide)
  have hstart : startsPlain s.inFlow c (w ++ t) = true := by
    simp [startsPlain, isSpace_of_isBare hc, hi]
  have hmark (mark : Char) (h : isBare mark = false) :
      startsWithMark mark (c :: (w ++ t)) = false := by
    simp [startsWithMark, (ne_of_isBare hc h).symm]
  have hne (d : Char) (h : isBare d = false) : (c = d) = False := eq_false (ne_of_isBare hc h)
  rw [List.cons_append] at hr
  unfold next
  rw [hr]
  simp (disch := decide) only [hmark, hne, hstart, and_false, false_and, if_false, if_true,
    Bool.false_eq_true]

theorem next_opening (hr : s.rest = '[' :: t) : s.next = s.openBracket .sequenceOpen := by
  simp [next, hr, startsWithMark]

theorem next_closing (hr : s.rest = ']' :: t) : s.next = s.closeBracket .sequenceClose := by
  simp [next, hr, startsWithMark]

theorem next_comma (hr : s.rest = ',' :: t) : s.next = s.comma := by
  simp [next, hr, startsWithMark]

theorem next_colon (hr : s.rest = ':' :: t) (ht : endsWord t = true) : s.next = s.value := by
  simp [next, hr, startsWithMark, ht]

end Next

/-! ## Places -/

section Places

/-- The start of a line of a mapping that is not indented. It has no columns before its first
key. -/
def lineStart (p : Position) (columns : List Nat) (ts : List Token) (t : Text) : Layout :=
  { rest := t, position := p, columns, tokens := ts }

/-- The colon behind a key `w`, which started at `p`. -/
def atColon (p : Position) (columns : List Nat) (ts : List Token) (w t : Text) : Layout where
  rest := ':' :: ' ' :: t
  position := p.after w
  isKeyAllowed := false
  key := some ⟨p, ts.length, columns.head? == some p.column⟩
  columns := columns
  tokens := .scalar w true :: ts

/-- A place in the value of a key, outside brackets. -/
def inValue (p : Position) (ts : List Token) (t : Text) : Layout :=
  { rest := t, position := p, isKeyAllowed := false, columns := [0], tokens := ts }

/-- A place in the brackets of a value. -/
def inBrackets (p : Position) (isKeyAllowed : Bool) (key : Option Candidate) (ts : List Token)
    (t : Text) : Layout :=
  { rest := t, position := p, isKeyAllowed, key, outer := [none], columns := [0], tokens := ts }

/-- A possible key that need not be one. -/
def Optional (key : Option Candidate) : Prop := ∀ c ∈ key, c.isRequired = false

theorem optional_none : Optional none := nofun

/-- The columns of the mapping, before its first key and behind it. -/
def Outermost (columns : List Nat) : Prop := columns = [] ∨ columns = [0]

/-- The token that the first key of the mapping brings with it. -/
def opening (columns : List Nat) : List Token := if columns = [] then [.mappingStart] else []

theorem Outermost.eq_zero (h : Outermost columns) : ∀ column ∈ columns, column = 0 := by
  rcases h with rfl | rfl <;> simp

theorem dropStale_lineStart (p : Position) (columns : List Nat) (ts : List Token) (t : Text) :
    (lineStart p columns ts t).dropStale = some (lineStart p columns ts t) := rfl

theorem dropStale_inValue (p : Position) (ts : List Token) (t : Text) :
    (inValue p ts t).dropStale = some (inValue p ts t) := rfl

/-- The colon of a key comes in time if the key is short enough. -/
theorem dropStale_atColon (hw : BareWord w) (hl : w.length ≤ keyLimit) :
    (atColon p columns ts w t).dropStale = some (atColon p columns ts w t) := by
  -- A bare word stays in its line, and each of its characters is one byte.
  have hp : p.after w = ⟨p.index + w.length, p.line, p.column + w.length⟩ := by
    simpa using Position.after_bareWord hw.2 p []
  have hfresh (isRequired : Bool) :
      (atColon p columns ts w t).isStale ⟨p, ts.length, isRequired⟩ = false := by
    simp [isStale, atColon, hp, hl]
  have hkey : (atColon p columns ts w t).key =
      some ⟨p, ts.length, columns.head? == some p.column⟩ := rfl
  have houter : (atColon p columns ts w t).outer = [] := rfl
  simp only [dropStale, hkey, houter, hfresh, List.any_cons, List.any_nil, Option.any_some,
    Bool.false_and, Bool.or_false, Bool.false_eq_true, if_false, Option.filter_some,
    Bool.not_false, if_true, List.map_nil]
  rfl

/-- In brackets a possible key may be dropped at any time, as it is not required. -/
theorem dropStale_inBrackets (p : Position) (isKeyAllowed : Bool) {key : Option Candidate}
    (ts : List Token) (t : Text) (hk : Optional key) :
    ∃ key', Optional key' ∧ (inBrackets p isKeyAllowed key ts t).dropStale =
      some (inBrackets p isKeyAllowed key' ts t) := by
  refine ⟨key.filter fun c => !(inBrackets p isKeyAllowed key ts t).isStale c,
    fun c hc => hk c (Option.mem_filter_iff.1 hc).1, ?_⟩
  have hnone : (key.any fun c => (inBrackets p isKeyAllowed key ts t).isStale c && c.isRequired) =
      false := by
    cases key with
    | none => rfl
    | some c => simp [hk c rfl]
  have houter : (inBrackets p isKeyAllowed key ts t).outer = [none] := rfl
  have hkey : (inBrackets p isKeyAllowed key ts t).key = key := rfl
  rw [dropStale, houter, hkey, List.any_cons, hnone]
  rfl

end Places

/-! ## Keys -/

section Keys

/-- A word at the start of a line may be a key. -/
theorem reads_key (hs : s.toToken = lineStart p columns ts (w ++ ':' :: ' ' :: t))
    (hw : BareWord w) (hc : Outermost columns) : Reads s (atColon p columns ts w t) := by
  have hstop : plainWord false (':' :: ' ' :: t) = some ([], ':' :: ' ' :: t) := by
    simp [plainWord, isSpace, isBlank, isBreak, endsWord]
  have hread (least : Nat) :
      plain false least (w ++ ':' :: ' ' :: t) = some ⟨w, false, ':' :: ' ' :: t⟩ :=
    plain_bareWord hw hstop (by simp [isSpace, isBlank, isBreak])
  have hsave : (lineStart p columns ts (w ++ ':' :: ' ' :: t)).saveKey =
      some { lineStart p columns ts (w ++ ':' :: ' ' :: t) with
        key := some ⟨p, ts.length, columns.head? == some p.column⟩ } := rfl
  refine Reads.of_next hs (dropStale_lineStart p columns ts _) hc.eq_zero ?_ ?_
  · rw [next_bareWord rfl hw hsave (hread _), moveTo_append rfl]
    rfl
  · have := List.length_pos_iff.2 hw.1
    simp [lineStart, atColon, this]

/-- A token that is put behind the first ones. -/
theorem insert_length {new : List Token} (h : s.tokens = new ++ ts) (token : Token) :
    s.insert ts.length token = { s with tokens := new ++ token :: ts } := by
  have hinsert : ∀ new : List Token,
      (new ++ ts).insertIdx new.length token = new ++ token :: ts := by
    intro new
    induction new with
    | nil => rfl
    | cons a new ih => simp [ih]
  rw [insert, h, List.length_append, Nat.add_sub_cancel, hinsert]

/-- The colon makes the tokens since the possible key a key, and the first key starts the
mapping. -/
theorem value_of_key {k : Candidate} (new : List Token) (hk : s.key = some k)
    (hp : k.position.column = 0) (hcount : k.count = ts.length) (hts : s.tokens = new ++ ts)
    (hc : Outermost s.columns) (ho : s.outer = []) (hr : s.rest = ':' :: t) :
    s.value = some (inValue (s.position.after [':'])
      (.value :: (new ++ .key :: (opening s.columns ++ ts))) t) := by
  have hkey : s.insert k.count .key = { s with tokens := new ++ .key :: ts } :=
    hcount ▸ insert_length hts .key
  -- The mark of the key is there by now, and that of the mapping goes in front of it.
  have hmapping : insert { s with tokens := new ++ .key :: ts } k.count .mappingStart =
      { s with tokens := new ++ .key :: .mappingStart :: ts } := by
    have hnew : new ++ .key :: ts = new ++ [.key] ++ ts := by simp
    rw [hcount, insert_length hnew]
    simp
  have hindent : indent { s with tokens := new ++ .key :: ts } k.position.column k.count
      .mappingStart = { s with
        tokens := new ++ .key :: (opening s.columns ++ ts)
        columns := [0] } := by
    rcases hc with hc | hc
    · rw [indent, hmapping]
      simp [hp, inFlow, least, ho, hc, opening]
    · simp [indent, hp, inFlow, least, ho, hc, opening]
  simp only [value, hk]
  rw [hkey, hindent]
  simp [moveTo, emit, inValue, hr, ho]

theorem reads_colon (hw : BareWord w) (hl : w.length ≤ keyLimit) (hp : p.column = 0)
    (hc : Outermost columns) :
    Reads (atColon p columns ts w t) (inValue ((p.after w).after [':'])
      (.value :: .scalar w true :: .key :: (opening columns ++ ts)) (' ' :: t)) := by
  have hstart : StartsToken (':' :: ' ' :: t) := startsToken_cons (by decide) _
  refine Reads.of_next (toToken_of_startsToken hstart) (dropStale_atColon hw hl) hc.eq_zero ?_ ?_
  · rw [next_colon rfl rfl]
    exact value_of_key [.scalar w true] rfl hp rfl rfl hc rfl rfl
  · simp [atColon, inValue]

end Keys

/-! ## Values -/

section Values

/-- At the start of a line the column is the first one. -/
theorem column_after_newline (hw : ∀ c ∈ w, isBare c = true) (p : Position) :
    (p.after (w ++ ['\n'])).column = 0 := by
  rw [Position.after_bareWord hw]
  rfl

/-- A word behind a colon is read up to the end of its line. -/
theorem reads_wordValue (hw : BareWord w) (ht : StartsToken t) :
    Reads (inValue p ts (' ' :: (w ++ '\n' :: t)))
      (lineStart ((p.after [' ']).after (w ++ ['\n'])) [0] (.scalar w true :: ts) t) := by
  have hspace : (inValue p ts (' ' :: (w ++ '\n' :: t))).toToken =
      inValue (p.after [' ']) ts (w ++ '\n' :: t) :=
    toToken_space rfl (hw.startsToken_append _)
  have hread : plain false 1 (w ++ '\n' :: t) = some ⟨w, true, t⟩ :=
    plain_bareWord_newline hw Nat.one_pos fun c hc => (ht c hc).1
  have hsave : (inValue (p.after [' ']) ts (w ++ '\n' :: t)).saveKey =
      some (inValue (p.after [' ']) ts (w ++ '\n' :: t)) := rfl
  have hrest : w ++ '\n' :: t = (w ++ ['\n']) ++ t := by simp
  refine Reads.of_next hspace (dropStale_inValue _ ts _) (by simp [inValue]) ?_ ?_
  · rw [next_bareWord rfl hw hsave hread, moveTo_append hrest]
    rfl
  · simp [inValue, lineStart]
    omega

theorem reads_opening (p : Position) (ts : List Token) (t : Text) :
    Reads (inValue p ts (' ' :: '[' :: t))
      (inBrackets ((p.after [' ']).after ['[']) true none (.sequenceOpen :: ts) t) := by
  have hspace : (inValue p ts (' ' :: '[' :: t)).toToken = inValue (p.after [' ']) ts ('[' :: t) :=
    toToken_space rfl (startsToken_cons (by decide) t)
  refine Reads.of_next hspace (dropStale_inValue _ ts _) (by simp [inValue]) ?_ ?_
  · rw [next_opening rfl]
    simp [openBracket, saveKey, inValue, inBrackets, moveTo, emit]
  · simp [inValue, inBrackets]

section Brackets

variable {isKeyAllowed : Bool} {key : Option Candidate} {ws : List Text}

theorem dropKey_inBrackets (hk : Optional key) :
    (inBrackets p isKeyAllowed key ts t).dropKey = some (inBrackets p isKeyAllowed none ts t) := by
  cases key with
  | none => rfl
  | some c => simp [dropKey, inBrackets, hk c rfl]

/-- In brackets a token is read with any possible key in front of it, as none is required. -/
theorem Reads.of_next_inBrackets (hs : s.toToken = inBrackets p isKeyAllowed key ts t)
    (hk : Optional key) : ∃ key', Optional key' ∧ ∀ s',
      (inBrackets p isKeyAllowed key' ts t).next = some s' → s'.rest.length < t.length →
        Reads s s' := by
  obtain ⟨key', hk', hdrop⟩ := dropStale_inBrackets p isKeyAllowed ts t hk
  exact ⟨key', hk', fun s' hn hlt => of_next hs hdrop (by simp [inBrackets]) hn hlt⟩

/-- In brackets a word is read up to the comma or the bracket behind it. -/
theorem reads_item {mark : Char} (hmark : mark = ',' ∨ mark = ']')
    (hs : s.toToken = inBrackets p isKeyAllowed key ts (w ++ mark :: t)) (hk : Optional key)
    (hw : BareWord w) :
    ∃ key', Optional key' ∧
      Reads s (inBrackets (p.after w) false key' (.scalar w true :: ts) (mark :: t)) := by
  obtain ⟨hspace, hcolon, hflow⟩ :
      isSpace mark = false ∧ mark ≠ ':' ∧ mark ∈ flowMarks := by
    rcases hmark with rfl | rfl <;> decide
  have hstop : plainWord true (mark :: t) = some ([], mark :: t) := by
    simp [plainWord, hspace, hcolon, hflow]
  have hread (least : Nat) : plain true least (w ++ mark :: t) = some ⟨w, false, mark :: t⟩ :=
    plain_bareWord hw hstop fun c hc => Option.mem_some_iff.1 hc ▸ hspace
  obtain ⟨key', hk', hreads⟩ := Reads.of_next_inBrackets hs hk
  have hlt : (mark :: t).length < (w ++ mark :: t).length := by
    have := List.length_pos_iff.2 hw.1
    simp [this]
  cases isKeyAllowed with
  | false =>
    have hsave : (inBrackets p false key' ts (w ++ mark :: t)).saveKey =
        some (inBrackets p false key' ts (w ++ mark :: t)) := rfl
    refine ⟨key', hk', hreads _ ?_ hlt⟩
    rw [next_bareWord rfl hw hsave (hread _), moveTo_append rfl]
    rfl
  | true =>
    -- Where a key may start, the word is a possible one.
    refine ⟨some ⟨p, ts.length, false⟩, by simp [Optional], hreads _ ?_ hlt⟩
    have hsave : (inBrackets p true key' ts (w ++ mark :: t)).saveKey =
        some (inBrackets p true (some ⟨p, ts.length, false⟩) ts (w ++ mark :: t)) := by
      rw [saveKey, dropKey_inBrackets hk']
      rfl
    rw [next_bareWord rfl hw hsave (hread _), moveTo_append rfl]
    rfl

theorem reads_comma (hk : Optional key) :
    Reads (inBrackets p isKeyAllowed key ts (',' :: t))
      (inBrackets (p.after [',']) true none (.comma :: ts) t) := by
  obtain ⟨key', hk', hreads⟩ := Reads.of_next_inBrackets
    (toToken_of_startsToken (s := inBrackets p isKeyAllowed key ts (',' :: t))
      (startsToken_cons (by decide) t)) hk
  refine hreads _ ?_ (Nat.lt_succ_self t.length)
  rw [next_comma rfl, comma, dropKey_inBrackets hk']
  simp [inBrackets, moveTo, emit]

theorem reads_closing (hk : Optional key) :
    Reads (inBrackets p isKeyAllowed key ts (']' :: t))
      (inValue (p.after [']']) (.sequenceClose :: ts) t) := by
  obtain ⟨key', hk', hreads⟩ := Reads.of_next_inBrackets
    (toToken_of_startsToken (s := inBrackets p isKeyAllowed key ts (']' :: t))
      (startsToken_cons (by decide) t)) hk
  refine hreads _ ?_ (Nat.lt_succ_self t.length)
  rw [next_closing rfl, closeBracket, dropKey_inBrackets hk']
  simp [inBrackets, inValue, moveTo, emit]

/-- The tokens of words in brackets, with a comma in front of each but the first. -/
def itemTokens (isFirst : Bool) : List Text → List Token
  | [] => []
  | w :: ws => (if isFirst then [] else [.comma]) ++ .scalar w true :: itemTokens false ws

theorem intercalate_cons_cons_append (v w : Text) (ws : List Text) (t : Text) :
    List.intercalate ", ".toList (w :: v :: ws) ++ t =
      w ++ ',' :: ' ' :: (List.intercalate ", ".toList (v :: ws) ++ t) := by
  simp [List.intercalate_cons_cons]

theorem startsToken_intercalate (hw : BareWord w) (ws : List Text) (t : Text) :
    StartsToken (List.intercalate ", ".toList (w :: ws) ++ t) := by
  cases ws with
  | nil =>
    rw [List.intercalate_singleton]
    exact hw.startsToken_append t
  | cons v ws =>
    rw [intercalate_cons_cons_append]
    exact hw.startsToken_append _

/-- **Words with commas between them** are read one by one, up to the bracket behind them. -/
theorem reads_items (hs : s.toToken = inBrackets p isKeyAllowed key ts
      (List.intercalate ", ".toList (w :: ws) ++ ']' :: t)) (hk : Optional key)
    (hws : ∀ v ∈ w :: ws, BareWord v) :
    ∃ p', ReflTransGen Reads s
      (inValue p' (.sequenceClose :: ((itemTokens true (w :: ws)).reverse ++ ts)) t) := by
  have hw := hws w List.mem_cons_self
  induction ws generalizing s p isKeyAllowed key ts w with
  | nil =>
    rw [List.intercalate_singleton] at hs
    obtain ⟨key', hk', hitem⟩ := reads_item (.inr rfl) hs hk hw
    exact ⟨_, .head hitem (.single (reads_closing hk'))⟩
  | cons v ws ih =>
    have hws' := fun u hu => hws u (List.mem_cons_of_mem w hu)
    have hv := hws' v List.mem_cons_self
    rw [intercalate_cons_cons_append] at hs
    obtain ⟨key', hk', hitem⟩ := reads_item (.inl rfl) hs hk hw
    -- Behind the comma and its space the next word comes as the first one did.
    have hspace (p : Position) (ts : List Token) :
        (inBrackets p true none ts
          (' ' :: (List.intercalate ", ".toList (v :: ws) ++ ']' :: t))).toToken =
        inBrackets (p.after [' ']) true none ts
          (List.intercalate ", ".toList (v :: ws) ++ ']' :: t) :=
      toToken_space rfl (startsToken_intercalate hv ws _)
    obtain ⟨p', hitems⟩ := ih (hspace _ _) optional_none hws' hv
    refine ⟨p', .head hitem (.head (reads_comma hk') ?_)⟩
    simpa [itemTokens] using hitems

end Brackets

/-- The tokens of a value. -/
def valueTokens : PlainValue → List Token
  | .word w => [.scalar w true]
  | .words ws => .sequenceOpen :: (itemTokens true ws ++ [.sequenceClose])

/-- **A value is read up to the start of the next line.** -/
theorem reads_value {value : PlainValue} (hv : value.Bare) (ht : StartsToken t) :
    ∃ s' p', ReflTransGen Reads (inValue p ts (' ' :: (value.text ++ '\n' :: t))) s' ∧
      s'.toToken = lineStart p' [0] ((valueTokens value).reverse ++ ts) t ∧ p'.column = 0 := by
  cases value with
  | word w =>
    exact ⟨_, _, .single (reads_wordValue hv ht), toToken_of_startsToken ht,
      column_after_newline hv.2 _⟩
  | words ws =>
    -- Behind the closing bracket only the line break is left.
    have hend (p' : Position) (ts' : List Token) :
        ∃ q, (inValue p' ts' ('\n' :: t)).toToken = lineStart q [0] ts' t ∧ q.column = 0 :=
      ⟨_, toToken_newline rfl ht, column_after_newline (w := []) nofun p'⟩
    have htext : PlainValue.text (.words ws) ++ '\n' :: t =
        '[' :: (List.intercalate ", ".toList ws ++ ']' :: '\n' :: t) := by
      simp [PlainValue.text]
    rw [htext]
    have hopening := reads_opening p ts (List.intercalate ", ".toList ws ++ ']' :: '\n' :: t)
    cases ws with
    | nil =>
      obtain ⟨q, hq⟩ := hend _ (.sequenceClose :: .sequenceOpen :: ts)
      exact ⟨_, q, .head hopening (.single (reads_closing optional_none)), hq⟩
    | cons w ws =>
      obtain ⟨p', hitems⟩ := reads_items
        (toToken_of_startsToken (startsToken_intercalate (hv w List.mem_cons_self) ws _))
        optional_none hv
      obtain ⟨q, hs, hq⟩ :=
        hend p' (.sequenceClose :: ((itemTokens true (w :: ws)).reverse ++ .sequenceOpen :: ts))
      refine ⟨_, q, .head hopening hitems, ?_, hq⟩
      simpa [valueTokens] using hs

end Values

/-! ## Entries -/

section Entries

variable {entry : Text × PlainValue} {entries : List (Text × PlainValue)}

/-- The tokens of an entry. -/
def entryTokens (entry : Text × PlainValue) : List Token :=
  .key :: .scalar entry.1 true :: .value :: valueTokens entry.2

theorem entryText_append (entry : Text × PlainValue) (t : Text) :
    entryText entry ++ t = entry.1 ++ ':' :: ' ' :: (entry.2.text ++ '\n' :: t) := by
  simp [entryText]

theorem startsToken_mappingText (he : ∀ entry ∈ entries, IsPlainEntry entry) :
    StartsToken (mappingText entries) := by
  cases entries with
  | nil => exact startsToken_nil
  | cons entry entries =>
    rw [mappingText, List.map_cons, List.flatten_cons, entryText_append]
    exact (he entry List.mem_cons_self).key.startsToken_append _

/-- **An entry is read up to the start of the next line.** -/
theorem reads_entry (hs : s.toToken = lineStart p columns ts (entryText entry ++ t))
    (hp : p.column = 0) (hc : Outermost columns) (he : IsPlainEntry entry) (ht : StartsToken t) :
    ∃ s' p', ReflTransGen Reads s s' ∧
      s'.toToken =
        lineStart p' [0] ((entryTokens entry).reverse ++ (opening columns ++ ts)) t ∧
      p'.column = 0 := by
  rw [entryText_append] at hs
  obtain ⟨s', p', hvalue, hs', hp'⟩ := reads_value he.value ht
  refine ⟨s', p', .head (reads_key hs he.key hc)
    (.head (reads_colon he.key he.length hp hc) hvalue), ?_, hp'⟩
  rw [hs']
  simp [entryTokens]

/-- **All entries are read**, line by line. -/
theorem reads_entries (hs : s.toToken = lineStart p [0] ts (mappingText entries))
    (hp : p.column = 0) (he : ∀ entry ∈ entries, IsPlainEntry entry) :
    ∃ s' p', ReflTransGen Reads s s' ∧
      s'.toToken = lineStart p' [0] ((entries.flatMap entryTokens).reverse ++ ts) [] := by
  induction entries generalizing s p ts with
  | nil => exact ⟨s, p, .refl, hs⟩
  | cons entry entries ih =>
    obtain ⟨hentry, hentries⟩ := List.forall_mem_cons.1 he
    -- The mapping has started, so an entry brings nothing but its own tokens.
    obtain ⟨s', p', hread, hs', hp'⟩ :=
      reads_entry hs hp (.inr rfl) hentry (startsToken_mappingText hentries)
    obtain ⟨s'', p'', hreads, hs''⟩ := ih hs' hp' hentries
    refine ⟨s'', p'', hread.trans hreads, ?_⟩
    rw [hs'']
    simp [opening]

/-- At the end of the text the mapping ends. -/
theorem run_end (hs : s.toToken = lineStart p [0] ts []) (bound : Nat) :
    s.run (bound + 1) = some (ts.reverse ++ [.blockEnd]) := by
  have hclose : ((lineStart p [0] ts []).close fun column => p.column < column) =
      lineStart p [0] ts [] := close_eq (by simp [lineStart])
  rw [run, hs, dropStale_lineStart]
  simp only [Option.bind_eq_bind, Option.bind_some]
  refine (if_pos (congrArg rest hclose)).trans ?_
  rw [show (lineStart p [0] ts []).position = p from rfl, hclose]
  simp [finish, close, inFlow, lineStart, dropKey]

end Entries

end Layout

/-! ## Texts -/

section Texts

variable {entry : Text × PlainValue} {entries : List (Text × PlainValue)}

theorem BareWord.all_isAllowed {w : Text} (hw : BareWord w) : w.all isAllowed = true :=
  List.all_eq_true.2 fun c hc => isAllowed_of_isBare (hw.2 c hc)

theorem all_isAllowed_intercalate {ws : List Text} (hws : ∀ w ∈ ws, BareWord w) :
    (List.intercalate ", ".toList ws).all isAllowed = true := by
  have hseparator : ", ".toList.all isAllowed = true := by decide
  induction ws with
  | nil => rfl
  | cons w ws ih =>
    obtain ⟨hw, hws⟩ := List.forall_mem_cons.1 hws
    cases ws with
    | nil => rw [List.intercalate_singleton, hw.all_isAllowed]
    | cons v ws =>
      simp only [List.intercalate_cons_cons, List.all_append, hw.all_isAllowed, hseparator, ih hws,
        Bool.and_true]

theorem all_isAllowed_text {value : PlainValue} (hv : value.Bare) :
    value.text.all isAllowed = true := by
  cases value with
  | word w => exact BareWord.all_isAllowed hv
  | words ws =>
    have hbrackets : "[".toList.all isAllowed = true ∧ "]".toList.all isAllowed = true := by decide
    simp only [PlainValue.text, List.all_append, all_isAllowed_intercalate hv, hbrackets,
      Bool.and_true]

theorem all_isAllowed_entryText (he : IsPlainEntry entry) :
    (entryText entry).all isAllowed = true := by
  have hmarks : ": ".toList.all isAllowed = true ∧ "\n".toList.all isAllowed = true := by decide
  simp only [entryText, List.all_append, he.key.all_isAllowed, all_isAllowed_text he.value,
    hmarks, Bool.and_true]

/-- **The tokens of a mapping without quotes.** -/
theorem tokens?_mappingText (hn : entries ≠ []) (he : ∀ entry ∈ entries, IsPlainEntry entry) :
    tokens? (mappingText entries) =
      some (.mappingStart :: (entries.flatMap Layout.entryTokens ++ [.blockEnd])) := by
  obtain ⟨entry, entries, rfl⟩ := List.exists_cons_of_ne_nil hn
  obtain ⟨hentry, hentries⟩ := List.forall_mem_cons.1 he
  -- The first entry starts the mapping, so it is read apart from the others.
  have hstart : (Layout.mk (mappingText (entry :: entries)) {} true none [] [] []).toToken =
      Layout.lineStart {} [] [] (entryText entry ++ mappingText entries) :=
    Layout.toToken_of_startsToken (Layout.startsToken_mappingText he)
  obtain ⟨s, p, hread, hs, hp⟩ := Layout.reads_entry hstart rfl (.inl rfl) hentry
    (Layout.startsToken_mappingText hentries)
  obtain ⟨s', p', hreads, hs'⟩ := Layout.reads_entries hs hp hentries
  obtain ⟨bound, hb, hrun⟩ := Layout.exists_run_eq (hread.trans hreads) (Nat.lt_succ_self _)
  obtain ⟨bound, rfl⟩ := Nat.exists_eq_add_one_of_ne_zero (Nat.ne_zero_of_lt hb)
  have hall : (mappingText (entry :: entries)).all isAllowed = true := by
    rw [mappingText, List.all_flatten, List.all_map]
    exact List.all_eq_true.2 fun e hmem => all_isAllowed_entryText (he e hmem)
  rw [tokens?, if_pos hall]
  refine hrun.trans ((Layout.run_end hs' bound).trans ?_)
  simp [Layout.opening]

end Texts

end TableThrift.Yaml
