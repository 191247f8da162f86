import TableThrift.Text.Basic
import TableThrift.Text.CaseTable

/-!
# Capitals and camel case

Upper-casing is the full Unicode mapping, in which one character may become two or three. Camel
case drops the underscores of an identifier and capitalizes every piece but the first.

## Main definitions

* `Text.upper`: the upper-case form of a character
* `Text.capitalize`: a text with its first character in upper case
* `Text.toCamelCase`: an identifier without its underscores

## Main results

* `Text.toCamelCase_of_not_mem`: a text without underscores stays as it is
-/

namespace TableThrift.Text

/-- The upper-case form of a character; the character itself when it has no other. -/
def upper (c : Char) : Text :=
  match caseExpansions.find? (·.1 == c.toNat) with
  | some (_, codes) => codes.map Char.ofNat
  | none =>
    match caseRuns.find? (·.covers c.toNat) with
    | some run => [Char.ofNat (run.upper c.toNat)]
    | none => [c]

/-- A text with its first character in upper case and the others unchanged. -/
def capitalize : Text → Text
  | [] => []
  | c :: cs => upper c ++ cs

/-- An identifier without its underscores: the first piece as it is, the others capitalized. -/
def toCamelCase (t : Text) : Text :=
  match split '_' t with
  | [] => []
  | first :: others => first ++ others.flatMap capitalize

@[simp] theorem capitalize_nil : capitalize [] = [] := rfl

theorem capitalize_cons (c : Char) (t : Text) : capitalize (c :: t) = upper c ++ t := rfl

theorem toCamelCase_of_split {t first : Text} {others : List Text}
    (h : split '_' t = first :: others) :
    toCamelCase t = first ++ others.flatMap capitalize := by
  rw [toCamelCase, h]

theorem split_of_not_mem {sep : Char} {t : Text} (h : sep ∉ t) : split sep t = [t] := by
  induction t with
  | nil => rfl
  | cons c cs ih =>
    have hc : c ≠ sep := fun e => h (by simp [e])
    rw [split_cons_of_ne hc, ih fun hm => h (List.mem_cons_of_mem _ hm)]
    rfl

/-- A text without underscores stays as it is. -/
theorem toCamelCase_of_not_mem {t : Text} (h : '_' ∉ t) : toCamelCase t = t := by
  simp [toCamelCase, split_of_not_mem h]

end TableThrift.Text
