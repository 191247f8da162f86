import TableThrift.Readers.Json.Basic
import TableThrift.Readers.Text.Shown

/-!
# The wording of JSON problems

## Main definitions

* `Json.Found.text`, `Json.Wanted.text`: the words for values
* `Json.Problem.message`: the wording of a problem
-/

namespace TableThrift.Json

/-- A value that was found, in words. -/
def Found.text : Found → Text
  | null => "null".toList
  | boolean value =>
    "boolean \x60".toList ++ (if value then "true".toList else "false".toList) ++ ['\x60']
  | integer t => "integer \x60".toList ++ t ++ ['\x60']
  | decimal t => "floating point \x60".toList ++ t ++ ['\x60']
  | string value => "string ".toList ++ Text.shown value
  | sequence => "sequence".toList
  | object => "map".toList

/-- A value that belongs in a place, in words. -/
def Wanted.text : Wanted → Text
  | string => "a string".toList
  | sequence => "a sequence".toList
  | options => "struct ConvertOptions".toList

/-- The wording of a problem. -/
def Problem.message : Problem → Text
  | malformed => "not well-formed JSON".toList
  | truncated => "the JSON text ends too early".toList
  | mismatch found wanted =>
    "invalid type: ".toList ++ found.text ++ ", expected ".toList ++ wanted.text
  | repeated key => "duplicate field \x60".toList ++ key ++ ['\x60']

end TableThrift.Json
