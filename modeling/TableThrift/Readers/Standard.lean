import TableThrift.Options.File
import TableThrift.Readers.Json.Options
import TableThrift.Readers.Json.Wording
import TableThrift.Readers.Yaml.Options

/-!
# The readers of the program

The program reads JSON and YAML with readers of its own, which keep the laws of readers. Their words
for what is wrong with a text are their own as well, and no theorem speaks of them: they tell no
place in the text, and of a text that is no YAML nothing more than that.

## Main definitions

* `Options.standardReaders`: the readers of both formats
-/

namespace TableThrift.Options

/-- The readers of both formats, with their words for what is wrong. -/
def standardReaders : Readers
  | .json, text => (ofJson text).mapError TableThrift.Json.Problem.message
  | .yaml, text =>
    match ofYaml text with
    | some o => .ok o
    | none => .error "not a YAML document of options".toList

end TableThrift.Options
