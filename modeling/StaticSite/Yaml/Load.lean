/-
StaticSite.Yaml.Load — the value that a file spells.
-/
import StaticSite.Yaml.Document
import StaticSite.Yaml.Meaning

namespace StaticSite.Yaml

/-- Reads the value of a file; a file without a document stands for null. -/
def load (text : List Char) : Except Error Value :=
  match readFile text with
  | .error e => .error e
  | .ok ⟨_, none⟩ => .ok .null
  | .ok ⟨setting, some root⟩ =>
    match root.resolve with
    | .error e => .error e
    | .ok root =>
      match root.value ⟨setting.version, false⟩ with
      | .error f => .error f.error
      | .ok v => .ok v

end StaticSite.Yaml
