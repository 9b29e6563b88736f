import FreeOrder.VerbTable

namespace FreeOrder

/-- A script together with what its author expects of it. -/
structure Fixture where
  description : Option String := none
  verbs : Option VerbTable := none
  expectedOutput : Option String := none
  expectedError : Option String := none
  expectsSyntaxError : Bool := false
  source : String := ""

namespace Fixture

/-- Takes over what a setting of the front matter says. -/
def set (fixture : Fixture) : String × Toml.Value → Option Fixture
  | ("description", .scalar (.text content)) => some { fixture with description := some content }
  | ("verbs", value) => do
    let table ← VerbTable.ofValue? value
    return { fixture with verbs := some table }
  | ("expect_output", .scalar (.text content)) =>
    some { fixture with expectedOutput := some content }
  | ("expect_error", .scalar (.text content)) =>
    some { fixture with expectedError := some content }
  | ("expect_parse_error", .scalar (.flag isSet)) =>
    some { fixture with expectsSyntaxError := isSet }
  | _ => none

def ofToml? (frontMatter source : String) : Option Fixture := do
  let document ← Toml.Document.ofText? frontMatter
  document.entries.foldlM set { source }

end Fixture

end FreeOrder
