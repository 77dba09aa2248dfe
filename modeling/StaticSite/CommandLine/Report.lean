/-
StaticSite.CommandLine.Report — the wording of what went wrong.
-/
import StaticSite.Generate.Run

namespace StaticSite.CommandLine

/-- The wording for a data file that gives no value. -/
def describeData (missing : Path → String) : DataError → String
  | .missing p => missing p
  | .unreadable cause => cause.reason
  | .notText => "The file is not UTF-8 text."
  | .document _ => "The file is not well-formed YAML."

/-- The wording for something that cannot be loaded. -/
def describeLoad {ε : Type} (missing : Path → String) (message : ε → Option String) :
    LoadError ε → String
  | .file e => describeData missing e
  | .content e => (message e).getD "The file holds a value of the wrong kind."

/-- The wording for a file that could not be read or written. -/
def describeUnavailable (resource : Unavailable) : String :=
  resource.path.text ++ ": " ++ resource.cause.reason

/-- The wording for a file that could not be read or written, or cannot exist. -/
def describeAccess : AccessError → String
  | .unavailable resource => describeUnavailable resource
  | .invalidPath => FileError.reason .invalidPath

/-- The wording for a page that is not generated. -/
def describePage : PageError → String
  | .stylesheet (.access e) => describeAccess e
  | .stylesheet .notText => "The stylesheet is not UTF-8 text."
  | .content .missing => "The page has no content."
  | .content (.releases e) => describeLoad missingNotesMessage ReleaseError.message e
  | .output (.access e) => describeAccess e
  | .output .notCharacters => "The page is not a text of characters."

/-- The wording for a page that ends a run. -/
def describeAbort : RunAbort → String
  | .page e => describePage e
  | .unshown => "The working directory is not there any more."

/-- The wording for a run that failed. -/
def describeRun : RunError → String
  | .config e => describeLoad SiteConfig.missingMessage ConfigError.message e
  | .unknownPage key => unknownPageMessage key
  | .outputDir e => e.reason
  | .unavailable resource => describeUnavailable resource
  | .aborted cause => describeAbort cause

end StaticSite.CommandLine
