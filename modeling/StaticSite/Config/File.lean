/-
StaticSite.Config.File — configurations read from files.
-/
import StaticSite.Config.Load
import StaticSite.Files.DataFile

namespace StaticSite

/-- The configuration that a file spells. -/
def SiteConfig.load (fs : FileSystem) (p : Path) : Except (LoadError ConfigError) SiteConfig :=
  fs.loadData SiteConfig.ofValue p

/-- The wording for a configuration file that does not exist. -/
def SiteConfig.missingMessage (p : Path) : String :=
  "Configuration file '" ++ p.text ++ "' not found."

end StaticSite
