import SourceLint.Config.Basic

/-!
# The initial config file

The name under which a config file is looked for, and the text that a new one
gets. It spells out the default settings and also leaves out `.git`.
-/

namespace SourceLint.Config

/-- The name of the config file. -/
def fileName : String :=
  "srccheck.toml"

/-- The text of a new config file. -/
def initialText : String :=
  "[analyzer]\n"
    ++ "sources = [\".\"]\n"
    ++ "exclude = [\"**/build/**\", \"**/.git/**\"]\n"
    ++ "header_extensions = [\"h\"]\n"
    ++ "source_extensions = [\"cpp\"]\n"
    ++ "\n"
    ++ "[rules.system-includes]\n"
    ++ "enabled = true\n"
    ++ "severity = \"error\"\n"
    ++ "\n"
    ++ "[rules.header-guard]\n"
    ++ "enabled = true\n"
    ++ "severity = \"error\"\n"
    ++ "\n"
    ++ "[rules.test-group]\n"
    ++ "enabled = true\n"
    ++ "severity = \"error\"\n"
    ++ "\n"
    ++ "[rules.line-length]\n"
    ++ "enabled = true\n"
    ++ "severity = \"error\"\n"
    ++ "max = 140\n"

end SourceLint.Config
