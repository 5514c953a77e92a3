/-!
# Help texts
-/

set_option autoImplicit false
set_option relaxedAutoImplicit false

namespace JvmSchema.CommandLine

/-- What help is given on. -/
inductive HelpTopic
  | program
  | classify
  | help
  deriving DecidableEq, Repr

/-- The help on a topic. -/
def HelpTopic.text : HelpTopic → String
  | .program =>
    "Classify JVM type descriptors into JSON schema kinds\n" ++
    "\n" ++
    "Usage: schemakind [OPTIONS] <COMMAND>\n" ++
    "\n" ++
    "Commands:\n" ++
    "  classify  Print the schema kind of each descriptor\n" ++
    "  help      Print this message or the help of the given subcommand(s)\n" ++
    "\n" ++
    "Options:\n" ++
    "      --config <CONFIG>  Config file (default: ./schemakind.toml if present)\n" ++
    "  -h, --help             Print help\n" ++
    "  -V, --version          Print version\n"
  | .classify =>
    "Print the schema kind of each descriptor\n" ++
    "\n" ++
    "Usage: schemakind classify [OPTIONS] <DESCRIPTORS>...\n" ++
    "\n" ++
    "Arguments:\n" ++
    "  <DESCRIPTORS>...  Type descriptors, e.g. \x60I\x60 or \x60Ljava/util/UUID;\x60\n" ++
    "\n" ++
    "Options:\n" ++
    "      --config <CONFIG>  Config file (default: ./schemakind.toml if present)\n" ++
    "      --types <FILE>     Additional type table (TOML); may be repeated\n" ++
    "      --no-jdk           Don't include the bundled JDK table\n" ++
    "      --json             Emit JSON instead of tab-separated text\n" ++
    "  -h, --help             Print help\n"
  | .help =>
    "Print this message or the help of the given subcommand(s)\n" ++
    "\n" ++
    "Usage: schemakind help [COMMAND]...\n" ++
    "\n" ++
    "Arguments:\n" ++
    "  [COMMAND]...  Print help for the subcommand(s)\n"

/-- The name of the program and its version. -/
def versionText : String := "schemakind 0.2.0\n"

end JvmSchema.CommandLine
