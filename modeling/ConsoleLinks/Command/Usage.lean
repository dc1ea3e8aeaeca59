/-
What the program says about itself.
-/

namespace ConsoleLinks.Command

/-- The program and its version. -/
def versionText : String := "tracelink 0.1.0\n"

/-- The purpose of the program and how it is called. -/
def summary : String :=
  "Console output customizer that turns stack traces and compiler diagnostics into navigation links\n\n" ++
  "Usage: tracelink [OPTIONS] [FILE]\n\n"

/-- The short help: a line for each option. -/
def shortHelp : String :=
  summary ++
  "Arguments:\n" ++
  "  [FILE]  Input file (defaults to stdin)\n\n" ++
  "Options:\n" ++
  "      --config <PATH>      Config file (defaults to ~/.config/tracelink/config.yaml)\n" ++
  "      --emit <EMIT>        Output representation [default: text] [possible values: text, json]\n" ++
  "      --log-level <LEVEL>  Log level for /tmp/tracelink_debug.log (off, error, warn, info, debug, trace)\n" ++
  "  -h, --help               Print help (see more with '--help')\n" ++
  "  -V, --version            Print version\n"

/-- The long help: a paragraph for each option. -/
def longHelp : String :=
  summary ++
  "Arguments:\n" ++
  "  [FILE]\n" ++
  "          Input file (defaults to stdin)\n\n" ++
  "Options:\n" ++
  "      --config <PATH>\n" ++
  "          Config file (defaults to ~/.config/tracelink/config.yaml)\n\n" ++
  "      --emit <EMIT>\n" ++
  "          Output representation\n\n" ++
  "          Possible values:\n" ++
  "          - text: The rewritten line as text\n" ++
  "          - json: One JSON object per line with text, customizer id and target\n" ++
  "          \n" ++
  "          [default: text]\n\n" ++
  "      --log-level <LEVEL>\n" ++
  "          Log level for /tmp/tracelink_debug.log (off, error, warn, info, debug, trace)\n\n" ++
  "  -h, --help\n" ++
  "          Print help (see a summary with '-h')\n\n" ++
  "  -V, --version\n" ++
  "          Print version\n"

end ConsoleLinks.Command
