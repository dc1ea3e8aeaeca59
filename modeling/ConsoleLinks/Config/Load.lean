/-
Loading a configuration from a file: one that is named, or the one below
the home directory, which need not exist.
-/
import ConsoleLinks.Config.Yaml
import ConsoleLinks.Files.Fault
import ConsoleLinks.Files.Path
import ConsoleLinks.Log.Record
import ConsoleLinks.Text.Utf8

namespace ConsoleLinks.Config

-- =============================================================== paths

/-- The directory of the configuration below a home directory; without
one, the working directory. -/
def directory (home : Option String) : String :=
  match home with
  | some home => Path.join (Path.join home ".config") "tracelink"
  | none => "."

/-- The path of the configuration below a home directory. -/
def path (home : Option String) : String := Path.join (directory home) "config.yaml"

-- ============================================================= loading

/-- Why no configuration can be loaded. -/
inductive LoadFault where
  /-- The file cannot be read. -/
  | file (fault : FileFault)
  /-- Its text is no configuration. -/
  | text (fault : TextFault)
deriving DecidableEq, Repr

namespace LoadFault

/-- A fault in words. What is wrong with a text that is not YAML is not
said. -/
def message : LoadFault → String
  | file fault => "I/O error reading config: " ++ fault.message
  | text (.invalid defect) => "Config validation error: " ++ defect.message
  | text .shape => "YAML parse error in config"

/-- A fault in words, followed by its cause where it has one. -/
def report (fault : LoadFault) : String :=
  match fault with
  | file cause => fault.message ++ ": " ++ cause.message
  | text _ => fault.message

end LoadFault

/-- The configuration in the contents of a file. -/
def ofContents (contents : Except FileFault (List UInt8)) : Except LoadFault Config :=
  match contents with
  | .error fault => .error (.file fault)
  | .ok bytes =>
    match Text.Utf8.decode? bytes with
    | none => .error (.file .notText)
    | some text =>
      match ofYaml text with
      | .ok c => .ok c
      | .error fault => .error (.text fault)

/-- The configuration in a named file. -/
def loadFrom (files : Files) (path : String) : Except LoadFault Config :=
  ofContents (files path)

/-- Whether something stands at a path. -/
def isPresent (files : Files) (path : String) : Bool :=
  match files path with
  | .ok _ => true
  | .error fault => !fault.isAbsence

/-- The configuration below the home directory, the default one if there
is none. -/
def load (files : Files) (home : Option String) : Except LoadFault Config :=
  if isPresent files (path home) then loadFrom files (path home) else .ok {}

/-- The configuration of a named file or, without a name, below the home
directory. -/
def loadNamed (files : Files) (home : Option String) (name : Option String) :
    Except LoadFault Config :=
  match name with
  | some path => loadFrom files path
  | none => load files home

-- ================================================================ log

/-- A record about the loading of a configuration. -/
def loadRemark (text path : String) : Log.Record :=
  .info "tracelink_config::config" (text ++ Text.Quoted.quote path)

/-- What loading leaves in the log. -/
def loadRemarks (files : Files) (home : Option String) (name : Option String) :
    List Log.Record :=
  match name with
  | some path => [loadRemark "Loading config from " path]
  | none =>
    let p := path home
    loadRemark "Config path: " p ::
      if isPresent files p then [loadRemark "Loading config from " p]
      else
        [.info "tracelink_config::config"
          ("Config file not found at " ++ Text.Quoted.quote p ++ ", using defaults")]

end ConsoleLinks.Config
