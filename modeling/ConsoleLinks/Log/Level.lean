/-
Log levels: what a configuration or the command line asks for
(`LogLevel`), and what the log file distinguishes (`Verbosity`), where a
warning counts as an error. The environment can name a verbosity by its
number; that wins over the configured level.
-/
import ConsoleLinks.Text.Blank
import ConsoleLinks.Text.Scan
import ConsoleLinks.Text.Decimal

namespace ConsoleLinks

-- ================================================== configured levels

/-- A level as configurations name it, from silent to most detailed. -/
inductive LogLevel where
  | off
  | error
  | warn
  | info
  | debug
  | trace
deriving DecidableEq, Repr

namespace LogLevel

def all : List LogLevel := [off, error, warn, info, debug, trace]

/-- The name of a level. -/
def name : LogLevel → String
  | off => "off"
  | error => "error"
  | warn => "warn"
  | info => "info"
  | debug => "debug"
  | trace => "trace"

/-- The level of an exact name, as configuration files give it. -/
def ofName? (text : String) : Option LogLevel := all.find? (·.name = text)

/-- The level of a name as a person types it: in any case, with white
space around it, and with `warning` for `warn`. -/
def read? (text : String) : Option LogLevel :=
  let word := String.ofList ((Text.trim text.toList).map Char.toLower)
  if word = "warning" then some warn else ofName? word

theorem ofName?_name (level : LogLevel) : ofName? level.name = some level := by
  cases level <;> decide

end LogLevel

-- ============================================= levels of the log file

/-- A level of the log file. -/
inductive Verbosity where
  | off
  | error
  | info
  | debug
  | trace
deriving DecidableEq, Repr

namespace Verbosity

def all : List Verbosity := [off, error, info, debug, trace]

/-- The number of a level: higher is more detailed. -/
def rank : Verbosity → Nat
  | off => 0
  | error => 1
  | info => 2
  | debug => 3
  | trace => 4

/-- The level of a number. -/
def ofRank? (n : Nat) : Option Verbosity := all.find? (·.rank = n)

/-- The word a log session is opened with. -/
def title : Verbosity → String
  | off => "Off"
  | error => "Error"
  | info => "Info"
  | debug => "Debug"
  | trace => "Trace"

/-- The level of the log file for a configured one. -/
def ofLevel : LogLevel → Verbosity
  | .off => off
  | .error | .warn => error
  | .info => info
  | .debug => debug
  | .trace => trace

/-- The level that the environment asks for: white space, perhaps a plus
sign, and decimal digits of a level's number. Any other setting is as
good as none. -/
def ofSetting? (setting : String) : Option Verbosity :=
  let text := Text.trim setting.toList
  let number := (Text.afterWord? ['+'] text).getD text
  (Text.Decimal.read? number).bind ofRank?

/-- The level in force. -/
def inForce (setting : Option String) (configured : LogLevel) : Verbosity :=
  ((setting.bind ofSetting?).getD (ofLevel configured))

theorem ofRank?_rank (v : Verbosity) : ofRank? v.rank = some v := by
  cases v <;> decide

end Verbosity

end ConsoleLinks
