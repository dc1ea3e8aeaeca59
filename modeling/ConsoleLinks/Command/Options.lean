/-
The arguments of the command line. Options may stand anywhere in front of
a `--`; an option's value is the next argument that is no option itself,
or stands behind an equals sign. A value is checked when the next option
or value is met or nothing follows, and an argument that is not known is
reported before a value in front of it.
-/
import ConsoleLinks.Filter
import ConsoleLinks.Log.Level

namespace ConsoleLinks.Command

-- ============================================================= options

/-- What a value is given for. -/
inductive Slot where
  | config
  | emit
  | logLevel
  /-- The input, which is given by position. -/
  | input
deriving DecidableEq, Repr

namespace Slot

/-- The slots that have an option, with its name. -/
def named : List (String × Slot) :=
  [("config", config), ("emit", emit), ("log-level", logLevel)]

/-- How messages show a slot. -/
def display : Slot → String
  | config => "--config <PATH>"
  | emit => "--emit <EMIT>"
  | logLevel => "--log-level <LEVEL>"
  | input => "[FILE]"

end Slot

/-- The options of a run. -/
structure Options where
  /-- The file to read; without one, the standard input. -/
  input : Option String := none
  /-- The configuration to load. -/
  config : Option String := none
  /-- How lines are written. -/
  emit : Option EmitFormat := none
  /-- How much is logged, whatever the configuration says. -/
  logLevel : Option LogLevel := none
deriving DecidableEq, Repr

namespace Options

/-- How lines are written. -/
def emitFormat (o : Options) : EmitFormat := o.emit.getD .text

/-- The level in force beside a configured one. -/
def effectiveLevel (o : Options) (configured : LogLevel) : LogLevel :=
  o.logLevel.getD configured

/-- Whether a slot has been filled. -/
def isFilled (o : Options) : Slot → Bool
  | .config => o.config.isSome
  | .emit => o.emit.isSome
  | .logLevel => o.logLevel.isSome
  | .input => o.input.isSome

end Options

-- ============================================================== faults

/-- What is wrong with the arguments. -/
inductive UsageFault where
  /-- An argument that means nothing. -/
  | unknown (argument : String)
  /-- An option without a value, or with an empty one. -/
  | missingValue (slot : Slot)
  /-- A value that is none of those there are. -/
  | notAChoice (value : String) (slot : Slot)
  /-- A value that names no level. -/
  | noLevel (value : String)
  /-- An option that is given again. -/
  | repeated (slot : Slot)
  /-- A value for an option that takes none. -/
  | excessValue (value option : String)
deriving DecidableEq, Repr

/-- A fault in words. -/
def UsageFault.message : UsageFault → String
  | unknown argument => "unexpected argument '" ++ argument ++ "' found"
  | missingValue slot =>
    "a value is required for '" ++ slot.display ++ "' but none was supplied"
  | notAChoice value slot =>
    "invalid value '" ++ value ++ "' for '" ++ slot.display ++ "'"
  | noLevel value =>
    "invalid value '" ++ value ++ "' for '" ++ Slot.logLevel.display
      ++ "': unknown log level '" ++ value ++ "'"
  | repeated slot =>
    "the argument '" ++ slot.display ++ "' cannot be used multiple times"
  | excessValue value option =>
    "unexpected value '" ++ value ++ "' for '" ++ option
      ++ "' found; no more were expected"

/-- Why no run follows the arguments. -/
inductive Stop where
  | fault (f : UsageFault)
  /-- The long or the short help was asked for. -/
  | help (long : Bool)
  | version
deriving DecidableEq, Repr

-- ============================================================= parsing

/-- A slot whose value has not been checked yet: no value, where none has
been met. -/
structure Pending where
  slot : Slot
  value : Option String
deriving DecidableEq, Repr

/-- Fills a slot. -/
def fill (o : Options) (slot : Slot) (value : String) : Except UsageFault Options :=
  match slot with
  | .config =>
    if value = "" then .error (.missingValue slot) else .ok { o with config := value }
  | .input =>
    if value = "" then .error (.missingValue slot) else .ok { o with input := value }
  | .emit =>
    match EmitFormat.ofName? value with
    | some emit => .ok { o with emit := emit }
    | none =>
      .error (if value = "" then .missingValue slot else .notAChoice value slot)
  | .logLevel =>
    match LogLevel.read? value with
    | some level => .ok { o with logLevel := level }
    | none => .error (.noLevel value)

/-- Checks a slot's value and fills it. -/
def settle (o : Options) : Option Pending → Except UsageFault Options
  | none => .ok o
  | some ⟨slot, none⟩ => .error (.missingValue slot)
  | some ⟨slot, some value⟩ =>
    if o.isFilled slot then .error (.repeated slot) else fill o slot value

/-- What an argument is. -/
inductive Argument where
  /-- The mark behind which there are only values. -/
  | onlyValues
  /-- An option by its name, perhaps with a value behind an equals
  sign. -/
  | long (name : String) (value : Option String)
  /-- An option by its letter. -/
  | short (letter : Char)
  /-- Anything else: a value. -/
  | word
deriving DecidableEq, Repr

/-- What an argument in front of the mark is. -/
def Argument.of (text : String) : Argument :=
  match text.toList with
  | ['-', '-'] => .onlyValues
  | '-' :: '-' :: rest =>
    let name := String.ofList (rest.takeWhile (· ≠ '='))
    match rest.dropWhile (· ≠ '=') with
    | [] => .long name none
    | _ :: given => .long name (some (String.ofList given))
  | '-' :: letter :: _ => .short letter
  | _ => .word

/-- What has been read of the arguments. -/
structure Reading where
  options : Options := {}
  pending : Option Pending := none
  /-- Whether the input has been met. -/
  hasInput : Bool := false
  /-- Whether only values follow. -/
  onlyValues : Bool := false

namespace Reading

/-- Checks the value that has not been checked yet. -/
def settled (r : Reading) : Except Stop Options :=
  match settle r.options r.pending with
  | .ok o => .ok o
  | .error f => .error (.fault f)

/-- Stops as asked for, once the value before has been checked. -/
def stop (r : Reading) (s : Stop) : Except Stop Reading :=
  match r.settled with
  | .ok _ => .error s
  | .error s => .error s

/-- Begins a slot, once the value before has been checked. -/
def begin (r : Reading) (p : Pending) : Except Stop Reading :=
  match r.settled with
  | .ok o => .ok { r with options := o, pending := some p }
  | .error s => .error s

/-- Takes an option by its name. A value behind an equals sign is checked
at once. -/
def long (r : Reading) (name : String) (value : Option String) : Except Stop Reading :=
  match Slot.named.lookup name, value with
  | some slot, none => r.begin ⟨slot, none⟩
  | some slot, some value => do
    let r ← r.begin ⟨slot, some value⟩
    let o ← r.settled
    return { r with options := o, pending := none }
  | none, value =>
    let known : Option Stop :=
      if name = "help" then some (.help true)
      else if name = "version" then some .version
      else none
    match known, value with
    | some s, none => r.stop s
    | some _, some value => .error (.fault (.excessValue value ("--" ++ name)))
    | none, _ => .error (.fault (.unknown ("--" ++ name)))

/-- Takes an option by its letter. Letters behind it do not matter, since
each known one ends the reading. -/
def short (r : Reading) (letter : Char) : Except Stop Reading :=
  if letter = 'h' then r.stop (.help false)
  else if letter = 'V' then r.stop .version
  else .error (.fault (.unknown (String.ofList ['-', letter])))

/-- Takes the input, of which there is one. -/
def positional (r : Reading) (text : String) : Except Stop Reading :=
  if r.hasInput then .error (.fault (.unknown text))
  else (r.begin ⟨.input, some text⟩).map fun r => { r with hasInput := true }

/-- Takes a value: for the option in front of it, or as the input. -/
def value (r : Reading) (text : String) : Except Stop Reading :=
  match r.pending with
  | some ⟨slot, none⟩ =>
    if r.onlyValues then r.positional text
    else .ok { r with pending := some ⟨slot, some text⟩ }
  | _ => r.positional text

/-- Takes an argument. -/
def take (r : Reading) (text : String) : Except Stop Reading :=
  if r.onlyValues then r.value text
  else
    match Argument.of text with
    | .onlyValues => .ok { r with onlyValues := true }
    | .long name value => r.long name value
    | .short letter => r.short letter
    | .word => r.value text

end Reading

/-- The options that arguments give. -/
def Options.parse (arguments : List String) : Except Stop Options := do
  let r ← arguments.foldlM Reading.take {}
  r.settled

end ConsoleLinks.Command
