import MeterBridge.Output

/-!
# Arguments of the command line

The program is called with a command. Two switches, for the configuration file and for the serial
number of the meter, may stand in front of the command or behind it, where they count more; the
format of lines is a switch of the commands that write lines. A switch is spelled with two hyphens
and its name, or with one hyphen and its first letter; its value is the next argument, or stands
in the same one, behind an equals sign or directly behind the letter. At most one value may be
given at each place. Behind a bare double hyphen all arguments are operands.
-/

namespace MeterBridge.CommandLine

/-- What can be set by name. -/
inductive Switch where
  /-- The configuration file. -/
  | config
  /-- The serial number of the meter. -/
  | meter
  /-- The format of lines. -/
  | format
  deriving DecidableEq, Repr

/-- The long spelling of a switch. -/
def Switch.name : Switch → String
  | .config => "config"
  | .meter => "meter"
  | .format => "format"

/-- The short spelling of a switch. -/
def Switch.letter : Switch → Char
  | .config => 'c'
  | .meter => 'm'
  | .format => 'f'

/-! ### Single arguments -/

/-- What an argument is by its spelling. -/
inductive Spelling where
  /-- The bare double hyphen. -/
  | operandsFollow
  /-- Two hyphens and a name, perhaps with a value. -/
  | long (name : String) (value : Option String)
  /-- One hyphen and a letter, perhaps with a value. -/
  | short (letter : Char) (value : Option String)
  /-- Anything else; also a bare hyphen. -/
  | operand
  deriving DecidableEq, Repr

/-- How an argument is spelled. -/
def spelling (argument : String) : Spelling :=
  match argument.toList with
  | ['-', '-'] => .operandsFollow
  | '-' :: '-' :: text =>
    let name := String.ofList (text.takeWhile (· ≠ '='))
    match text.dropWhile (· ≠ '=') with
    | _ :: value => .long name (some (String.ofList value))
    | [] => .long name none
  | ['-', letter] => .short letter none
  | '-' :: letter :: '=' :: value => .short letter (some (String.ofList value))
  | '-' :: letter :: value => .short letter (some (String.ofList value))
  | _ => .operand

/-- What an argument means where some switches are known. -/
inductive Meaning where
  /-- Nothing that is known. -/
  | foreign
  /-- A call for help. -/
  | help
  /-- All arguments behind it are operands. -/
  | operandsFollow
  /-- A switch, perhaps with its value. -/
  | switch (which : Switch) (value : Option String)
  /-- An operand. -/
  | operand
  deriving DecidableEq, Repr

/-- A switch with its value, if it is known. -/
def known (which : Option Switch) (value : Option String) : Meaning :=
  match which with
  | some which => .switch which value
  | none => .foreign

/-- What an argument means where these switches are known. -/
def meaning (switches : List Switch) (argument : String) : Meaning :=
  match spelling argument with
  | .operandsFollow => .operandsFollow
  | .operand => .operand
  | .long name value =>
    if name = "help" then (if value.isNone then .help else .foreign)
    else known (switches.find? (·.name = name)) value
  | .short letter value =>
    if letter = 'h' then .help else known (switches.find? (·.letter = letter)) value

/-! ### Lists of arguments -/

/-- A switch with its value. -/
structure Setting where
  /-- The switch. -/
  which : Switch
  /-- Its value. -/
  value : String
  /-- The value stands in the argument of the switch. -/
  attached : Bool
  deriving DecidableEq, Repr

/-- The value suits the switch: the name of a file is not empty, and a format is known. -/
def Setting.isSound (s : Setting) : Bool :=
  match s.which with
  | .config => s.value ≠ ""
  | .meter => true
  | .format => (LineFormat.ofName? s.value).isSome

/-- The values suit their switches, and no switch is given twice. -/
def areSound (settings : List Setting) : Bool :=
  settings.all Setting.isSound && decide (settings.map (·.which)).Nodup

/-- What a list of arguments gives. -/
structure Given where
  /-- The switches with their values, in order. -/
  settings : List Setting
  /-- The operands, in order. -/
  operands : List String
  /-- There is a call for help, and what stands behind it is not read. -/
  help : Bool
  deriving Repr

/-- Reads arguments. If `stops`, the first operand and all behind it are left as they are. -/
def scan (switches : List Switch) (stops : Bool) : List String → Option Given
  | [] => some { settings := [], operands := [], help := false }
  | argument :: rest =>
    match meaning switches argument with
    | .foreign => none
    | .help => some { settings := [], operands := [], help := true }
    | .operandsFollow =>
      if stops then none else some { settings := [], operands := rest, help := false }
    | .operand =>
      if stops then some { settings := [], operands := argument :: rest, help := false }
      else (scan switches stops rest).map fun g => { g with operands := argument :: g.operands }
    | .switch which (some value) =>
      (scan switches stops rest).map fun g =>
        { g with settings := ⟨which, value, true⟩ :: g.settings }
    | .switch which none =>
      match rest with
      | [] => none
      | value :: rest =>
        if spelling value = .operand then
          (scan switches stops rest).map fun g =>
            { g with settings := ⟨which, value, false⟩ :: g.settings }
        else none

namespace Given

/-- The value of a switch, if it is given. -/
def value? (g : Given) (which : Switch) : Option String :=
  (g.settings.find? (·.which = which)).map (·.value)

/-- The settings that are looked at before what follows them is read: a value in an argument of its
own waits for the next switch, or for the end. -/
def settled (g : Given) : List Setting :=
  match g.settings.getLast? with
  | some ⟨_, _, false⟩ => g.settings.dropLast
  | _ => g.settings

end Given

/-! ### Calls -/

/-- What the program is to do. -/
inductive Command where
  /-- Turn lines of the standard input into lines of telegrams. -/
  | extract (format : LineFormat)
  /-- Turn a session log into lines of telegrams. -/
  | replay (file : String) (format : LineFormat)
  /-- Show what becomes of one notification. -/
  | inspect (hex : String)
  /-- Show the tallies of a session log. -/
  | analyze (file : String)
  deriving DecidableEq, Repr

/-- A call of the program. -/
structure Call where
  /-- The configuration file. -/
  config : Option String
  /-- The serial number of the meter. -/
  meter : Option String
  /-- What to do. -/
  command : Command
  deriving DecidableEq, Repr

/-- What the arguments ask for. -/
inductive Request where
  /-- Help. -/
  | help
  /-- A call. -/
  | call (c : Call)
  deriving DecidableEq, Repr

/-- The names of the commands. -/
inductive Verb where
  /-- Names `Command.extract`. -/
  | extract
  /-- Names `Command.replay`. -/
  | replay
  /-- Names `Command.inspect`. -/
  | inspect
  /-- Names `Command.analyze`. -/
  | analyze
  deriving DecidableEq, Repr

namespace Verb

/-- The word for a command. -/
def word : Verb → String
  | .extract => "extract"
  | .replay => "replay"
  | .inspect => "inspect"
  | .analyze => "analyze"

/-- The command that a word stands for. -/
def ofWord? (word : String) : Option Verb :=
  [Verb.extract, .replay, .inspect, .analyze].find? (·.word = word)

/-- The switches known behind a command. -/
def switches : Verb → List Switch
  | .extract | .replay => [.format, .config, .meter]
  | .inspect | .analyze => [.config, .meter]

/-- The operands can stand behind a command, perhaps with others to come. -/
def admits : Verb → List String → Bool
  | _, [] => true
  | .inspect, [_] => true
  | .replay, [file] | .analyze, [file] => file ≠ ""
  | _, _ => false

/-- The command with its operands, if none is left to come. -/
def command? (verb : Verb) (operands : List String) (format : LineFormat) : Option Command :=
  match verb, operands with
  | .extract, [] => some (.extract format)
  | .replay, [file] => some (.replay file format)
  | .inspect, [hex] => some (.inspect hex)
  | .analyze, [file] => some (.analyze file)
  | _, _ => none

end Verb

/-- Help can be asked for in general, about one command, or about help. -/
def isHelpTopic : List String → Bool
  | [] => true
  | [word] => word = "help" || (Verb.ofWord? word).isSome
  | _ => false

/-- Reads the arguments behind a command. -/
def parseBehind? (front : Given) (verb : Verb) (arguments : List String) : Option Request := do
  let behind ← scan verb.switches false arguments
  if !areSound behind.settings || !verb.admits behind.operands then none
  else if behind.help then return .help
  else if !areSound front.settings then none
  else
    let format := ((behind.value? .format).bind LineFormat.ofName?).getD default
    let command ← verb.command? behind.operands format
    let value? := fun which => (behind.value? which).or (front.value? which)
    return .call { config := value? .config, meter := value? .meter, command }

/-- Reads the arguments of a call; there is none if they are at fault. A call for help stands for
the arguments behind it, but not for those in front of it. -/
def parse? (arguments : List String) : Option Request := do
  let front ← scan [.config, .meter] true arguments
  if front.help then
    if areSound front.settings then some .help else none
  else if !areSound front.settled then none
  else match front.operands with
    | [] => none
    | "help" :: topic => if isHelpTopic topic then some .help else none
    | word :: rest => do
      let verb ← Verb.ofWord? word
      parseBehind? front verb rest

end MeterBridge.CommandLine
