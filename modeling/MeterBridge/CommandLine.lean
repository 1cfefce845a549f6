import MeterBridge.Capture.Report
import MeterBridge.CommandLine.Arguments
import MeterBridge.Config.Decode
import MeterBridge.Envelope.Header
import MeterBridge.Receiver

/-!
# The command line

What a call of the program writes and with which status it ends, as a function of its arguments,
of the files it can read and of its standard input. The configuration is settled first, then the
serial number of the meter, and then the command runs. A failure ends the call with status one; a
call whose arguments are at fault does nothing and has status two.
-/

namespace MeterBridge.CommandLine

/-- What a call writes, and how it ends. -/
structure Response where
  /-- The status: zero, one after a failure, two if the arguments are at fault. -/
  status : Nat
  /-- The text on standard output. -/
  output : String
  /-- The text on standard error. -/
  complaint : Option String
  deriving DecidableEq, Repr

/-- The text of every file that can be read, by its name. -/
abbrev Files := String → Option String

/-- What a command writes before it ends, and the failure that ends it. -/
structure Result where
  /-- The text on standard output. -/
  output : String
  /-- The words for the failure. -/
  failure : Option String
  deriving DecidableEq, Repr

/-- A command that writes a text and ends well. -/
def Result.ofText (output : String) : Result := { output, failure := none }

/-- A command that ends before it writes. -/
def Result.ofFailure (failure : String) : Result := { output := "", failure := some failure }

/-- The command ends well, or with a failure. -/
def Result.response (r : Result) : Response :=
  match r.failure with
  | none => { status := 0, output := r.output, complaint := none }
  | some failure => { status := 1, output := r.output, complaint := some ("Error: " ++ failure) }

/-- A short account of the commands and switches. -/
def helpText : String :=
  "Recover telegrams of a meter from the notifications of a radio bridge\n\n"
    ++ "Commands:\n"
    ++ "  extract            read notification lines, write telegram lines\n"
    ++ "  replay FILE        the same for a session log\n"
    ++ "  inspect HEX        show what becomes of one notification\n"
    ++ "  analyze FILE       show the tallies of a session log\n\n"
    ++ "Switches:\n"
    ++ "  -c, --config FILE  the configuration\n"
    ++ "  -m, --meter SERIAL the serial number of the meter\n"
    ++ "  -f, --format NAME  the format of lines: pipe, double-pipe or bare\n"

/-! ### The configuration -/

/-- The configuration in a file, or the standard one without a file. -/
def loadConfig (files : Files) : Option String → Except String Config
  | none => .ok .standard
  | some file =>
    match (files file).map Config.load with
    | some (.ok c) => .ok c
    | _ => .error s!"loading configuration from {file}"

/-- The configuration with another serial number, if one is given. -/
def withSerial (c : Config) : Option String → Except String Config
  | none => .ok c
  | some text =>
    match Meter.ofSerialText text with
    | .ok m => .ok (c.withMeter { c.meter with serial := m.serial })
    | .error e => .error e.message

/-- The receiver of a call. -/
def receiver (files : Files) (call : Call) : Except String Receiver := do
  let c ← withSerial (← loadConfig files call.config) call.meter
  match Receiver.new c with
  | .ok r => return r
  | .error e => throw e.message

/-! ### Commands -/

/-- The line of a header in an inspection. -/
def headerLine (core : Bytes) : String :=
  match Envelope.Header.ofContent? core with
  | none => "Header:       too short\n"
  | some h =>
    let extra := match h.extra with
      | some b => s!", extra 0x{Hex.byte b}"
      | none => ""
    s!"Header:       {h.kind.text}, sequence 0x{Hex.byte h.sequence}{extra}\n"

/-- What an inspection shows of a payload before a rule is applied. -/
def payloadLines (payload : Bytes) : String :=
  let s := Envelope.strip payload
  let envelope := if s.wrapped then "present" else "absent"
  s!"Notification: {payload.length} bytes\n"
    ++ s!"Envelope:     {envelope}\n"
    ++ (if s.wrapped then headerLine s.core else "")
    ++ s!"Core:         {Hex.encode s.core}\n"

/-- The lines of an accepted telegram in an inspection. -/
def telegramLines (t : Telegram) : String :=
  s!"Accepted:     {t.kind.name} @{t.offset} {t.hex}\n"
    ++ match t.fields? with
      | some f => s!"Fields:       {f.text}\n"
      | none => ""

/-- What an inspection shows of an outcome. -/
def outcomeLines (o : Outcome) : String :=
  s!"Rule:         {o.extraction.choice.text}\n"
    ++ String.join (o.telegrams.map telegramLines)
    ++ String.join (o.rejections.map fun r => s!"Rejected:     {r.text}\n")
    ++ if o.extraction.hasIncompleteTail then "Trailing:     incomplete frame dropped\n" else ""

/-- Shows what becomes of one notification. -/
def inspect (r : Receiver) (hex : String) : Result :=
  match Hex.decodeLenient hex with
  | .error _ => .ofFailure "parsing notification hex"
  | .ok payload =>
    match (r.process (.arriving payload "inspect")).1 with
    | .ok o => .ofText (payloadLines payload ++ outcomeLines o)
    | .error e => { output := payloadLines payload, failure := some e.message }

/-- What a run has written, and what ended it. -/
def ofRun (run : Receiver.Run LineWriter) : Result :=
  { output := run.sink.output, failure := run.failure.map Error.message }

/-- Uses the text of a session log. -/
def withSession (files : Files) (file : String) (use : String → Result) : Result :=
  match files file with
  | some text => use text
  | none => .ofFailure s!"reading session log {file}"

/-- Runs a command. -/
def runCommand (files : Files) (input : Bytes) (r : Receiver) : Command → Result
  | .extract format => ofRun (r.runText (LineWriter.new format none) "stdin" input)
  | .replay file format =>
    withSession files file fun text => ofRun (r.runSession (LineWriter.new format none) text)
  | .inspect hex => inspect r hex
  | .analyze file =>
    withSession files file fun text =>
      .ofText (Capture.ofNotifications (Session.notifications text)).report

/-- The files that a call reads. -/
def Call.files (call : Call) : List String :=
  call.config.toList ++ match call.command with
    | .replay file _ | .analyze file => [file]
    | .extract _ | .inspect _ => []

/-- The call reads its standard input. -/
def Call.readsInput (call : Call) : Bool :=
  match call.command with
  | .extract _ => true
  | _ => false

/-- Answers a call. -/
def Call.respond (call : Call) (files : Files) (input : Bytes) : Response :=
  match receiver files call with
  | .error failure => (Result.ofFailure failure).response
  | .ok r => (runCommand files input r call.command).response

/-- The response to arguments that are at fault. -/
def refusal : Response :=
  { status := 2, output := "", complaint := some "error: the arguments are not understood" }

/-- Answers a call by its arguments. -/
def respond (arguments : List String) (files : Files) (input : Bytes) : Response :=
  match parse? arguments with
  | none => refusal
  | some .help => { status := 0, output := helpText, complaint := none }
  | some (.call call) => call.respond files input

end MeterBridge.CommandLine
