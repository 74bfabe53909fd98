import Telemetry.Station.Config

/-!
The command line of the station.

Words are taken from left to right. An option with a value takes it from behind `=`, in its short
form also without the sign, or from the next word, unless that looks like an option itself. A
value in a word of its own is looked at only when the next known option comes, or at the end; an
unknown word before that is the complaint. Options are not repeated and not abbreviated, and there
are no words besides them.
-/

namespace Telemetry.CommandLine

open Station

/-- Options with a value. -/
inductive Setting where
  | bind
  | bmpPort
  | sflowPort
  | netflowPort
  | workers
deriving DecidableEq, Repr

/-- Options without a value. -/
inductive Switch where
  | noBmp
  | noSflow
  | noNetflow
  | strictSflow
  | json
deriving DecidableEq, Repr

inductive Flag where
  | setting (setting : Setting)
  | switch (switch : Switch)
  | help
  | version
deriving DecidableEq, Repr

/-- Why a command line is not carried out. -/
inductive Complaint where
  /-- A value is not what the option asks for. -/
  | badValue
  /-- An option stands without its value. -/
  | missingValue
  /-- A word that is no option. -/
  | unknown
  /-- A value for an option that has none. -/
  | unwantedValue
  | repeated
  /-- The user asks for help. -/
  | help
  /-- The user asks for the version. -/
  | version
deriving DecidableEq, Repr

structure Options where
  bind : Ip := .v4 (Block.ofNat 4 0)
  bmpPort : UInt16 := 9000
  sflowPort : UInt16 := 6343
  netflowPort : UInt16 := 2055
  workers : Option Nat := none
  switches : List Switch := []
deriving DecidableEq

namespace Options

def has (o : Options) (s : Switch) : Bool := o.switches.contains s

/-- The settings of the station that the options ask for. -/
def config (o : Options) : Config :=
  let defaults : Config := {}
  { defaults with
    bindAddress := o.bind
    bmpPort := if o.has .noBmp then none else some o.bmpPort
    sflowPort := if o.has .noSflow then none else some o.sflowPort
    netflowPort := if o.has .noNetflow then none else some o.netflowPort
    workerThreads := o.workers.getD defaults.workerThreads
    sflowMode := if o.has .strictSflow then .strict else .lenient }

def printStyle (o : Options) : PrintStyle := if o.has .json then .json else .summary

end Options

/-! ## Values -/

/-- A decimal number with an optional sign, as a port. -/
def port? (s : String) : Option UInt16 :=
  let value := match s.toList with
    | '-' :: digits => if digits.head? = some '+' then none else
      (Text.unsigned? 10 digits).filter (· == 0)
    | cs => Text.unsigned? 10 cs
  match value with
  | some n => if n < 65536 then some (UInt16.ofNat n) else none
  | none => none

/-- A number of up to 64 bits. -/
def count? (s : String) : Option Nat := (Text.unsigned? 10 s.toList).filter (· < UInt64.size)

/-- The options with one more set. -/
def Setting.apply? (s : Setting) (value : String) (o : Options) : Option Options :=
  match s with
  | bind => (Ip.ofText? value).map fun a => { o with bind := a }
  | bmpPort => (port? value).map fun p => { o with bmpPort := p }
  | sflowPort => (port? value).map fun p => { o with sflowPort := p }
  | netflowPort => (port? value).map fun p => { o with netflowPort := p }
  | workers => (count? value).map fun n => { o with workers := some n }

/-! ## Words -/

def Flag.ofLong? : String → Option Flag
  | "bind" => some (.setting .bind)
  | "bmp-port" => some (.setting .bmpPort)
  | "sflow-port" => some (.setting .sflowPort)
  | "netflow-port" => some (.setting .netflowPort)
  | "workers" => some (.setting .workers)
  | "no-bmp" => some (.switch .noBmp)
  | "no-sflow" => some (.switch .noSflow)
  | "no-netflow" => some (.switch .noNetflow)
  | "strict-sflow" => some (.switch .strictSflow)
  | "json" => some (.switch .json)
  | "help" => some .help
  | "version" => some .version
  | _ => none

def Flag.ofShort? : Char → Option Flag
  | 'b' => some (.setting .bind)
  | 'w' => some (.setting .workers)
  | 'h' => some .help
  | 'V' => some .version
  | _ => none

/-- A word of the command line. -/
inductive Word where
  /-- An option, and what stands behind `=`. -/
  | long (name : String) (value : Option String)
  /-- One or more short options, the last perhaps with its value. -/
  | short (letters : List Char)
  /-- Two dashes alone: no options follow. -/
  | noMoreOptions
  | plain (text : String)
deriving DecidableEq

/-- What stands in front of the first `=`, and what behind it. -/
def cutAtEquals (cs : List Char) : List Char × Option String :=
  match cs.span (· != '=') with
  | (name, _ :: value) => (name, some (String.ofList value))
  | (name, []) => (name, none)

def Word.of (s : String) : Word :=
  match s.toList with
  | ['-', '-'] => .noMoreOptions
  | '-' :: '-' :: cs => let (name, value) := cutAtEquals cs; .long (String.ofList name) value
  | '-' :: c :: cs => .short (c :: cs)
  | _ => .plain s

/-! ## The whole line -/

/-- Half-way through the line: the options so far, which settings they are from, and a setting
whose value is to be looked at. -/
structure State where
  options : Options := {}
  seen : List Setting := []
  /-- A setting, and its value once that has been found. -/
  waiting : Option (Setting × Option String) := none

namespace State

/-- Give a setting its value. A setting given twice is refused before the value is looked at. -/
def assign (st : State) (s : Setting) (value : String) : Except Complaint State :=
  if st.seen.contains s then .error .repeated
  else match s.apply? value st.options with
    | some options => .ok { st with options, seen := s :: st.seen }
    | none => .error .badValue

/-- Look at the value that is waiting. -/
def settle (st : State) : Except Complaint State :=
  let free := { st with waiting := none }
  match st.waiting with
  | none => .ok free
  | some (_, none) => .error .missingValue
  | some (s, some value) => free.assign s value

/-- An option without a value. -/
def turnOn (st : State) (s : Switch) : Except Complaint State :=
  if st.options.has s then .error .repeated
  else .ok { st with options.switches := s :: st.options.switches }

/-- A known option, with its value if that is in the same word. -/
def take (st : State) (flag : Flag) (value : Option String) : Except Complaint State :=
  match flag, value with
  | .setting s, some v => do (← st.settle).assign s v
  | .setting s, none => do return { ← st.settle with waiting := some (s, none) }
  | .switch s, _ => do (← st.settle).turnOn s
  | .help, _ => do let _ ← st.settle; .error .help
  | .version, _ => do let _ ← st.settle; .error .version

/-- A long option. -/
def long (st : State) (name : String) (value : Option String) : Except Complaint State :=
  match Flag.ofLong? name, value with
  | none, _ => .error .unknown
  | some (.setting s), value => st.take (.setting s) value
  | some _, some _ => .error .unwantedValue
  | some flag, none => st.take flag none

/-- Short options in one word. Behind one with a value all letters are the value. -/
def short (st : State) : List Char → Except Complaint State
  | [] => .ok st
  | c :: cs =>
    match Flag.ofShort? c with
    | none => .error .unknown
    | some (.setting s) =>
      match cs with
      | [] => st.take (.setting s) none
      | '=' :: value => st.take (.setting s) (some (String.ofList value))
      | value => st.take (.setting s) (some (String.ofList value))
    | some flag => do short (← st.take flag none) cs

/-- A word that is no option is the value that a setting waits for, or out of place. -/
def plain (st : State) (text : String) : Except Complaint State :=
  match st.waiting with
  | some (s, none) => .ok { st with waiting := some (s, some text) }
  | _ => .error .unknown

/-- The words from the left. -/
def words (st : State) : List String → Except Complaint State
  | [] => st.settle
  | w :: ws =>
    match Word.of w with
    | .long name value => do words (← st.long name value) ws
    | .short letters => do words (← st.short letters) ws
    | .plain text => do words (← st.plain text) ws
    | .noMoreOptions => if ws.isEmpty then st.settle else .error .unknown

end State

/-- The options of a command line, without the name of the program. -/
def parse (args : List String) : Except Complaint Options := do
  return (← State.words {} args).options

end Telemetry.CommandLine
