import Telemetry.CommandLine
import Telemetry.Station.Session

/-!
The program: a station for one router, whose BMP stream comes on standard input from whoever
accepted the connection. A line for every packet goes to standard output, the log to standard
error.
-/

namespace Telemetry.Main

open Station

def usage : String :=
  "Decodes a BMP stream on standard input and prints every packet.

Options:
  -b, --bind <ADDRESS>      Address all listeners bind to [default: 0.0.0.0]
      --bmp-port <PORT>     BMP TCP port [default: 9000]
      --no-bmp              Disable the BMP listener
      --sflow-port <PORT>   sFlow UDP port [default: 6343]
      --no-sflow            Disable the sFlow listener
      --netflow-port <PORT> NetFlow v9 UDP port [default: 2055]
      --no-netflow          Disable the NetFlow listener
  -w, --workers <WORKERS>   Runtime worker threads
      --strict-sflow        Reject sFlow datagrams that end with a partial sample
      --json                Output as JSON objects
  -h, --help                Print help
  -V, --version             Print version"

def version : String := "telemetry 0.1.0"

/-- A complaint in words. -/
def complaintText : CommandLine.Complaint → String
  | .badValue => "error: invalid value for an option"
  | .missingValue => "error: an option needs a value"
  | .unknown => "error: unexpected argument"
  | .unwantedValue => "error: a value for an option that has none"
  | .repeated => "error: an option is given twice"
  | .help => usage
  | .version => version

/-- Whether the user got what was asked for. -/
def isAnswer (c : CommandLine.Complaint) : Bool := c = .help || c = .version

/-- The other end of standard input is not known by address. -/
def routerEndpoint : Endpoint := .v4 (Block.ofNat 4 0) 0

/-- Debugging lines are left out. -/
def isShown (l : Log.Line) : Bool :=
  match l.level with
  | .debug | .trace => false
  | _ => true

/-- Write what a session did, and forget it. -/
def report (style : PrintStyle) (w : LiveSession.Work) : IO LiveSession.Work := do
  for line in w.trace.log.filter isShown do
    IO.eprintln line.render
  for call in w.trace.calls do
    IO.println (style.line call.context call.packet)
  return { w with trace := {} }

/-- Read to the end of the session. -/
partial def serve (style : PrintStyle) (input : IO.FS.Stream) (w : LiveSession.Work) : IO Unit := do
  let w ← report style w
  if w.live.ended.isSome then return
  let event ← try
      let bytes ← input.read 8192
      pure (if bytes.isEmpty then .closed else .bytes bytes.toList)
    catch e => pure (.failed (toString e))
  serve style input (w.handle event)

/-- Serve the router under these options. -/
def run (options : CommandLine.Options) : IO Unit := do
  let config := options.config
  let (controller, trace) := (Controller.new config).register (.accepting "stdout")
  for line in trace.log do
    IO.eprintln line.render
  if config.bmpPort.isSome then
    serve options.printStyle (← IO.getStdin) (LiveSession.start controller routerEndpoint)

end Telemetry.Main

def main (args : List String) : IO UInt32 := do
  match Telemetry.CommandLine.parse args with
  | .ok options =>
    Telemetry.Main.run options
    return 0
  | .error complaint =>
    let text := Telemetry.Main.complaintText complaint
    if Telemetry.Main.isAnswer complaint then
      IO.println text
      return 0
    else
      IO.eprintln text
      return 2
