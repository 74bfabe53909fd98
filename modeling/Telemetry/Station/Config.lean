import Telemetry.Station.Packet
import Telemetry.Sflow.Decoding
import Telemetry.Netflow.TemplateCache

/-!
The settings of a station.
-/

namespace Telemetry.Station

open Json

/-- A span of time, with less than a second in the nanoseconds. -/
structure Duration where
  seconds : UInt64
  nanos : UInt32
deriving DecidableEq, Repr

namespace Duration

/-- Nanoseconds of a second and more are carried; what does not fit the seconds is no duration. -/
def ofParts? (seconds : UInt64) (nanos : UInt32) : Option Duration :=
  let total := seconds.toNat + nanos.toNat / 1000000000
  if total < UInt64.size then some ⟨UInt64.ofNat total, UInt32.ofNat (nanos.toNat % 1000000000)⟩
  else none

def toJson (d : Duration) : Json :=
  obj [("secs", num d.seconds.toNat), ("nanos", num d.nanos.toNat)]

end Duration

structure Config where
  /-- The address that all sockets are bound to. -/
  bindAddress : Ip := .v4 (Block.ofNat 4 0)
  /-- A transport without a port is not listened on; port zero is any free one. -/
  bmpPort : Option UInt16 := some 9000
  sflowPort : Option UInt16 := some 6343
  netflowPort : Option UInt16 := some 2055
  workerThreads : Nat := 4
  /-- How many tasks receive from one datagram socket. -/
  udpWorkers : Nat := 2
  /-- How many sessions may be active at a time. -/
  maxConnections : Nat := 1024
  maxBmpMessageLength : Nat := 1048576
  readBufferSize : Nat := 65536
  /-- Longer datagrams are cut. -/
  udpBufferSize : Nat := 65535
  /-- How long sessions may take to end when the station closes. -/
  shutdownTimeout : Duration := ⟨5, 0⟩
  sflowMode : Sflow.Mode := .lenient
  maxTemplatesPerExporter : Nat := Netflow.TemplateCache.defaultLimit
deriving DecidableEq

namespace Config

/-- The address 127.0.0.1. -/
def localhost : Ip := .v4 (Block.ofNat 4 0x7f000001)

/-- All transports on any free port of this machine only. -/
def loopback : Config :=
  { bindAddress := localhost, bmpPort := some 0, sflowPort := some 0, netflowPort := some 0 }

def port (c : Config) : Transport → Option UInt16
  | .bmp => c.bmpPort
  | .sflow => c.sflowPort
  | .netflow => c.netflowPort

/-- Where a transport is listened on, if it is. -/
def address? (c : Config) (t : Transport) : Option Endpoint :=
  (c.port t).map (Endpoint.ofIp c.bindAddress)

def modeName : Sflow.Mode → String
  | .strict => "strict"
  | .lenient => "lenient"

def toJson (c : Config) : Json :=
  let port := ofOption fun p : UInt16 => num p.toNat
  obj [("bind_address", str c.bindAddress.toText), ("bmp_port", port c.bmpPort),
    ("sflow_port", port c.sflowPort), ("netflow_port", port c.netflowPort),
    ("worker_threads", num c.workerThreads), ("udp_workers", num c.udpWorkers),
    ("max_connections", num c.maxConnections),
    ("max_bmp_message_len", num c.maxBmpMessageLength),
    ("read_buffer_size", num c.readBufferSize), ("udp_buffer_size", num c.udpBufferSize),
    ("shutdown_timeout", c.shutdownTimeout.toJson), ("sflow_mode", str (modeName c.sflowMode)),
    ("max_templates_per_exporter", num c.maxTemplatesPerExporter)]

end Config

end Telemetry.Station
