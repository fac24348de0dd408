import CommandChannel.Backoff
import CommandChannel.Error
import CommandChannel.Net.AddressReader

/-!
# Configuration of a connection

A configuration names the peer by host and port and sets the time limits. The host is an address
or a name; names are looked up in a table.
-/

namespace CommandChannel

/-- What is known about the names of hosts. -/
abbrev NameTable := List (String × Except IoError (List IpAddr))

/-- The settings of a connection. -/
structure Config where
  host : String := "127.0.0.1"
  port : UInt16 := 55558
  /-- The limit on connecting, and on each read and each write. -/
  ioTimeout : Duration := .ofSeconds 30
  /-- After how long without activity the peer is asked for a sign of life. -/
  heartbeatInterval : Option Duration := some (.ofSeconds 5)
  backoff : Backoff := {}

namespace Config

/-- The default host. -/
def defaultHost : String := ({} : Config).host

/-- The default port. -/
def defaultPort : UInt16 := ({} : Config).port

/-- The configuration of a host and a port with default time limits. -/
def ofEndpoint (host : String) (port : UInt16) : Config := { host, port }

/-- The host and the port of an address. -/
def withAddr (config : Config) (addr : SocketAddr) : Config :=
  { config with host := String.ofList addr.ip.text, port := addr.port }

/-- The heartbeat interval; an empty one turns the heartbeat off. -/
def withHeartbeatInterval (config : Config) (interval : Duration) : Config :=
  { config with heartbeatInterval := if interval.isZero then none else some interval }

/-- The interval of the heartbeat, if it is to run. -/
def activeInterval (config : Config) : Option Duration :=
  config.heartbeatInterval.filter fun interval => !interval.isZero

/-- Host and port for display. -/
def endpoint (config : Config) : String := config.host ++ ":" ++ toString config.port.toNat

/-- The failure of a lookup of a name that is not known. -/
def unknownHost : IoError := ⟨.notFound, "unknown host"⟩

/-- The addresses of a host. -/
def lookup (names : NameTable) (host : String) : Except IoError (List IpAddr) :=
  match IpAddr.ofText? host with
  | some addr => .ok [addr]
  | none => (names.find? fun entry => entry.1 == host).elim (.error unknownHost) Prod.snd

/-- The addresses at which the peer may be reached; there is at least one. -/
def socketAddrs (names : NameTable) (config : Config) : Except IoError (List SocketAddr) := do
  let addrs ← lookup names config.host
  if addrs.isEmpty then
    .error ⟨.invalidInput, config.endpoint ++ " resolved to no addresses"⟩
  else
    .ok (addrs.map (IpAddr.withPort config.port))

/-- A change of a configuration. -/
inductive Change where
  | endpoint (host : String) (port : UInt16)
  | host (host : String)
  | port (port : UInt16)
  | addr (addr : SocketAddr)
  | ioTimeout (limit : Duration)
  | heartbeatInterval (interval : Duration)
  | noHeartbeat
  | maxAttempts (count : Nat)
  | delays (base ceiling : Duration)
  | backoff (policy : Backoff)
  /-- The interval as it stands, even if it is empty. -/
  | rawInterval (interval : Option Duration)

/-- The configuration after a change. -/
def change (config : Config) : Change → Config
  | .endpoint host port => ofEndpoint host port
  | .host host => { config with host }
  | .port port => { config with port }
  | .addr addr => config.withAddr addr
  | .ioTimeout ioTimeout => { config with ioTimeout }
  | .heartbeatInterval interval => config.withHeartbeatInterval interval
  | .noHeartbeat => { config with heartbeatInterval := none }
  | .maxAttempts maxAttempts => { config with backoff := { config.backoff with maxAttempts } }
  | .delays base ceiling => { config with backoff := { config.backoff with base, ceiling } }
  | .backoff backoff => { config with backoff }
  | .rawInterval heartbeatInterval => { config with heartbeatInterval }

/-- The configuration after changes of the default one, one after the other. -/
def ofChanges (changes : List Change) : Config := changes.foldl change {}

end Config

end CommandChannel
