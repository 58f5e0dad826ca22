import Switchboard.Config.Reading
import Switchboard.Text.Blank
import Switchboard.Text.Decimal
import Switchboard.Toml.File

/-!
# Settings of an exchange

Settings come from a file, from the environment or with a message. `Config.check` says which are
fit for an exchange to start with; only a file is checked as soon as it is read.
-/

namespace Switchboard

structure Config where
  threadName : String := "nc-serializer"
  warnDepth : UInt64 := 256
  logFilter : String := "info"
  advertising : AdvertisingOptions := {}
  discovery : DiscoveryOptions := {}
  connection : ConnectionOptions := {}
  deriving DecidableEq, Repr, Inhabited

/-- What makes settings unfit. -/
inductive ConfigFault where
  | noThreadName
  | noWarnDepth
  | keepAlive (interval timeout : UInt32)
  deriving DecidableEq, Repr

def ConfigFault.message : ConfigFault → String
  | noThreadName => "serializer_thread_name must not be empty"
  | noWarnDepth => "queue_warn_depth must be at least 1"
  | keepAlive interval timeout =>
    "keep-alive interval (" ++ toString interval.toNat ++ " ms) must be below the timeout ("
      ++ toString timeout.toNat ++ " ms)"

inductive ConfigError where
  | notFound
  | unreadable
  | unfit (fault : ConfigFault)
  deriving DecidableEq, Repr

namespace ConfigFault

/-- The message of a file that is refused for this fault. -/
def fileMessage (f : ConfigFault) : String := "config validation error: " ++ f.message

/-- The message of an exchange that does not start for this fault. -/
def startMessage (f : ConfigFault) : String := "invalid configuration: " ++ f.fileMessage

end ConfigFault

namespace Config

/-- The first fault in the order of the settings; keep-alive times are compared once the usual ones
are filled in. -/
def check (c : Config) : Except ConfigFault Unit :=
  let connection := c.connection.normalize
  if Text.allBlank c.threadName then .error .noThreadName
  else if c.warnDepth = 0 then .error .noWarnDepth
  else if connection.keepAliveTimeoutMillis ≤ connection.keepAliveIntervalMillis then
    .error (.keepAlive connection.keepAliveIntervalMillis connection.keepAliveTimeoutMillis)
  else .ok ()

open Document in
def ofDocument? (dialect : Dialect) : Document → Option Config :=
  toRecord? dialect
    [.of "serializer_thread_name" toText? ({ · with threadName := · }),
      .of "queue_warn_depth" toLong? ({ · with warnDepth := · }),
      .of "log_filter" toText? ({ · with logFilter := · }),
      .of "advertising" (AdvertisingOptions.ofDocument? dialect) ({ · with advertising := · }),
      .of "discovery" (DiscoveryOptions.ofDocument? dialect) ({ · with discovery := · }),
      .of "connection" (ConnectionOptions.ofDocument? dialect) ({ · with connection := · })]
    {}

/-- Settings from the bytes of a file, if there is one. A file that is not text counts as
missing. -/
def ofFile (file : Option ByteArray) : Except ConfigError Config := do
  let some text := file.bind String.fromUTF8? | throw .notFound
  let some config := (Toml.read? text).bind (ofDocument? .settings) | throw .unreadable
  match config.check with
  | .ok () => return config
  | .error fault => throw (.unfit fault)

/-- A decimal number of 64 bits, perhaps with a plus sign. -/
def depth? (s : String) : Option UInt64 := do
  let n ← Text.natural? s.toList
  if n < UInt64.size then some n.toUInt64 else none

/-- Settings from variables of the environment, as far as they are set. One that is not text, or
not a number where a number is needed, is passed over. -/
def ofEnvironment (thread depth filter : Option ByteArray) : Config :=
  let text (v : Option ByteArray) : Option String := v.bind String.fromUTF8?
  let usual : Config := {}
  { threadName := (text thread).getD usual.threadName
    warnDepth := ((text depth).bind depth?).getD usual.warnDepth
    logFilter := (text filter).getD usual.logFilter }

end Config

end Switchboard
