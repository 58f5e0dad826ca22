import Switchboard.Medium.Selection

/-!
# Options

What a client asks for when it advertises, discovers, requests a connection or listens. The
normal form of a set of options (`normalize`) has the gaps filled in that the transport must not
see: no medium chosen means all of them, and a keep-alive time of zero means the usual one.
-/

namespace Switchboard

/-- Connection topology. -/
inductive Strategy where
  | cluster
  | star
  | pointToPoint
  deriving DecidableEq, Repr, Inhabited

namespace Strategy

def all : List Strategy := [cluster, star, pointToPoint]

def name : Strategy → String
  | cluster => "p2p_cluster"
  | star => "p2p_star"
  | pointToPoint => "p2p_point_to_point"

def ofName? (n : String) : Option Strategy := all.find? (·.name == n)

end Strategy

namespace Selection

/-- Out of band a selection keeps its most preferred medium, Bluetooth if it has none; otherwise an
empty selection stands for every medium. -/
def normalize (s : Selection) (outOfBand : Bool) : Selection :=
  if outOfBand then only (s.mediums.headD .bluetooth)
  else if s.any then s
  else everything

theorem normalize_normalize (s : Selection) (outOfBand : Bool) :
    (s.normalize outOfBand).normalize outOfBand = s.normalize outOfBand := by
  obtain ⟨a, b, c, d, e, f, g⟩ := s
  revert a b c d e f g outOfBand
  decide

/-- The transport never sees an empty selection. -/
theorem any_normalize (s : Selection) (outOfBand : Bool) :
    (s.normalize outOfBand).any = true := by
  obtain ⟨a, b, c, d, e, f, g⟩ := s
  revert a b c d e f g outOfBand
  decide

end Selection

structure AdvertisingOptions where
  strategy : Strategy := .cluster
  allowed : Selection := {}
  autoUpgradeBandwidth : Bool := false
  enforceTopologyConstraints : Bool := false
  lowPower : Bool := false
  enableBluetoothListening : Bool := false
  enableWebRtcListening : Bool := false
  outOfBand : Bool := false
  fastAdvertisementServiceUuid : Option String := none
  deriving DecidableEq, Repr, Inhabited

namespace AdvertisingOptions

def normalize (o : AdvertisingOptions) : AdvertisingOptions :=
  { o with allowed := o.allowed.normalize o.outOfBand }

theorem normalize_normalize (o : AdvertisingOptions) : o.normalize.normalize = o.normalize := by
  simp [normalize, Selection.normalize_normalize]

end AdvertisingOptions

structure DiscoveryOptions where
  strategy : Strategy := .cluster
  allowed : Selection := {}
  lowPower : Bool := false
  outOfBand : Bool := false
  fastAdvertisementServiceUuid : Option String := none
  deriving DecidableEq, Repr, Inhabited

namespace DiscoveryOptions

def normalize (o : DiscoveryOptions) : DiscoveryOptions :=
  { o with allowed := o.allowed.normalize o.outOfBand }

theorem normalize_normalize (o : DiscoveryOptions) : o.normalize.normalize = o.normalize := by
  simp [normalize, Selection.normalize_normalize]

end DiscoveryOptions

structure ConnectionOptions where
  strategy : Strategy := .cluster
  allowed : Selection := {}
  autoUpgradeBandwidth : Bool := false
  enforceTopologyConstraints : Bool := false
  lowPower : Bool := false
  remoteBluetoothAddress : Option (List UInt8) := none
  keepAliveIntervalMillis : UInt32 := 0
  keepAliveTimeoutMillis : UInt32 := 0
  deriving DecidableEq, Repr, Inhabited

namespace ConnectionOptions

def usualIntervalMillis : UInt32 := 5000

def usualTimeoutMillis : UInt32 := 30000

def normalize (o : ConnectionOptions) : ConnectionOptions :=
  { o with
    allowed := o.allowed.normalize false
    keepAliveIntervalMillis :=
      if o.keepAliveIntervalMillis = 0 then usualIntervalMillis else o.keepAliveIntervalMillis
    keepAliveTimeoutMillis :=
      if o.keepAliveTimeoutMillis = 0 then usualTimeoutMillis else o.keepAliveTimeoutMillis }

theorem normalize_normalize (o : ConnectionOptions) : o.normalize.normalize = o.normalize := by
  simp only [normalize, Selection.normalize_normalize]
  congr 1 <;> split <;> simp_all [usualIntervalMillis, usualTimeoutMillis]

/-- The allowed mediums in order of preference. -/
def mediums (o : ConnectionOptions) : List Medium := o.allowed.mediums

end ConnectionOptions

structure ListeningOptions where
  strategy : Strategy := .cluster
  enableBleListening : Bool := false
  enableBluetoothListening : Bool := false
  enableWlanListening : Bool := false
  deriving DecidableEq, Repr, Inhabited

end Switchboard
