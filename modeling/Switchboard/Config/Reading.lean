import Switchboard.Document
import Switchboard.Options

/-!
# Reading options from documents

Options and settings are records all of whose fields may be left out. A field of an unknown name is
ignored, a field of the wrong type or out of range makes the whole record unreadable. A record may
also be written as an array, whose items are the first fields in order.
-/

namespace Switchboard

/-- Messages and settings files differ in a few corners of what they let pass. -/
inductive Dialect where
  /-- Nothing may follow the last field of an array, and the value of a bare choice is `null`. -/
  | message
  /-- What follows the last field is ignored, and the value of a bare choice is empty. A date
  counts as a table of unknown fields. -/
  | settings
  deriving DecidableEq, Repr

namespace Document

def toBool? : Document → Option Bool
  | bool b => some b
  | _ => none

def toText? : Document → Option String
  | text s => some s
  | _ => none

/-- A whole number from zero up to, but not including, `limit`. -/
def toNatBelow? (limit : Nat) : Document → Option Nat
  | int n => if 0 ≤ n ∧ n < limit then some n.toNat else none
  | _ => none

def toByte? (d : Document) : Option UInt8 := (d.toNatBelow? UInt8.size).map Nat.toUInt8

def toWord? (d : Document) : Option UInt32 := (d.toNatBelow? UInt32.size).map Nat.toUInt32

def toLong? (d : Document) : Option UInt64 := (d.toNatBelow? UInt64.size).map Nat.toUInt64

def toBytes? : Document → Option (List UInt8)
  | array _ items => items.mapM toByte?
  | _ => none

def toOptional? {α : Type} (read : Document → Option α) : Document → Option (Option α)
  | null => some none
  | d => (read d).map some

/-- Whether this can be the value of a choice that has none. -/
def isEmptyChoice : Dialect → Document → Bool
  | .message, null => true
  | .settings, array _ [] => true
  | .settings, table _ [] => true
  | _, _ => false

/-- A choice is its name, or a table with the name as its only field. -/
def toChoice? {α : Type} (dialect : Dialect) (ofName? : String → Option α) :
    Document → Option α
  | text s => ofName? s
  | table _ [(name, value)] => if value.isEmptyChoice dialect then ofName? name else none
  | _ => none

/-- How a field of a record is read into the record. -/
structure Field (ρ : Type) where
  name : String
  read : ρ → Document → Option ρ

def Field.of {ρ α : Type} (name : String) (read : Document → Option α) (put : ρ → α → ρ) :
    Field ρ :=
  ⟨name, fun r d => (read d).map (put r)⟩

def readFields {ρ : Type} (fields : List (Field ρ)) (values : List (String × Document))
    (start : ρ) : Option ρ :=
  fields.foldlM
    (fun r f =>
      match values.lookup f.name with
      | some d => f.read r d
      | none => some r)
    start

def readItems {ρ : Type} (dialect : Dialect) : List (Field ρ) → List Document → ρ → Option ρ
  | f :: fs, d :: ds, r => (f.read r d).bind (readItems dialect fs ds)
  | [], _ :: _, r => if dialect = .message then none else some r
  | _, [], r => some r

/-- Reads a record; fields that are left out keep their value in `start`. -/
def toRecord? {ρ : Type} (dialect : Dialect) (fields : List (Field ρ)) (start : ρ) :
    Document → Option ρ
  | table _ values => readFields fields values start
  | array _ items => readItems dialect fields items start
  | date => if dialect = .settings then some start else none
  | _ => none

end Document

open Document

def Strategy.ofDocument? (dialect : Dialect) : Document → Option Strategy :=
  toChoice? dialect Strategy.ofName?

def Medium.ofDocument? (dialect : Dialect) : Document → Option Medium :=
  toChoice? dialect Medium.ofName?

def Selection.ofDocument? (dialect : Dialect) : Document → Option Selection :=
  toRecord? dialect
    [.of "bluetooth" toBool? ({ · with bluetooth := · }),
      .of "ble" toBool? ({ · with ble := · }),
      .of "web_rtc" toBool? ({ · with webRtc := · }),
      .of "wifi_lan" toBool? ({ · with wifiLan := · }),
      .of "wifi_hotspot" toBool? ({ · with wifiHotspot := · }),
      .of "wifi_direct" toBool? ({ · with wifiDirect := · }),
      .of "wifi_aware" toBool? ({ · with wifiAware := · })]
    {}

def AdvertisingOptions.ofDocument? (dialect : Dialect) : Document → Option AdvertisingOptions :=
  toRecord? dialect
    [.of "strategy" (Strategy.ofDocument? dialect) ({ · with strategy := · }),
      .of "allowed" (Selection.ofDocument? dialect) ({ · with allowed := · }),
      .of "auto_upgrade_bandwidth" toBool? ({ · with autoUpgradeBandwidth := · }),
      .of "enforce_topology_constraints" toBool? ({ · with enforceTopologyConstraints := · }),
      .of "low_power" toBool? ({ · with lowPower := · }),
      .of "enable_bluetooth_listening" toBool? ({ · with enableBluetoothListening := · }),
      .of "enable_webrtc_listening" toBool? ({ · with enableWebRtcListening := · }),
      .of "is_out_of_band_connection" toBool? ({ · with outOfBand := · }),
      .of "fast_advertisement_service_uuid" (toOptional? toText?)
        ({ · with fastAdvertisementServiceUuid := · })]
    {}

def DiscoveryOptions.ofDocument? (dialect : Dialect) : Document → Option DiscoveryOptions :=
  toRecord? dialect
    [.of "strategy" (Strategy.ofDocument? dialect) ({ · with strategy := · }),
      .of "allowed" (Selection.ofDocument? dialect) ({ · with allowed := · }),
      .of "low_power" toBool? ({ · with lowPower := · }),
      .of "is_out_of_band_connection" toBool? ({ · with outOfBand := · }),
      .of "fast_advertisement_service_uuid" (toOptional? toText?)
        ({ · with fastAdvertisementServiceUuid := · })]
    {}

def ConnectionOptions.ofDocument? (dialect : Dialect) : Document → Option ConnectionOptions :=
  toRecord? dialect
    [.of "strategy" (Strategy.ofDocument? dialect) ({ · with strategy := · }),
      .of "allowed" (Selection.ofDocument? dialect) ({ · with allowed := · }),
      .of "auto_upgrade_bandwidth" toBool? ({ · with autoUpgradeBandwidth := · }),
      .of "enforce_topology_constraints" toBool? ({ · with enforceTopologyConstraints := · }),
      .of "low_power" toBool? ({ · with lowPower := · }),
      .of "remote_bluetooth_mac_address" (toOptional? toBytes?)
        ({ · with remoteBluetoothAddress := · }),
      .of "keep_alive_interval_millis" toWord? ({ · with keepAliveIntervalMillis := · }),
      .of "keep_alive_timeout_millis" toWord? ({ · with keepAliveTimeoutMillis := · })]
    {}

def ListeningOptions.ofDocument? (dialect : Dialect) : Document → Option ListeningOptions :=
  toRecord? dialect
    [.of "strategy" (Strategy.ofDocument? dialect) ({ · with strategy := · }),
      .of "enable_ble_listening" toBool? ({ · with enableBleListening := · }),
      .of "enable_bluetooth_listening" toBool? ({ · with enableBluetoothListening := · }),
      .of "enable_wlan_listening" toBool? ({ · with enableWlanListening := · })]
    {}

end Switchboard
