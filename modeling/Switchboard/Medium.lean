/-!
# Mediums

The radios and wires a connection may run over, the numbers they carry on the wire, and the
bandwidth class of each.
-/

namespace Switchboard

inductive Medium where
  | unknown
  | mdns
  | bluetooth
  | wifiHotspot
  | ble
  | wifiLan
  | wifiAware
  | nfc
  | wifiDirect
  | webRtc
  | bleL2cap
  | usb
  | webRtcNonCellular
  deriving DecidableEq, Repr

/-- Bandwidth class of a medium, from worst to best. -/
inductive Quality where
  | unknown
  | low
  | medium
  | high
  deriving DecidableEq, Repr

namespace Quality

def rank : Quality → Nat
  | unknown => 0
  | low => 1
  | medium => 2
  | high => 3

instance : LE Quality := ⟨fun p q => p.rank ≤ q.rank⟩

instance (p q : Quality) : Decidable (p ≤ q) := inferInstanceAs (Decidable (p.rank ≤ q.rank))

def name : Quality → String
  | unknown => "unknown"
  | low => "low"
  | medium => "medium"
  | high => "high"

/-- The classes from worst to best. -/
def sort (qs : List Quality) : List Quality := qs.mergeSort (fun p q => decide (p ≤ q))

end Quality

namespace Medium

/-- Every medium, in the order of the wire numbers. -/
def all : List Medium :=
  [unknown, mdns, bluetooth, wifiHotspot, ble, wifiLan, wifiAware, nfc, wifiDirect, webRtc,
    bleL2cap, usb, webRtcNonCellular]

theorem mem_all (m : Medium) : m ∈ all := by cases m <;> decide

def wireNumber : Medium → Nat
  | unknown => 0
  | mdns => 1
  | bluetooth => 2
  | wifiHotspot => 3
  | ble => 4
  | wifiLan => 5
  | wifiAware => 6
  | nfc => 7
  | wifiDirect => 8
  | webRtc => 9
  | bleL2cap => 10
  | usb => 11
  | webRtcNonCellular => 12

/-- A number that names no medium reads as `unknown`. -/
def ofWireNumber (n : Int) : Medium :=
  (all.find? (fun m => (m.wireNumber : Int) = n)).getD unknown

theorem ofWireNumber_wireNumber (m : Medium) : ofWireNumber m.wireNumber = m := by
  cases m <;> decide

def name : Medium → String
  | unknown => "unknown"
  | mdns => "mdns"
  | bluetooth => "bluetooth"
  | wifiHotspot => "wifi_hotspot"
  | ble => "ble"
  | wifiLan => "wifi_lan"
  | wifiAware => "wifi_aware"
  | nfc => "nfc"
  | wifiDirect => "wifi_direct"
  | webRtc => "web_rtc"
  | bleL2cap => "ble_l2cap"
  | usb => "usb"
  | webRtcNonCellular => "web_rtc_non_cellular"

def ofName? (n : String) : Option Medium := all.find? (·.name == n)

/-- The label shown to people. -/
def label : Medium → String
  | unknown => "UNKNOWN_MEDIUM"
  | mdns => "MDNS"
  | bluetooth => "BLUETOOTH"
  | wifiHotspot => "WIFI_HOTSPOT"
  | ble => "BLE"
  | wifiLan => "WIFI_LAN"
  | wifiAware => "WIFI_AWARE"
  | nfc => "NFC"
  | wifiDirect => "WIFI_DIRECT"
  | webRtc => "WEB_RTC"
  | bleL2cap => "BLE_L2CAP"
  | usb => "USB"
  | webRtcNonCellular => "WEB_RTC_NON_CELLULAR"

def quality : Medium → Quality
  | unknown | mdns | usb | webRtcNonCellular => .unknown
  | ble | nfc => .low
  | bluetooth | bleL2cap => .medium
  | wifiHotspot | wifiLan | wifiAware | wifiDirect | webRtc => .high

end Medium

end Switchboard
