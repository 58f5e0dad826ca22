import Switchboard.Medium

/-!
# Medium selections

Which mediums a client allows. Seven mediums can be chosen; `Selection.mediums` lists the chosen
ones from the most to the least preferred.
-/

namespace Switchboard

structure Selection where
  bluetooth : Bool := false
  ble : Bool := false
  webRtc : Bool := false
  wifiLan : Bool := false
  wifiHotspot : Bool := false
  wifiDirect : Bool := false
  wifiAware : Bool := false
  deriving DecidableEq, Repr, Inhabited

namespace Selection

/-- The mediums that can be chosen, from the most to the least preferred. -/
def preference : List Medium :=
  [.wifiAware, .wifiLan, .wifiDirect, .wifiHotspot, .webRtc, .bluetooth, .ble]

def none : Selection := {}

def everything : Selection := ⟨true, true, true, true, true, true, true⟩

/-- A medium that cannot be chosen is never in a selection. -/
def get (s : Selection) : Medium → Bool
  | .bluetooth => s.bluetooth
  | .ble => s.ble
  | .webRtc => s.webRtc
  | .wifiLan => s.wifiLan
  | .wifiHotspot => s.wifiHotspot
  | .wifiDirect => s.wifiDirect
  | .wifiAware => s.wifiAware
  | _ => false

/-- Choosing a medium that cannot be chosen changes nothing. -/
def set (s : Selection) (m : Medium) (chosen : Bool) : Selection :=
  match m with
  | .bluetooth => { s with bluetooth := chosen }
  | .ble => { s with ble := chosen }
  | .webRtc => { s with webRtc := chosen }
  | .wifiLan => { s with wifiLan := chosen }
  | .wifiHotspot => { s with wifiHotspot := chosen }
  | .wifiDirect => { s with wifiDirect := chosen }
  | .wifiAware => { s with wifiAware := chosen }
  | _ => s

def only (m : Medium) : Selection := none.set m true

/-- The chosen mediums in order of preference. -/
def mediums (s : Selection) : List Medium := preference.filter s.get

def count (s : Selection) : Nat := s.mediums.length

def any (s : Selection) : Bool := !s.mediums.isEmpty

def isAllowed (s : Selection) (m : Medium) : Bool := s.mediums.contains m

theorem mem_mediums {s : Selection} {m : Medium} : m ∈ s.mediums ↔ s.get m = true := by
  unfold mediums
  rw [List.mem_filter]
  constructor
  · exact fun h => h.2
  · intro h
    refine ⟨?_, h⟩
    cases m <;> first | decide | simp [get] at h

end Selection

end Switchboard
