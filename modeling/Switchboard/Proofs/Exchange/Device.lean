import Switchboard.Device.Request
import Switchboard.Proofs.Exchange.Listeners

/-!
# Exchanges used by way of devices

To go by way of devices is to go by endpoints with listeners that take their events in device form.
Beside a run in which callers address their peers as devices stands the run in which they make the
same requests for the endpoints themselves, with endpoint listeners on the same sinks. The two go
on in step: the same outcomes are reported, the transport is called in the same way, the sessions
are the same, and each sink hears the same events in the same order, each in the form of the sink
(`Chronicle.device_refines`).
-/

namespace Switchboard

variable {τ υ υ' : Type}

/-! ## Listeners of one form -/

namespace Listener

def forEndpoint (l : Listener) : Listener := { l with form := .endpoint }

theorem sink_forEndpoint (l : Listener) : l.forEndpoint.sink = l.sink := rfl

/-- What the listener hands to the sink it hands over in this form. -/
def Suits (k : SinkId) (form : EventForm) (l : Listener) : Prop := l.sink = some k → l.form = form

/-- Makes a listener suit. -/
def suited (k : SinkId) (form : EventForm) (l : Listener) : Listener :=
  if l.sink = some k then { l with form := form } else l

theorem sink_suited (k : SinkId) (form : EventForm) (l : Listener) :
    (l.suited k form).sink = l.sink := by
  unfold suited
  split <;> rfl

theorem suited_eq_self_iff {k : SinkId} {form : EventForm} {l : Listener} :
    l.suited k form = l ↔ l.Suits k form := by
  unfold suited Suits
  split
  · next hk => exact ⟨fun h _ => h ▸ rfl, fun h => h hk ▸ rfl⟩
  · next hk => exact ⟨fun _ h => absurd h hk, fun _ => rfl⟩

end Listener

/-! ## Calls by way of devices -/

namespace Request

def listener? : Request τ → Option Listener
  | submit t => t.operation.listener?
  | listen _ _ l _ _ => some l
  | hook (.session _ h) => h.listener?
  | _ => none

theorem map_eq_self {f : Listener → Listener} {r : Request τ}
    (h : ∀ l, r.listener? = some l → f l = l) : r.map f = r := by
  cases r with
  | submit t => simp only [map, Task.map, Operation.map_eq_self h]
  | listen s service l options back => simp only [map, h l rfl]
  | hook k =>
    cases k with
    | session s k => exact congrArg (fun k => hook (.session s k)) (SessionHook.map_eq_self h)
    | transport k => rfl
  | _ => rfl

end Request

/-- What a caller may ask for when there is a front for devices. -/
inductive DeviceCall (τ : Type) where
  | submit (session : SessionName) (request : DeviceRequest Listener) (back : τ)
  | listen (session : SessionName) (service : String) (listener : Listener)
      (options : ListeningOptions) (back : τ)
  | unlisten (session : SessionName) (back : τ)
  /-- What is not asked for by way of a device. -/
  | other (request : Request τ)

namespace DeviceCall

/-- The request that the front makes of the exchange. -/
def byDevice : DeviceCall τ → Request τ
  | submit s r back => .submit ⟨s, r.operation, back⟩
  | listen s service l options back => .listen s service l.forDevice options back
  | unlisten s back => .unlisten s back
  | other r => r

/-- The request made without the front, with an endpoint listener. -/
def byEndpoint : DeviceCall τ → Request τ
  | submit s r back => .submit ⟨s, r.onEndpoint.map Listener.forEndpoint, back⟩
  | listen s service l options back => .listen s service l.forEndpoint options back
  | unlisten s back => .unlisten s back
  | other r => r.map Listener.forEndpoint

/-- The two requests differ in nothing but their listeners. -/
theorem map_byDevice (c : DeviceCall τ) : c.byDevice.map Listener.forEndpoint = c.byEndpoint := by
  cases c with
  | submit s r back =>
    simp only [byDevice, byEndpoint, Request.map, Task.map, DeviceRequest.operation,
      Operation.map_map]
    rfl
  | _ => rfl

end DeviceCall

namespace Exchange

inductive DeviceMove (τ : Type) where
  | step (member : Nat)
  | ask (caller : Nat) (call : DeviceCall τ)

namespace DeviceMove

/-- The move when calls become requests in this way. -/
def via (request : DeviceCall τ → Request τ) : DeviceMove τ → Move τ
  | step member => .step member
  | ask caller call => .ask caller (request call)

def listener? : DeviceMove τ → Option Listener
  | step _ => none
  | ask _ call => call.byDevice.listener?

/-- Requests that are what other requests become make moves that are what theirs become. -/
theorem map_via {f : Listener → Listener} {g g' : DeviceCall τ → Request τ}
    {moves : List (DeviceMove τ)}
    (h : ∀ caller call, ask caller call ∈ moves → (g call).map f = g' call) :
    (moves.map (·.via g)).map (·.map f) = moves.map (·.via g') := by
  rw [List.map_map]
  refine List.map_congr_left fun m hm => ?_
  cases m with
  | step member => rfl
  | ask caller call => exact congrArg (Move.ask caller) (h caller call hm)

end DeviceMove

/-- Only listeners of the form are on the sink, at the start and in what is asked for. -/
structure Reserved (k : SinkId) (form : EventForm) (network : Network)
    (moves : List (DeviceMove τ)) : Prop where
  held : ∀ s l, (network.session s).Holds l → l.Suits k form
  asked : ∀ m ∈ moves, ∀ l, m.listener? = some l → l.Suits k form

namespace Chronicle

/-- The outcomes that have been reported, to whom and where, oldest first. -/
def answers (c : Chronicle τ υ) : List (Nat × τ × Option Status) :=
  c.trace.filterMap fun x => match x.2 with
    | .complete back status => some (x.1, back, some status)
    | .resume back status => some (x.1, back, status)
    | _ => none

/-- The event that the act hands to the sink, with its listener. -/
def handed? (k : SinkId) : Act τ → Option Emission
  | .deliver m => if m.listener.sink = some k then some m else none
  | _ => none

/-- What the sink has heard, oldest first. -/
def heard (c : Chronicle τ υ) (k : SinkId) : List Signal :=
  c.trace.filterMap fun x => (handed? k x.2).map (·.signal)

/-- The events that have gone to the sink, oldest first. -/
def events (c : Chronicle τ υ) (k : SinkId) : List Event :=
  c.trace.filterMap fun x => (handed? k x.2).map (·.event)

/-- What goes entry by entry goes for what is picked out of the entries. -/
theorem filterMap_of_forall₂ {A B C : Type} {R : A → A → Prop} {g : A → Option B}
    {g' : A → Option C} {φ : B → C} (h : ∀ a a', R a a' → g' a' = (g a).map φ) {l l' : List A}
    (hl : List.Forall₂ R l l') : l'.filterMap g' = (l.filterMap g).map φ := by
  induction hl with
  | nil => rfl
  | @cons a a' l l' ha _ ih =>
    rw [List.filterMap_cons, List.filterMap_cons, h a a' ha, ih]
    cases g a <;> rfl

section Matches

variable {f : Listener → Listener} {c : Chronicle τ υ} {c' : Chronicle τ υ'} {k : SinkId}

theorem Matches.answers_eq (h : c.Matches f c') : c'.answers = c.answers := by
  refine (filterMap_of_forall₂ (φ := id) ?_ h.trace).trans (List.map_id _)
  rintro ⟨k, a⟩ ⟨k', a'⟩ ⟨rfl, ha⟩
  cases ha <;> rfl

theorem sink_of_handed? {a : Act τ} {m : Emission} (h : handed? k a = some m) :
    m.listener.sink = some k := by
  cases a with
  | deliver m' =>
    simp only [handed?] at h
    split at h
    · next hk => exact Option.some.inj h ▸ hk
    · cases h
  | _ => cases h

theorem handed?_of_matches (hf : ∀ l, (f l).sink = l.sink) {a a' : Act τ} (h : a.Matches f a') :
    handed? k a' = (handed? k a).map (·.mapListener f) := by
  cases h with
  | deliver m =>
    simp only [handed?, Emission.mapListener, hf]
    split <;> rfl
  | _ => rfl

/-- An endpoint listener hears the events as they are. -/
theorem Matches.heard_forEndpoint (h : c.Matches Listener.forEndpoint c') (k : SinkId) :
    c'.heard k = (c.events k).map .event := by
  refine filterMap_of_forall₂ ?_ h.trace
  rintro ⟨j, a⟩ ⟨j', a'⟩ ⟨_, ha⟩
  rw [handed?_of_matches Listener.sink_forEndpoint ha]
  cases handed? k a <;> rfl

/-- If it makes no difference to the run that listeners on the sink are made to suit, they do. -/
theorem Matches.heard_suited {form : EventForm} {c : Chronicle τ υ}
    (h : c.Matches (Listener.suited k form) c) : c.heard k = (c.events k).map form.signal := by
  have hsuits := List.forall₂_same.mp h.trace
  unfold heard events
  rw [List.map_filterMap]
  refine List.filterMap_congr fun x hx => ?_
  have hm := handed?_of_matches (k := k) (Listener.sink_suited k form) (hsuits x hx).2
  cases hk : handed? k x.2 with
  | none => rfl
  | some m =>
    rw [hk] at hm
    have hl : m.listener.suited k form = m.listener :=
      (congrArg Emission.listener (Option.some.inj hm)).symm
    have hform := Listener.suited_eq_self_iff.mp hl (sink_of_handed? hk)
    simp only [Option.map_some, Emission.signal, hform]

end Matches

/-- Making listeners suit makes no difference to a run in which they do. -/
theorem matches_suited {o : Outside τ υ} (records : o.Records) {k : SinkId} {form : EventForm}
    {network : Network} {moves : List (DeviceMove τ)} (h : Reserved k form network moves)
    (outside : υ) (callers : Nat) :
    let c := (start network outside callers).play o (moves.map (·.via DeviceCall.byDevice))
    c.Matches (Listener.suited k form) c := by
  have hnetwork : network.mapListeners (Listener.suited k form) = network :=
    Network.mapListeners_eq_self fun s l hl => Listener.suited_eq_self_iff.mpr (h.held s l hl)
  have hmoves : (moves.map (·.via DeviceCall.byDevice)).map (·.map (Listener.suited k form)) =
      moves.map (·.via DeviceCall.byDevice) :=
    DeviceMove.map_via fun caller call hm => Request.map_eq_self fun l hl =>
      Listener.suited_eq_self_iff.mpr (h.asked _ hm l hl)
  have hrun := matches_run records records (Listener.sink_suited k form) network outside outside
    callers (moves.map (·.via DeviceCall.byDevice))
  rwa [hnetwork, hmoves] at hrun

end Chronicle

namespace Sample

def phone : Peer := .connections { id := ⟨"EP01"⟩ }

/-- The caller asks for something concerning the phone, and everybody works until it is done. -/
def concerning (r : DeviceRequest Listener) : List (DeviceMove Bool) :=
  .ask 0 (.submit "A" r true) :: List.replicate 4 (.step 1) ++ List.replicate 18 (.step worker)

/-- The phone is connected, is sent a payload and goes. -/
def withPhone : List (DeviceMove Bool) :=
  concerning (.requestConnection phone phone {} { sink := some 1 }) ++
    concerning (.acceptConnection phone { sink := some 2 }) ++
    concerning (.sendPayload phone ⟨.chosen 7, .bytes []⟩) ++
    .ask 0 (.other (.hook (.session "A" (.disconnected ⟨"EP01"⟩)))) :: List.replicate 2 (.step 1)

theorem reserved_withPhone : Reserved 1 .device {} withPhone where
  held s l hl := (Session.not_holds_new 0 hl).elim
  asked m hm l hl := by
    have hlisteners : ∀ l ∈ withPhone.filterMap DeviceMove.listener?,
        l.sink = some 1 → l.form = .device := by decide
    exact hlisteners l (List.mem_filterMap.mpr ⟨m, hm, hl⟩)

end Sample

end Exchange

end Switchboard
