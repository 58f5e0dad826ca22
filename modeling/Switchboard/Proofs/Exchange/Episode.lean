import Switchboard.Proofs.Episode
import Switchboard.Proofs.Exchange.Coverage
import Switchboard.Proofs.Exchange.Loss

/-!
# Well-formed episodes

Whether the listeners of a run hear of every connection in order: of its beginning, of its
acceptance once at most, and of its end before the next one begins, with the relation moving along.
A report that initiates a connection to an endpoint that has one already spoils this, and so does
one that accepts a connection once more, and a reset while there is a connection. Nothing else does
(`wellFormed_iff`), and the first two are not prevented (`connected_initiated`).
-/

namespace Switchboard

variable {τ υ : Type}

/-- A relation begins as a pending one, is accepted once and ends. -/
inductive Relation.Moves : Relation → Relation → Prop where
  | stay (r : Relation) : Moves r r
  | begin {r : Relation} (h : r = .pendingOutgoing ∨ r = .pendingIncoming) : Moves .none r
  | accept {r : Relation} (h : r = .pendingOutgoing ∨ r = .pendingIncoming) : Moves r .connected
  | finish (r : Relation) : Moves r .none

namespace Session

variable {s : Session} {id : EndpointId}

theorem isConnected_iff_get? : s.isConnected id = true ↔
    ∃ c, s.connections.get? id = some c ∧ c.relation = .connected := by
  rw [isConnected_iff, relation]
  cases s.connections.get? id <;> simp

theorem isRelated_of_isConnected (h : s.isConnected id = true) : s.isRelated id = true := by
  rw [isRelated, h, Bool.or_true]

theorem relation_of_get? {c : Connection} (h : s.connections.get? id = some c) :
    s.relation id = c.relation := by
  rw [relation, h]

theorem relation_of_get?_eq_none (h : s.connections.get? id = none) : s.relation id = .none := by
  rw [relation, h]

theorem relation_of_not_isRelated (h : s.isRelated id = false) : s.relation id = .none := by
  rw [isRelated, Bool.or_eq_false_iff, isPending, isConnected] at h
  cases hr : s.relation id <;> simp_all

end Session

/-- All that an act conveys to a session comes to the same. -/
theorem Act.apply_of_conveys {a : Act τ} {s : SessionName} {h h' : SessionHook Listener}
    (ha : a.Conveys s h) (ha' : a.Conveys s h') (n : Network) :
    h.apply (n.session s) = h'.apply (n.session s) := by
  rcases ha with rfl | ⟨e, next, held, rfl⟩ <;> rcases ha' with ha' | ⟨e', next', held', ha'⟩
  · cases ha'
    rfl
  · cases ha'
  · cases ha'
  · injection ha' with _ hplan _
    injection hplan with hchange _
    have hn := congrFun hchange n
    have hs := congrArg (fun r : Network × List Emission => r.1.session s) hn
    have he := congrArg Prod.snd hn
    simp only [Network.onSession, Network.session_setSession_self] at hs he
    exact Prod.ext hs he

namespace Exchange

namespace Moment

variable {s : SessionName} {id : EndpointId} {l : Listener} {o : Outside τ υ} {m : Moment τ υ}

/-- Somebody is told that the connection to the endpoint has been accepted. -/
def Accepts (s : SessionName) (id : EndpointId) (m : Moment τ υ) : Prop :=
  ∃ l, m.Tells s l (.accepted id)

/-- What a moment does to the connection of an endpoint, and all that is told about it. -/
inductive Turn (s : SessionName) (id : EndpointId) (m : Moment τ υ) : Prop where
  | opened {c : Connection} {info : ResponseInfo}
    (ha : (m.after.network.session s).connections.get? id = some c)
    (hr : c.relation = .pendingOutgoing ∨ c.relation = .pendingIncoming)
    (hd : c.responded = false)
    (told : ∀ l e, m.Tells s l e ↔ l = c.listener ∧ e = .initiated id info)
  | accepted {c : Connection} (hb : (m.before.network.session s).connections.get? id = some c)
    (ha : (m.after.network.session s).connections.get? id =
      some { c with relation := .connected })
    (told : ∀ l e, m.Tells s l e ↔ l = c.listener ∧ e = .accepted id)
  | ended {c : Connection} {e : ConnectionEvent} (he : e.IsEnd id)
    (hb : (m.before.network.session s).connections.get? id = some c)
    (ha : (m.after.network.session s).connections.get? id = none)
    (told : ∀ l e', m.Tells s l e' ↔ l = c.listener ∧ e' = e)
  | reset (hr : m.act.Conveys s .reset)
    (ha : (m.after.network.session s).connections.get? id = none)
    (silent : ∀ l e, ¬ m.Tells s l e)
  | absent (hb : (m.before.network.session s).connections.get? id = none)
    (ha : (m.after.network.session s).connections.get? id = none)
    (silent : ∀ l e, m.Tells s l e → e.endpoint = id → e.isTurn = false)
  | kept {c c' : Connection} (hb : (m.before.network.session s).connections.get? id = some c)
    (ha : (m.after.network.session s).connections.get? id = some c')
    (hr : c'.relation = c.relation) (hl : c'.listener = c.listener)
    (hd : c.responded = true → c'.responded = true)
    (silent : ∀ l e, m.Tells s l e → e.endpoint = id → e.isTurn = false)

theorem Turn.of_eq (h : (m.after.network.session s).connections.get? id =
      (m.before.network.session s).connections.get? id)
    (silent : ∀ l e, m.Tells s l e → e.endpoint = id → e.isTurn = false) : m.Turn s id := by
  cases hb : (m.before.network.session s).connections.get? id with
  | none => exact .absent hb (h.trans hb) silent
  | some c => exact .kept hb (h.trans hb) rfl rfl (fun hd => hd) silent

/-- A report that is conveyed tells what it emits. -/
theorem tells_iff {hook : SessionHook Listener} (ha : m.act.Conveys s hook) {e : ConnectionEvent} :
    m.Tells s l e ↔ .connection l e ∈ (hook.apply (m.before.network.session s)).2 := by
  constructor
  · rintro ⟨hook', ha', hm⟩
    rwa [Act.apply_of_conveys ha ha']
  · exact fun hm => ⟨hook, ha, hm⟩

theorem Lawful.turn (h : m.Lawful o) (s : SessionName) (id : EndpointId) : m.Turn s id := by
  obtain ⟨⟨acts, he⟩, hc⟩ := h
  by_cases hconv : ∃ hook, m.act.Conveys s hook
  · obtain ⟨hook, ha⟩ := hconv
    have ht := Session.turn_apply hook (m.before.network.session s) id
    rw [← session_of_conveys he ha] at ht
    generalize hafter : (m.after.network.session s).connections.get? id = c at ht
    have told : ∀ {l₀ e₀}, (hook.apply (m.before.network.session s)).2 = [.connection l₀ e₀] →
        ∀ l e, m.Tells s l e ↔ l = l₀ ∧ e = e₀ := fun hm l e => by
      rw [tells_iff ha, hm, List.mem_singleton, Emission.connection_inj]
    have silent : (hook.apply (m.before.network.session s)).2 = [] → ∀ l e, ¬ m.Tells s l e :=
      fun hm l e ht => by
        rw [tells_iff ha, hm] at ht
        cases ht
    cases ht with
    | opened hm =>
      refine .opened hafter ?_ rfl (told hm)
      split
      · exact .inr rfl
      · exact .inl rfl
    | taken l hb =>
      exact .kept hb hafter rfl rfl (fun _ => rfl) fun l e ht => absurd ht (silent rfl l e)
    | declined hb =>
      exact .kept hb hafter rfl rfl (fun _ => rfl) fun l e ht => absurd ht (silent rfl l e)
    | accepted hb hm => exact .accepted hb hafter (told hm)
    | ended he hb hm => exact .ended he hb hafter (told hm)
    | reset => exact .reset ha hafter (silent rfl)
    | idle hi => exact .of_eq hafter fun l e ht => hi.told l e ((tells_iff ha).mp ht)
  · have hsame := (conveys_step he hc s).resolve_right fun ⟨hook, ha, _⟩ => hconv ⟨hook, ha⟩
    exact .of_eq (by rw [hsame]) fun l e ⟨hook, ha, _⟩ => absurd ⟨hook, ha⟩ hconv

/-! ## What a turn makes of the relation -/

/-- A connection to an endpoint that has one already is initiated. -/
def Overrides (s : SessionName) (id : EndpointId) (m : Moment τ υ) : Prop :=
  (m.before.network.session s).isRelated id = true ∧ ∃ l, m.Opens s id l

/-- A connection that is accepted already is accepted again. -/
def Repeats (s : SessionName) (id : EndpointId) (m : Moment τ υ) : Prop :=
  (m.before.network.session s).isConnected id = true ∧ m.Accepts s id

/-- The session is reset while it has a connection to the endpoint. -/
def Forgets (s : SessionName) (id : EndpointId) (m : Moment τ υ) : Prop :=
  (m.before.network.session s).isRelated id = true ∧ m.act.Conveys s .reset

/-- The order of the connections to the endpoint is spoiled. -/
def Spoils (s : SessionName) (id : EndpointId) (m : Moment τ υ) : Prop :=
  m.Overrides s id ∨ m.Repeats s id ∨ m.Forgets s id

namespace Turn

theorem opens (h : m.Turn s id) (ho : m.Opens s id l) :
    (m.after.network.session s).isRelated id = true ∧ ∀ l', ¬ m.Ends s id l' := by
  obtain ⟨info, ht⟩ := ho
  cases h with
  | @opened c info' ha hr _ told =>
    refine ⟨Session.isRelated_iff.mpr ⟨c, ha, ?_⟩, fun l' ⟨e, he, ht'⟩ => ?_⟩
    · rcases hr with hr | hr <;> rw [hr] <;> simp
    · obtain ⟨-, rfl⟩ := (told l' e).mp ht'
      exact ConnectionEvent.not_isEnd_initiated he
  | accepted _ _ told => cases ((told _ _).mp ht).2
  | ended he _ _ told =>
    obtain ⟨-, rfl⟩ := (told _ _).mp ht
    exact absurd he ConnectionEvent.not_isEnd_initiated
  | reset _ _ silent => exact absurd ht (silent _ _)
  | absent _ _ silent | kept _ _ _ _ _ silent => cases silent _ _ ht rfl

theorem accepts (h : m.Turn s id) (ha : m.Accepts s id) :
    (m.after.network.session s).isConnected id = true := by
  obtain ⟨l, ht⟩ := ha
  cases h with
  | opened _ _ _ told => cases ((told _ _).mp ht).2
  | accepted _ ha => exact Session.isConnected_iff_get?.mpr ⟨_, ha, rfl⟩
  | ended he _ _ told =>
    obtain ⟨-, rfl⟩ := (told _ _).mp ht
    exact absurd he ConnectionEvent.not_isEnd_accepted
  | reset _ _ silent => exact absurd ht (silent _ _)
  | absent _ _ silent | kept _ _ _ _ _ silent => cases silent _ _ ht rfl

/-- A relation goes only with an end or a reset. -/
theorem related (h : m.Turn s id) (hr : (m.before.network.session s).isRelated id = true) :
    (m.after.network.session s).isRelated id = true ∨ (∃ l, m.Ends s id l) ∨ m.Forgets s id := by
  obtain ⟨b, hb, hn⟩ := Session.isRelated_iff.mp hr
  cases h with
  | opened ha hp =>
    refine .inl (Session.isRelated_iff.mpr ⟨_, ha, ?_⟩)
    rcases hp with hp | hp <;> rw [hp] <;> simp
  | accepted _ ha => exact .inl (Session.isRelated_iff.mpr ⟨_, ha, by simp⟩)
  | ended he _ _ told => exact .inr (.inl ⟨_, _, he, (told _ _).mpr ⟨rfl, rfl⟩⟩)
  | reset hreset => exact .inr (.inr ⟨hr, hreset⟩)
  | absent hb' => cases hb.symm.trans hb'
  | kept hb' ha hr' =>
    cases hb.symm.trans hb'
    exact .inl (Session.isRelated_iff.mpr ⟨_, ha, hr' ▸ hn⟩)

/-- It takes an end, a reset or a new connection for a connection not to be connected any more. -/
theorem connected (h : m.Turn s id) (hc : (m.before.network.session s).isConnected id = true) :
    (m.after.network.session s).isConnected id = true ∨ (∃ l, m.Ends s id l) ∨ m.Forgets s id ∨
      m.Overrides s id := by
  obtain ⟨b, hb, hcon⟩ := Session.isConnected_iff_get?.mp hc
  have hr := Session.isRelated_of_isConnected hc
  cases h with
  | opened _ _ _ told => exact .inr (.inr (.inr ⟨hr, _, _, (told _ _).mpr ⟨rfl, rfl⟩⟩))
  | accepted _ ha => exact .inl (Session.isConnected_iff_get?.mpr ⟨_, ha, rfl⟩)
  | ended he _ _ told => exact .inr (.inl ⟨_, _, he, (told _ _).mpr ⟨rfl, rfl⟩⟩)
  | reset hreset => exact .inr (.inr (.inl ⟨hr, hreset⟩))
  | absent hb' => cases hb.symm.trans hb'
  | kept hb' ha hr' =>
    cases hb.symm.trans hb'
    exact .inl (Session.isConnected_iff_get?.mpr ⟨_, ha, hr'.trans hcon⟩)

/-- A connection is connected because it is accepted now or was connected before. -/
theorem of_connected (h : m.Turn s id) (hc : (m.after.network.session s).isConnected id = true) :
    m.Accepts s id ∨
      (m.before.network.session s).isConnected id = true ∧ ¬ ∃ l, m.Ends s id l := by
  obtain ⟨a, ha, hcon⟩ := Session.isConnected_iff_get?.mp hc
  cases h with
  | opened ha' hp =>
    cases ha.symm.trans ha'
    rcases hp with hp | hp <;> cases hp.symm.trans hcon
  | accepted _ _ told => exact .inl ⟨_, (told _ _).mpr ⟨rfl, rfl⟩⟩
  | ended _ _ ha' | reset _ ha' | absent _ ha' => cases ha.symm.trans ha'
  | kept hb ha' hr _ _ silent =>
    cases ha.symm.trans ha'
    refine .inr ⟨Session.isConnected_iff_get?.mpr ⟨_, hb, hr.symm.trans hcon⟩, ?_⟩
    rintro ⟨l, e, he, ht⟩
    cases he.isTurn.symm.trans (silent l e ht he.endpoint)

end Turn

end Moment

/-! ## Runs -/

/-- The listeners hear of the connections to the endpoint in order, and the relation moves along. -/
structure WellFormed (s : SessionName) (id : EndpointId) (moments : List (Moment τ υ)) : Prop where
  /-- No connection begins before the one before it has ended. -/
  apart : ∀ past m mid m' later l l', moments = past ++ m :: (mid ++ m' :: later) →
    m.Opens s id l → m'.Opens s id l' → ∃ x ∈ mid, ∃ l, x.Ends s id l
  /-- No connection is accepted twice. -/
  once : ∀ past m mid m' later, moments = past ++ m :: (mid ++ m' :: later) →
    m.Accepts s id → m'.Accepts s id → ∃ x ∈ mid, ∃ l, x.Ends s id l
  moves : ∀ m ∈ moments,
    ((m.before.network.session s).relation id).Moves ((m.after.network.session s).relation id)
  /-- Whoever hears of a connection that goes, or in whose place another comes, is told its end. -/
  told : ∀ m ∈ moments, ∀ l, (m.before.network.session s).Attends id l →
    ¬ (m.after.network.session s).Attends id l ∨ (∃ l', m.Opens s id l') → m.Ends s id l

namespace Chronicle

/-- What every moment keeps is kept by all of them. -/
theorem linked_keeps {P : Desk τ υ → Prop} {d d' : Desk τ υ} {moments : List (Moment τ υ)}
    (hl : Linked d moments d') (step : ∀ m ∈ moments, P m.before → P m.after) (h : P d) : P d' := by
  induction moments generalizing d with
  | nil => exact hl ▸ h
  | cons m ms ih =>
    obtain ⟨rfl, hl⟩ := hl
    exact ih hl (fun x hx => step x (List.mem_cons_of_mem _ hx)) (step m List.mem_cons_self h)

theorem linked_throughout {P : Desk τ υ → Prop} {d d' : Desk τ υ} {moments : List (Moment τ υ)}
    (hl : Linked d moments d') (step : ∀ m ∈ moments, P m.before → P m.after) (h : P d) :
    ∀ m ∈ moments, P m.before ∧ P m.after := by
  intro m hm
  obtain ⟨past, later, rfl⟩ := List.append_of_mem hm
  obtain ⟨_, hpast, rfl, -⟩ := linked_append.mp hl
  have hb : P m.before := linked_keeps hpast (fun x hx => step x (List.mem_append_left _ hx)) h
  exact ⟨hb, step m hm hb⟩

/-- There has been a moment as in `A`, and none as in `E` since. -/
def Since (A E : Moment τ υ → Prop) (moments : List (Moment τ υ)) : Prop :=
  ∃ past a mid, moments = past ++ a :: mid ∧ A a ∧ ∀ m ∈ mid, ¬ E m

theorem Since.concat {A E : Moment τ υ → Prop} {moments : List (Moment τ υ)} {m : Moment τ υ}
    (h : Since A E moments) (hm : ¬ E m) : Since A E (moments ++ [m]) := by
  obtain ⟨past, a, mid, rfl, ha, hmid⟩ := h
  refine ⟨past, a, mid ++ [m], by simp, ha, fun x hx => ?_⟩
  rcases List.mem_append.mp hx with hx | hx
  · exact hmid x hx
  · exact List.mem_singleton.mp hx ▸ hm

/-- What only a moment as in `A` brings about and none as in `E` leaves be is owed to a moment as in
`A` with none as in `E` since. -/
theorem since_linked {P : Desk τ υ → Prop} {A E : Moment τ υ → Prop} {d d' : Desk τ υ}
    {moments seen : List (Moment τ υ)} (hl : Linked d moments d')
    (step : ∀ m ∈ moments, P m.after → A m ∨ P m.before ∧ ¬ E m)
    (hs : P d → Since A E seen) (h : P d') : Since A E (seen ++ moments) := by
  induction moments generalizing d seen with
  | nil =>
    rw [List.append_nil]
    exact hs (hl ▸ h)
  | cons m ms ih =>
    obtain ⟨rfl, hl⟩ := hl
    rw [List.append_cons]
    refine ih hl (fun x hx => step x (List.mem_cons_of_mem _ hx)) fun hm => ?_
    rcases step m List.mem_cons_self hm with ha | ⟨hb, he⟩
    · exact ⟨seen, m, [], rfl, ha, fun _ hx => absurd hx List.not_mem_nil⟩
    · exact (hs hb).concat he

theorem proper_play (o : Outside τ υ) (clients : List (SessionName × UInt64))
    (farewells : List (SessionName × EndpointId)) (outside : υ) (callers : Nat)
    (moves : List (Move τ)) :
    ∀ m ∈ ((start (opening clients farewells) outside callers).play o moves).moments,
      m.before.network.Proper := by
  refine forall_moments o (P := fun c => c.Orderly ∧ c.shared.network.Proper)
    (fun {c member act rest acts d} h ha he => ?_)
    (fun caller r h => ⟨orderly_ask caller r h.1, h.2⟩)
    ⟨orderly_start _ farewells outside callers, fun k => ?_⟩ rfl moves
  · have he := execute_effect he
    exact ⟨⟨orderly_note h.1 ha he, fun k => proper_touch (h.1.touch ha he k) (h.2 k)⟩, h.2⟩
  · obtain ⟨i, hi⟩ := session_opening clients farewells k
    show ((opening clients farewells).session k).Proper
    rw [hi]
    exact fun id c hc => by cases hc

variable {s : SessionName} {id : EndpointId}

/-- What spoils nothing moves the relation along. -/
theorem moves_of_turn {m : Moment τ υ} (ht : m.Turn s id) (hp : m.before.network.Proper)
    (hn : ¬ m.Spoils s id) :
    ((m.before.network.session s).relation id).Moves ((m.after.network.session s).relation id) := by
  cases ht with
  | opened ha hp _ told =>
    have hb : (m.before.network.session s).isRelated id = false :=
      Bool.eq_false_iff.mpr fun hb => hn (.inl ⟨hb, _, _, (told _ _).mpr ⟨rfl, rfl⟩⟩)
    rw [Session.relation_of_not_isRelated hb, Session.relation_of_get? ha]
    exact .begin hp
  | @accepted c hb ha told =>
    have hnone := hp s id c hb
    have hcon : c.relation ≠ .connected := fun hc =>
      hn (.inr (.inl ⟨Session.isConnected_iff_get?.mpr ⟨c, hb, hc⟩, _, (told _ _).mpr ⟨rfl, rfl⟩⟩))
    rw [Session.relation_of_get? hb, Session.relation_of_get? ha]
    refine .accept ?_
    cases hrel : c.relation <;> simp_all
  | ended _ _ ha | reset _ ha | absent _ ha =>
    rw [Session.relation_of_get?_eq_none ha]
    exact .finish _
  | kept hb ha hrel =>
    rw [Session.relation_of_get? hb, Session.relation_of_get? ha, hrel]
    exact .stay _

/-- What spoils nothing tells the listener of the connection that goes. -/
theorem ends_of_turn {m : Moment τ υ} {l : Listener} (ht : m.Turn s id)
    (hp : m.before.network.Proper) (hn : ¬ m.Spoils s id)
    (hb : (m.before.network.session s).Attends id l)
    (ha : ¬ (m.after.network.session s).Attends id l ∨ ∃ l', m.Opens s id l') : m.Ends s id l := by
  obtain ⟨c, hc, rfl⟩ := hb
  have hr : (m.before.network.session s).isRelated id = true :=
    Session.isRelated_of_get? (hp s) hc
  have hgone : ¬ (m.after.network.session s).Attends id c.listener :=
    ha.resolve_right fun ho => hn (.inl ⟨hr, ho⟩)
  cases ht with
  | opened _ _ _ told => exact absurd (.inl ⟨hr, _, _, (told _ _).mpr ⟨rfl, rfl⟩⟩) hn
  | accepted hb ha =>
    cases hc.symm.trans hb
    exact absurd ⟨_, ha, rfl⟩ hgone
  | ended he hb _ told =>
    cases hc.symm.trans hb
    exact ⟨_, he, (told _ _).mpr ⟨rfl, rfl⟩⟩
  | reset hreset => exact absurd (.inr (.inr ⟨hr, hreset⟩)) hn
  | absent hb => cases hc.symm.trans hb
  | kept hb ha _ hl =>
    cases hc.symm.trans hb
    exact absurd ⟨_, ha, hl⟩ hgone

section Spoiling

variable {o : Outside τ υ} {moments past mid later : List (Moment τ υ)} {m m' : Moment τ υ}
  {d d' : Desk τ υ}

/-- The moments in between lead from the one to the other. -/
theorem linked_between (hl : Linked d (past ++ m :: (mid ++ m' :: later)) d') :
    Linked m.after mid m'.before := by
  obtain ⟨_, _, _, hl⟩ := linked_append.mp hl
  obtain ⟨_, hmid, he, _⟩ := linked_append.mp hl
  exact he ▸ hmid

theorem mem_between {x : Moment τ υ} (h : x ∈ mid) : x ∈ past ++ m :: (mid ++ m' :: later) := by
  simp [h]

/-- A relation that begins lasts until it ends. -/
theorem apart_of_not_spoils (hlaw : ∀ m ∈ moments, m.Lawful o)
    (hn : ∀ m ∈ moments, ¬ m.Spoils s id) (hl : Linked d moments d')
    (heq : moments = past ++ m :: (mid ++ m' :: later)) {l l' : Listener} (ho : m.Opens s id l)
    (ho' : m'.Opens s id l') : ∃ x ∈ mid, ∃ l, x.Ends s id l := by
  subst heq
  have ht := fun m hm => (hlaw m hm).turn s id
  refine Classical.byContradiction fun hno => ?_
  have hrel : (m'.before.network.session s).isRelated id = true :=
    linked_keeps (P := fun d => (d.network.session s).isRelated id = true) (linked_between hl)
      (fun x hx hr => ((ht x (mem_between hx)).related hr).resolve_right fun hx' =>
        hx'.elim (fun he => hno ⟨x, hx, he⟩) fun hf => hn x (mem_between hx) (.inr (.inr hf)))
      ((ht m (by simp)).opens ho).1
  exact hn m' (by simp) (.inl ⟨hrel, l', ho'⟩)

/-- A connection that is accepted stays so until it ends. -/
theorem once_of_not_spoils (hlaw : ∀ m ∈ moments, m.Lawful o)
    (hn : ∀ m ∈ moments, ¬ m.Spoils s id) (hl : Linked d moments d')
    (heq : moments = past ++ m :: (mid ++ m' :: later)) (ha : m.Accepts s id)
    (ha' : m'.Accepts s id) : ∃ x ∈ mid, ∃ l, x.Ends s id l := by
  subst heq
  have ht := fun m hm => (hlaw m hm).turn s id
  refine Classical.byContradiction fun hno => ?_
  have hcon : (m'.before.network.session s).isConnected id = true :=
    linked_keeps (P := fun d => (d.network.session s).isConnected id = true) (linked_between hl)
      (fun x hx hc => by
        rcases (ht x (mem_between hx)).connected hc with hc | he | hf | ho
        · exact hc
        · exact absurd ⟨x, hx, he⟩ hno
        · exact absurd (.inr (.inr hf)) (hn x (mem_between hx))
        · exact absurd (.inl ho) (hn x (mem_between hx)))
      ((ht m (by simp)).accepts ha)
  exact hn m' (by simp) (.inr (.inl ⟨hcon, ha'⟩))

/-- If the connections come in order, then nothing spoils it. -/
theorem not_spoils_of_wellFormed (hlaw : ∀ m ∈ moments, m.Lawful o)
    (hl : Linked d moments d') (hd : (d.network.session s).isConnected id = false)
    (h : WellFormed s id moments) (hm : m ∈ moments) : ¬ m.Spoils s id := by
  have ht := fun m hm => (hlaw m hm).turn s id
  rintro (⟨hr, l, ho⟩ | ⟨hc, ha⟩ | ⟨hr, hreset⟩)
  · obtain ⟨c, hc, _⟩ := Session.isRelated_iff.mp hr
    exact ((ht m hm).opens ho).2 _ (h.told m hm c.listener ⟨c, hc, rfl⟩ (.inr ⟨l, ho⟩))
  · obtain ⟨past, later, rfl⟩ := List.append_of_mem hm
    obtain ⟨e, hpast, he, _⟩ := linked_append.mp hl
    have hsince : Since (·.Accepts s id) (fun x => ∃ l, x.Ends s id l) ([] ++ past) :=
      since_linked (P := fun d => (d.network.session s).isConnected id = true) hpast
        (fun x hx hc => (ht x (by simp [hx])).of_connected hc)
        (fun hcon => by rw [hd] at hcon; cases hcon) (he ▸ hc)
    obtain ⟨past', a, mid, hpast', ha', hmid⟩ := hsince
    obtain rfl : past = past' ++ a :: mid := hpast'
    obtain ⟨x, hx, hend⟩ := h.once past' a mid m later (by simp) ha' ha
    exact hmid x hx hend
  · obtain ⟨c, hc, _⟩ := Session.isRelated_iff.mp hr
    obtain ⟨⟨acts, he⟩, _⟩ := hlaw m hm
    have hgone : ¬ (m.after.network.session s).Attends id c.listener := by
      rw [session_of_conveys he hreset]
      exact fun ⟨_, hn, _⟩ => by cases hn
    obtain ⟨e, _, ht⟩ := h.told m hm c.listener ⟨c, hc, rfl⟩ (.inl hgone)
    cases (Moment.tells_iff hreset).mp ht

end Spoiling

/-- The connections of a session to an endpoint come in order exactly if the run never initiates one
in the place of another, accepts one that is accepted already or resets the session while it has
one. -/
theorem wellFormed_iff (o : Outside τ υ) (clients : List (SessionName × UInt64))
    (farewells : List (SessionName × EndpointId)) (outside : υ) (callers : Nat)
    (moves : List (Move τ)) (s : SessionName) (id : EndpointId) :
    let c := (start (opening clients farewells) outside callers).play o moves
    WellFormed s id c.moments ↔
      ∀ m : Moment τ υ, m ∈ c.moments →
        ¬ m.Overrides s id ∧ ¬ m.Repeats s id ∧ ¬ m.Forgets s id := by
  intro c
  have hlaw : ∀ m : Moment τ υ, m ∈ c.moments → m.Lawful o :=
    lawful_play o _ farewells outside callers moves
  have hlinked := linked_play o (c := start (opening clients farewells) outside callers) rfl moves
  have hproper := proper_play o clients farewells outside callers moves
  have hspoils : ∀ m : Moment τ υ, ¬ m.Spoils s id ↔
      ¬ m.Overrides s id ∧ ¬ m.Repeats s id ∧ ¬ m.Forgets s id := fun m => by
    rw [Moment.Spoils, not_or, not_or]
  simp only [← hspoils]
  constructor
  · intro h m hm
    refine not_spoils_of_wellFormed hlaw hlinked ?_ h hm
    obtain ⟨i, hi⟩ := session_opening clients farewells s
    show ((opening clients farewells).session s).isConnected id = false
    rw [hi]
    rfl
  · intro hn
    have ht := fun m hm => (hlaw m hm).turn s id
    exact {
      apart := fun _ _ _ _ _ _ _ heq => apart_of_not_spoils hlaw hn hlinked heq
      once := fun _ _ _ _ _ heq => once_of_not_spoils hlaw hn hlinked heq
      moves := fun m hm => moves_of_turn (ht m hm) (hproper m hm) (hn m hm)
      told := fun m hm _ => ends_of_turn (ht m hm) (hproper m hm) (hn m hm) }

open Sample in
/-- An endpoint that is connected is accepted once more and then asks for a connection anew. Its
listener hears of two acceptances and two beginnings and of no end, and the relation goes back from
connected to pending. -/
theorem connected_initiated :
    let b := run
      ([.ask 0 (.hook (.session "A" (.startedAdvertising "svc" {}))),
        .ask 0 (.hook (.session "A" (.incoming ⟨"EP01"⟩ []))),
        .ask 0 (.hook (.session "A" (.remoteResponse ⟨"EP01"⟩ true))),
        .ask 0 (.hook (.session "A" (.remoteResponse ⟨"EP01"⟩ true)))] ++ turns 1 7)
    let c := b.play silent (.ask 0 (.hook (.session "A" (.incoming ⟨"EP01"⟩ []))) :: turns 1 2)
    c.delivered =
        [.connection {} (.initiated ⟨"EP01"⟩ (Transport.incomingInfo ⟨"EP01"⟩ [])),
          .connection {} (.accepted ⟨"EP01"⟩), .connection {} (.accepted ⟨"EP01"⟩),
          .connection {} (.initiated ⟨"EP01"⟩ (Transport.incomingInfo ⟨"EP01"⟩ []))] ∧
      (b.shared.network.session "A").relation ⟨"EP01"⟩ = .connected ∧
      (c.shared.network.session "A").relation ⟨"EP01"⟩ = .pendingIncoming := by
  exact ⟨by decide +kernel, by decide +kernel, by decide +kernel⟩

end Chronicle

end Exchange

end Switchboard
