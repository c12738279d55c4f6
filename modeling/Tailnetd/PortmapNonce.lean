/-
  The nonces of the PCP MAP requests.

  A PCP gateway knows a mapping by its internal endpoint and by the nonce of the request that
  created it, and refuses a MAP request for the endpoint that carries another one.  The client sends
  such requests from two places: a release repeats the nonce the mapping was granted under, and a
  call of `create_or_get_mapping` draws a fresh one whatever it holds.  So every release is one the
  gateway can recognise, and a renewal, which asks while the old lease still runs, never is.

  The machine here is the one of the sections with what they leave out added: the sends, which
  happen between a call's snapshot and its store, and the request that an answer is read as an
  answer to.
-/
import Tailnetd.PortmapLedger

namespace Tailnetd

namespace Portmap

open Machine

/-! ## Requests -/

/-- `MAP_LIFETIME_SEC`, two hours. -/
def mapLifetimeSec : UInt32 := 7200

/-- `MAP_LIFETIME_DELETE`. -/
def mapLifetimeDelete : UInt32 := 0

/-- What `build_pcp_request_mapping_packet` puts in a packet. -/
structure PcpMapRequest where
  nonce : List UInt8
  myIp : IpAddr
  localPort : UInt16
  prevPort : UInt16
  lifetimeSec : UInt32
  prevExternalIp : IpAddr
  deriving DecidableEq, Repr

/-- The MAP request of a `release_packet`, for the mappings that PCP made. -/
def Mapping.releasePacket (m : Mapping) : Option PcpMapRequest :=
  match m.kind with
  | .pmp => none
  | .pcp =>
    some
      { nonce := m.nonce.getD (List.replicate 12 0)
        myIp := m.internal.ip
        localPort := m.internal.port
        prevPort := 0
        lifetimeSec := mapLifetimeDelete
        prevExternalIp := .v4 [0, 0, 0, 0] }

/-- The MAP request of a call that prefers PCP. -/
def Ask.request (a : Ask) (nonce : List UInt8) : PcpMapRequest where
  nonce := nonce
  myIp := a.internal.ip
  localPort := a.internal.port
  prevPort := a.prevPort
  lifetimeSec := mapLifetimeSec
  prevExternalIp := .v4 [0, 0, 0, 0]

/-- `prefer_pcp`. -/
def Ask.preferPcp (a : Ask) (k : Knobs) : Bool :=
  !k.disablePcp && (k.disablePmp || (!a.haveRecentPmp && a.haveRecentPcp))

/-! ## The client with what it sends -/

/-- What a call sent: a NAT-PMP request, or a PCP one with its nonce. -/
inductive Sent where
  | pmp
  | pcp (nonce : List UInt8)
  deriving DecidableEq, Repr

/-- `pcp_nonce`. -/
def Sent.nonce : Sent → Option (List UInt8)
  | .pmp => none
  | .pcp nonce => some nonce

/-- The nonce that an answer is filed under: a NAT-PMP answer has none. -/
def Sent.filedUnder (sent : Sent) : MappingKind → Option (List UInt8)
  | .pmp => none
  | .pcp => sent.nonce

/-- The client, what each call in flight has sent, the nonce of the request that created the held
    mapping, and the nonces drawn so far. -/
structure Talk where
  client : Client
  sent : List (Option Sent) := []
  creator : Option (List UInt8) := none
  drawn : List (List UInt8) := []
  deriving DecidableEq, Repr

/-- A section of the client, at a time; or the request of the call at a position, with the nonce
    that `mapping_nonce` answers should it ask for one. -/
inductive TalkEvent where
  | lock (now : SystemTime) (e : Event)
  | send (i : Nat) (now : SystemTime) (nonce : List UInt8)

/-- When an event happens. -/
def TalkEvent.now : TalkEvent → SystemTime
  | .lock now _ => now
  | .send _ now _ => now

/-- The lookup answers something new, or nothing. -/
def State.Moved (st : State) (found : Option (IpAddr × IpAddr)) : Prop :=
  found.map (·.1) ≠ st.lastGw ∨ found.map (·.2) ≠ st.lastMyIp ∨ found.isNone = true

namespace Talk

/-- What the calls have sent, once one came or returned. -/
def sentAfter (w : Talk) : Event → List (Option Sent)
  | .call => w.sent ++ [none]
  | .maybeStartMapping =>
    if w.client.state.closed || w.client.state.runningCreate then w.sent else w.sent ++ [none]
  | .returned i => w.sent.eraseIdx i
  | _ => w.sent

/-- The call at a position asks, and has not yet sent what it asks with. -/
def unsent (w : Talk) (i : Nat) : Option Ask :=
  match w.client.attempts[i]?, w.sent[i]? with
  | some a, some none =>
    match a.phase with
    | .asking ask => some ask
    | _ => none
  | _, _ => none

/-- One event.  A call stores what answers the request it sent; a PCP answer is filed under the
    nonce of that request. -/
def step (w : Talk) : TalkEvent → Option Talk
  | .lock _ (.storeMapping i g) =>
    match w.sent[i]? with
    | some (some sent) =>
      if g.nonce = sent.filedUnder g.kind then
        (w.client.step (.storeMapping i g)).map fun c =>
          { w with
            client := c
            creator := if w.client.state.closed then w.creator else sent.nonce }
      else none
    | _ => none
  | .lock _ e => (w.client.step e).map fun c => { w with client := c, sent := w.sentAfter e }
  | .send i _ nonce =>
    match w.unsent i with
    | some ask =>
      if ask.preferPcp w.client.knobs then
        some { w with sent := w.sent.set i (some (.pcp nonce)), drawn := nonce :: w.drawn }
      else some { w with sent := w.sent.set i (some .pmp) }
    | none => none

/-- The mappings a section gave to `release_mapping`. -/
def releases (c c' : Client) : List Mapping :=
  c'.released.take (c'.released.length - c.released.length)

/-- The PCP MAP requests of an event. -/
def requests (w : Talk) : TalkEvent → Talk → List PcpMapRequest
  | .lock _ _, w' => (releases w.client w'.client).filterMap Mapping.releasePacket
  | .send i _ nonce, _ =>
    match w.unsent i with
    | some ask => if ask.preferPcp w.client.knobs then [ask.request nonce] else []
    | none => []

/-! ## The rule -/

/-- The client holds this mapping, PCP made it, and its lease still runs. -/
def Live (w : Talk) (now : SystemTime) (m : Mapping) : Prop :=
  w.client.state.mapping = some m ∧ m.kind = .pcp ∧ now < m.goodUntil

/-- A PCP MAP request for the endpoint of a live mapping carries the nonce of the request that
    created the mapping. -/
def Obeys (w : Talk) (e : TalkEvent) : Prop :=
  ∀ w', w.step e = some w' → ∀ r ∈ w.requests e w', ∀ m, w.Live e.now m →
    m.internal = ⟨r.myIp, r.localPort⟩ → w.creator = some r.nonce

/-- A nonce that is drawn was not drawn before. -/
def Fresh (w : Talk) : TalkEvent → Prop
  | .lock _ _ => True
  | .send i _ nonce =>
    ∀ ask, w.unsent i = some ask → ask.preferPcp w.client.knobs = true → nonce ∉ w.drawn

/-- The section gives up the held mapping and releases it. -/
def LetsGo (c : Client) : Event → Prop
  | .setLocalPort port => c.state.localPort ≠ port
  | .close => c.state.closed = false
  | .gatewayAndSelfIp found => c.state.Moved found
  | .locate _ found => c.state.Moved found
  | _ => False

/-- No call asks over PCP for the endpoint of a live mapping, and no live mapping is released that
    PCP made in answer to a NAT-PMP request. -/
def KeepsNonce (w : Talk) : TalkEvent → Prop
  | .lock now e => LetsGo w.client e → ∀ m, w.Live now m → m.nonce.isSome
  | .send i now _ =>
    ∀ ask, w.unsent i = some ask → ask.preferPcp w.client.knobs = true →
      ∀ m, w.Live now m → m.internal ≠ ask.internal

/-! ## What a section releases -/

theorem releases_append (c : Client) {c' : Client} {ms : List Mapping}
    (h : c'.released = ms ++ c.released) : releases c c' = ms := by
  rw [releases, h, List.length_append, Nat.add_sub_cancel, List.take_left]

/-- A section that lets go of the held mapping releases it; of the others, only the store of a
    closed client releases anything. -/
theorem step_releases {c c' : Client} {e : Event} (h : c.step e = some c') :
    (LetsGo c e ∧ releases c c' = c.state.mapping.toList) ∨
      (¬ LetsGo c e ∧ (releases c c' = [] ∨ c.state.closed = true)) := by
  have hsame {c' : Client} (hreleased : c'.released = c.released) : releases c c' = [] :=
    releases_append c hreleased
  have hlookup (found : Option (IpAddr × IpAddr)) :
      (c.state.Moved found ∧
          (c.settle (c.state.gatewayAndSelfIp found)).released =
            c.state.mapping.toList ++ c.released) ∨
        (¬ c.state.Moved found ∧
          (c.settle (c.state.gatewayAndSelfIp found)).released = c.released) := by
    unfold State.gatewayAndSelfIp
    dsimp only
    split
    · rename_i hmoved
      exact .inl ⟨hmoved, rfl⟩
    · rename_i hmoved
      exact .inr ⟨hmoved, rfl⟩
  cases Client.step_does h with
  | setLocalPort port =>
    unfold State.setLocalPort
    split
    · rename_i hport
      exact .inr ⟨fun h => h hport, .inl (hsame rfl)⟩
    · rename_i hport
      exact .inl ⟨hport, releases_append c rfl⟩
  | close =>
    unfold State.close
    split
    · rename_i hclosed
      refine .inr ⟨?_, .inr hclosed⟩
      intro hopen
      cases hclosed.symm.trans hopen
    · rename_i hclosed
      have hopen : c.state.closed = false := by simpa using hclosed
      exact .inl ⟨hopen, releases_append c rfl⟩
  | gatewayAndSelfIp found | unlocated found =>
    rcases hlookup found with ⟨hmoved, hreleased⟩ | ⟨hmoved, hreleased⟩
    · exact .inl ⟨hmoved, releases_append c hreleased⟩
    · exact .inr ⟨hmoved, .inl (hsame hreleased)⟩
  | located gw myIp =>
    rcases hlookup (some (.v4 gw, myIp)) with ⟨hmoved, hreleased⟩ | ⟨hmoved, hreleased⟩
    · exact .inl ⟨hmoved, releases_append c hreleased⟩
    · exact .inr ⟨hmoved, .inl (hsame hreleased)⟩
  | stored hattempt hphase =>
    refine .inr ⟨fun h => h, ?_⟩
    unfold State.storeMapping
    split
    · rename_i hclosed
      exact .inr hclosed
    · exact .inl (hsame rfl)
  | _ => exact .inr ⟨fun h => h, .inl (hsame rfl)⟩

/-! ## What is filed -/

/-- The books are right: a held PCP mapping carries the nonce of the request that created it, and
    the nonces in use were drawn. -/
structure Filed (w : Talk) : Prop where
  closed : w.client.Released
  held : ∀ m, w.client.state.mapping = some m → m.kind = .pcp → m.nonce = w.creator
  creator : ∀ nonce, w.creator = some nonce → nonce ∈ w.drawn
  sent : ∀ nonce, some (.pcp nonce) ∈ w.sent → nonce ∈ w.drawn

/-- A section other than a store keeps the mapping or drops it. -/
theorem step_keeps {c c' : Client} {e : Event} (h : c.step e = some c')
    (hstore : ∀ i g, e ≠ .storeMapping i g) :
    c'.state.mapping = c.state.mapping ∨ c'.state.mapping = none := by
  have htaken : c.obtained e c' = [] := by
    cases e with
    | storeMapping i g => exact absurd rfl (hstore i g)
    | _ => rfl
  have hmoves := Client.step_moves h
  rw [htaken] at hmoves
  generalize c.dropped e c' = gone at hmoves
  generalize c.replaced e c' = pairs at hmoves
  generalize htaken' : ([] : List Mapping) = taken at hmoves
  cases hmoves with
  | kept hmapping hreleased hclosed => exact .inl hmapping
  | released hmapping hreleased hclosed => exact .inr hmapping
  | dropped hmapping hreleased hclosed => exact .inr hmapping
  | stored hopen hmapping hreleased hclosed => cases htaken'
  | refused hmapping hreleased hopen hclosed => cases htaken'

/-- A store puts the answer in the mapping's place, unless the client is closed. -/
theorem step_store {c c' : Client} {i : Nat} {g : Grant}
    (h : c.step (.storeMapping i g) = some c') :
    (c.state.closed = true ∧ c'.state.mapping = c.state.mapping) ∨
      (c.state.closed = false ∧ ∃ ask : Ask, c'.state.mapping = some (ask.mapping g)) := by
  cases Client.step_does h with
  | @stored i g a ask hattempt hphase =>
    unfold State.storeMapping
    split
    · rename_i hclosed
      exact .inl ⟨hclosed, rfl⟩
    · rename_i hopen
      exact .inr ⟨by simpa using hopen, ask, rfl⟩

/-- A section as the machine of the sends takes it. -/
theorem step_lock {w w' : Talk} {now : SystemTime} {e : Event}
    (h : w.step (.lock now e) = some w') :
    w.client.step e = some w'.client ∧ w'.drawn = w.drawn ∧
      ((∃ i g sent, e = .storeMapping i g ∧ some sent ∈ w.sent ∧
          g.nonce = sent.filedUnder g.kind ∧ w'.sent = w.sent ∧
          w'.creator = if w.client.state.closed then w.creator else sent.nonce) ∨
        ((∀ i g, e ≠ .storeMapping i g) ∧ w'.sent = w.sentAfter e ∧ w'.creator = w.creator)) := by
  cases e with
  | storeMapping i g =>
    dsimp only [step] at h
    split at h
    · rename_i sent hsent
      split at h
      · rename_i hnonce
        obtain ⟨c, hc, rfl⟩ := Option.map_eq_some_iff.mp h
        exact ⟨hc, rfl, .inl ⟨i, g, sent, rfl, List.mem_of_getElem? hsent, hnonce, rfl, rfl⟩⟩
      · cases h
    · cases h
  | _ =>
    dsimp only [step] at h
    obtain ⟨c, hc, rfl⟩ := Option.map_eq_some_iff.mp h
    exact ⟨hc, rfl, .inr ⟨fun _ _ h => (by cases h), rfl, rfl⟩⟩

/-- A call that comes has sent nothing, and one that returns is forgotten. -/
theorem mem_sentAfter {w : Talk} {e : Event} {sent : Sent} (h : some sent ∈ w.sentAfter e) :
    some sent ∈ w.sent := by
  unfold sentAfter at h
  split at h
  · simpa using h
  · split at h
    · exact h
    · simpa using h
  · exact List.mem_of_mem_eraseIdx h
  · exact h

/-- **The books stay right.** -/
theorem step_filed {w w' : Talk} {e : TalkEvent} (hw : w.Filed) (h : w.step e = some w') :
    w'.Filed := by
  cases e with
  | lock now e =>
    obtain ⟨hstep, hdrawn, hcase⟩ := step_lock h
    have hclosed : w'.client.Released :=
      (Client.step_moves hstep).keeps_released hw.closed
    rcases hcase with ⟨i, g, sent, rfl, hsent, hnonce, hsent', hcreator⟩ |
      ⟨hstore, hsent', hcreator⟩
    · have hdrawn' : ∀ nonce, sent.nonce = some nonce → nonce ∈ w.drawn := by
        intro nonce hn
        cases sent with
        | pmp => cases hn
        | pcp nonce' =>
          cases hn
          exact hw.sent nonce hsent
      rcases step_store hstep with ⟨hc, hmapping⟩ | ⟨hc, ask, hmapping⟩
      · rw [if_pos hc] at hcreator
        exact ⟨hclosed, by rw [hmapping, hcreator]; exact hw.held, by
          rw [hcreator, hdrawn]; exact hw.creator, by rw [hsent', hdrawn]; exact hw.sent⟩
      · rw [hc] at hcreator
        refine ⟨hclosed, ?_, ?_, by rw [hsent', hdrawn]; exact hw.sent⟩
        · intro m hm hkind
          rw [hmapping] at hm
          cases hm
          -- the mapping is the answer, filed under the nonce of the request
          have hpcp : g.kind = .pcp := hkind
          rw [hpcp] at hnonce
          exact hnonce.trans hcreator.symm
        · rw [hcreator, hdrawn]
          exact hdrawn'
    · refine ⟨hclosed, ?_, by rw [hcreator, hdrawn]; exact hw.creator, ?_⟩
      · intro m hm hkind
        rw [hcreator]
        rcases step_keeps hstep hstore with hkept | hnone
        · exact hw.held m (hkept ▸ hm) hkind
        · rw [hnone] at hm
          cases hm
      · intro nonce hn
        rw [hsent'] at hn
        rw [hdrawn]
        exact hw.sent nonce (mem_sentAfter hn)
  | send i now nonce =>
    dsimp only [step] at h
    split at h
    · split at h
      · cases h
        refine ⟨hw.closed, hw.held, ?_, ?_⟩
        · intro n hn
          exact List.mem_cons_of_mem nonce (hw.creator n hn)
        · intro n hn
          rcases List.mem_or_eq_of_mem_set hn with hn | hn
          · exact List.mem_cons_of_mem nonce (hw.sent n hn)
          · cases hn
            exact List.mem_cons_self
      · cases h
        refine ⟨hw.closed, hw.held, hw.creator, ?_⟩
        intro n hn
        rcases List.mem_or_eq_of_mem_set hn with hn | hn
        · exact hw.sent n hn
        · cases hn
    · cases h

/-! ## When the rule is kept -/

/-- What a live mapping is released with. -/
theorem releasePacket_live {w : Talk} {now : SystemTime} {m : Mapping} (h : w.Live now m) :
    m.releasePacket = some
      { nonce := m.nonce.getD (List.replicate 12 0)
        myIp := m.internal.ip
        localPort := m.internal.port
        prevPort := 0
        lifetimeSec := mapLifetimeDelete
        prevExternalIp := .v4 [0, 0, 0, 0] } := by
  rw [Mapping.releasePacket, h.2.1]

/-- **Releases.**  A section keeps the rule exactly when the live mapping it releases, if any, has a
    nonce to repeat. -/
theorem lock_obeys_iff {w w' : Talk} {now : SystemTime} {e : Event} (hw : w.Filed)
    (h : w.step (.lock now e) = some w') : w.Obeys (.lock now e) ↔ w.KeepsNonce (.lock now e) := by
  obtain ⟨hstep, -, -⟩ := step_lock h
  have hreleases := step_releases hstep
  constructor
  · intro hobeys hgo m hlive
    rcases hreleases with ⟨-, hreleases⟩ | ⟨hstays, -⟩
    · -- the release carries the nonce it is filed under, or zeros
      have hr := hobeys w' h _ (List.mem_filterMap.mpr ⟨m, by simp [hreleases, hlive.1],
        releasePacket_live hlive⟩) m hlive rfl
      rw [hw.held m hlive.1 hlive.2.1, hr]
      rfl
    · exact absurd hgo hstays
  · intro hkeeps w'' h' r hr m hlive hinternal
    obtain rfl := Option.some.inj (h.symm.trans h')
    obtain ⟨m', hm', hpacket⟩ := List.mem_filterMap.mp hr
    rcases hreleases with ⟨hgo, hreleases⟩ | ⟨-, hnone | hclosed⟩
    · rw [hreleases, hlive.1, Option.toList_some, List.mem_singleton] at hm'
      rw [hm', releasePacket_live hlive] at hpacket
      cases hpacket
      obtain ⟨nonce, hnonce⟩ := Option.isSome_iff_exists.mp (hkeeps hgo m hlive)
      rw [← hw.held m hlive.1 hlive.2.1, hnonce]
      rfl
    · rw [hnone] at hm'
      cases hm'
    · cases (hw.closed hclosed).symm.trans hlive.1

/-- **Renewals.**  A call that asks keeps the rule exactly when it does not ask for the endpoint of
    a live mapping: the nonce it carries is a new one. -/
theorem send_obeys_iff {w w' : Talk} {i : Nat} {now : SystemTime} {nonce : List UInt8}
    (hw : w.Filed) (hfresh : w.Fresh (.send i now nonce))
    (h : w.step (.send i now nonce) = some w') :
    w.Obeys (.send i now nonce) ↔ w.KeepsNonce (.send i now nonce) := by
  have hrequests {ask : Ask} (hask : w.unsent i = some ask)
      (hprefer : ask.preferPcp w.client.knobs = true) :
      w.requests (.send i now nonce) w' = [ask.request nonce] := by
    rw [requests, hask]
    exact if_pos hprefer
  constructor
  · intro hobeys ask hask hprefer m hlive hinternal
    have hcreator := hobeys w' h (ask.request nonce) (by simp [hrequests hask hprefer]) m hlive hinternal
    exact hfresh ask hask hprefer (hw.creator nonce hcreator)
  · intro hkeeps w'' h' r hr m hlive hinternal
    obtain rfl := Option.some.inj (h.symm.trans h')
    cases hask : w.unsent i with
    | none =>
      rw [requests, hask] at hr
      cases hr
    | some ask =>
      cases hprefer : ask.preferPcp w.client.knobs with
      | true =>
        rw [hrequests hask hprefer, List.mem_singleton] at hr
        rw [hr] at hinternal
        exact absurd hinternal (hkeeps ask hask hprefer m hlive)
      | false =>
        rw [requests, hask] at hr
        dsimp only at hr
        rw [if_neg (by simp [hprefer])] at hr
        cases hr

end Talk

open Talk

/-- **Every PCP MAP request for a live mapping carries the mapping's nonce** exactly where no call
    asks over PCP for the endpoint of a live mapping, and none is released that has no nonce.  The
    nonces drawn are taken to be pairwise distinct. -/
theorem request_nonce_iff {knobs : Knobs} {es : List TalkEvent} {w : Talk}
    (h : Run Talk.step Fresh { client := { knobs := knobs } } es w) :
    Run Talk.step Obeys { client := { knobs := knobs } } es w ↔
      Run Talk.step KeepsNonce { client := { knobs := knobs } } es w := by
  refine Run.exchange (P := Filed) (fun _ _ _ hw _ => step_filed hw) ?_ h ?_
  · intro w e w' hw hfresh hstep
    cases e with
    | lock now e => exact lock_obeys_iff hw hstep
    | send i now nonce => exact send_obeys_iff hw hfresh hstep
  · exact ⟨fun hclosed => (by cases hclosed), fun _ hm => (by cases hm), fun _ hn => (by cases hn),
      fun _ hn => (by cases hn)⟩

/-! ## A renewal -/

/-- Two hours on a PCP gateway, asked for under a nonce. -/
def pcpGrant (nonce : List UInt8) : Grant where
  kind := .pcp
  external := ⟨.v4 [203, 0, 113, 7], 41641⟩
  renewAfter := 3600 * nanosPerSec
  goodUntil := 7200 * nanosPerSec
  epoch := 1
  nonce := some nonce

def nonce₁ : List UInt8 := List.replicate 12 1

def nonce₂ : List UInt8 := List.replicate 12 2

/-- A client that asks over PCP alone. -/
def pcpOnly : Client where
  knobs := { disablePmp := true, disableUpnp := true }

/-- A call creates a PCP mapping. -/
def creation : List TalkEvent :=
  [.lock 0 (.setLocalPort 41641), .lock 0 .call, .lock 0 (.enter 0),
    .lock 0 (.locate 0 (some homeRouter)), .lock 0 (.snapshot 0 0), .send 0 0 nonce₁,
    .lock 0 (.storeMapping 0 (pcpGrant nonce₁)), .lock 0 (.returned 0)]

/-- The client makes a mapping and closes: the release repeats the nonce. -/
theorem request_nonce_iff_released : ∃ w,
    Run Talk.step Obeys { client := pcpOnly } (creation ++ [.lock (60 * nanosPerSec) .close]) w := by
  have hfresh : ∃ w, Run Talk.step Fresh { client := pcpOnly }
      (creation ++ [.lock (60 * nanosPerSec) .close]) w :=
    ⟨_, .cons trivial rfl <| .cons trivial rfl <| .cons trivial rfl <| .cons trivial rfl <|
      .cons trivial rfl <| .cons (fun _ _ _ h => by cases h) rfl <| .cons trivial rfl <|
      .cons trivial rfl <| .cons trivial rfl <| .nil _⟩
  obtain ⟨w, hfresh⟩ := hfresh
  refine ⟨w, (request_nonce_iff hfresh).mpr ?_⟩
  -- nothing is held until the store, and what is released then has its nonce
  have hkeeps : ∃ w, Run Talk.step KeepsNonce { client := pcpOnly }
      (creation ++ [.lock (60 * nanosPerSec) .close]) w :=
    ⟨_, .cons (fun _ _ hm => by cases hm.1) rfl <| .cons False.elim rfl <| .cons False.elim rfl <|
      .cons (fun _ _ hm => by cases hm.1) rfl <| .cons False.elim rfl <|
      .cons (fun _ _ _ _ hm => by cases hm.1) rfl <| .cons False.elim rfl <|
      .cons False.elim rfl <| .cons (fun _ _ hm => by cases hm.1; rfl) rfl <| .nil _⟩
  obtain ⟨w', hkeeps⟩ := hkeeps
  rwa [hkeeps.deterministic hfresh] at hkeeps

/-- The client makes a mapping, and up to its send a call at half the lease. -/
def renewalCall : List TalkEvent :=
  creation ++ [.lock (3600 * nanosPerSec) .call, .lock (3600 * nanosPerSec) (.enter 0),
    .lock (3600 * nanosPerSec) (.locate 0 (some homeRouter)),
    .lock (3600 * nanosPerSec) (.snapshot 0 (3600 * nanosPerSec))]

theorem renewalCall_fresh : ∃ w, follow Talk.step { client := pcpOnly } renewalCall = some w ∧
    Run Talk.step Fresh { client := pcpOnly } renewalCall w :=
  ⟨_, rfl, .cons trivial rfl <| .cons trivial rfl <| .cons trivial rfl <| .cons trivial rfl <|
    .cons trivial rfl <| .cons (fun _ _ _ h => by cases h) rfl <| .cons trivial rfl <|
    .cons trivial rfl <| .cons trivial rfl <| .cons trivial rfl <| .cons trivial rfl <|
    .cons trivial rfl <| .nil _⟩

/-- **A renewal asks with a nonce of its own** for a mapping whose lease still runs. -/
theorem renewal_draws_nonce :
    ¬ ∀ (es : List TalkEvent) (w : Talk), Run Talk.step Fresh { client := pcpOnly } es w →
      Run Talk.step Obeys { client := pcpOnly } es w := by
  intro hclaim
  obtain ⟨w, hfollow, hfresh⟩ := renewalCall_fresh
  obtain ⟨w', m, r, hstep, hnew, hr, hlive, hinternal, hcreator⟩ : ∃ w' m r,
      w.step (.send 0 (3600 * nanosPerSec) nonce₂) = some w' ∧
      w.Fresh (.send 0 (3600 * nanosPerSec) nonce₂) ∧
      r ∈ w.requests (.send 0 (3600 * nanosPerSec) nonce₂) w' ∧
      w.Live (3600 * nanosPerSec) m ∧ m.internal = ⟨r.myIp, r.localPort⟩ ∧
      w.creator ≠ some r.nonce := by
    cases hfollow
    have hnew : nonce₂ ∉ [nonce₁] := by decide
    exact ⟨_, _, _, rfl, fun _ _ _ => hnew, List.mem_cons_self, ⟨rfl, rfl, by decide⟩, rfl,
      by decide⟩
  have hrun := hclaim _ w' (hfresh.append (.single hnew hstep))
  obtain ⟨u, hbefore, hlast⟩ := hrun.split
  obtain rfl := hbefore.deterministic hfresh
  cases hlast with
  | cons hobeys _ _ => exact hcreator (hobeys w' hstep r hr m hlive hinternal)

end Portmap

end Tailnetd
