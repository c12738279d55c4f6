/-
  Whom the held mapping belongs to.

  A mapping is made for a local port, a gateway and this host's address for it.  `set_local_port`
  and a lookup that answers something new drop the mapping that is held, but a call that asked
  before them still stores what it obtains after them: `store_mapping` asks only whether the client
  is closed.  So the held mapping is the current one as long as no call stores for an endpoint the
  client has left since it asked, and no longer.
-/
import Tailnetd.Portmap

namespace Tailnetd

namespace Portmap

open Machine

/-! ## The law -/

/-- The mapping was made for this local port and this network. -/
def State.Owns (st : State) (internal : SocketAddr) (gw : IpAddr) : Prop :=
  internal.port = st.localPort ∧ some internal.ip = st.lastMyIp ∧ some gw = st.lastGw

/-- A held mapping belongs to the current local port and network. -/
def State.Lawful (st : State) : Prop := ∀ m, st.mapping = some m → st.Owns m.internal m.gw.ip

namespace State

/-- Nothing is held, so nothing is held wrongly. -/
theorem lawful_of_none {st : State} (h : st.mapping = none) : st.Lawful := by
  intro m hm
  rw [h] at hm
  cases hm

/-- Only the mapping, the port and the network matter. -/
theorem Lawful.congr {st st' : State} (h : st.Lawful) (hmapping : st'.mapping = st.mapping)
    (hport : st'.localPort = st.localPort) (hip : st'.lastMyIp = st.lastMyIp)
    (hgw : st'.lastGw = st.lastGw) : st'.Lawful := by
  intro m hm
  rw [hmapping] at hm
  obtain ⟨h1, h2, h3⟩ := h m hm
  exact ⟨h1.trans hport.symm, h2.trans hip.symm, h3.trans hgw.symm⟩

theorem invalidateMappings_lawful (st : State) (releaseOld : Bool) :
    (st.invalidateMappings releaseOld).2.Lawful :=
  lawful_of_none rfl

theorem setLocalPort_lawful {st : State} (h : st.Lawful) (port : UInt16) :
    (st.setLocalPort port).2.Lawful := by
  unfold setLocalPort
  split
  · exact h
  · exact invalidateMappings_lawful _ true

theorem close_lawful {st : State} (h : st.Lawful) : st.close.2.Lawful := by
  unfold close
  split
  · exact h
  · exact invalidateMappings_lawful _ true

theorem gatewayAndSelfIp_lawful {st : State} (h : st.Lawful) (found : Option (IpAddr × IpAddr)) :
    (st.gatewayAndSelfIp found).2.Lawful := by
  unfold gatewayAndSelfIp
  dsimp only
  split
  · exact invalidateMappings_lawful _ true
  · exact h

/-- An epoch that went backwards drops the mapping, any other leaves it. -/
theorem heardPmp_lawful {st : State} (h : st.Lawful) (publicAddr : Option (List Nat))
    (epoch : UInt32) (now : SystemTime) : (st.heardPmp publicAddr epoch now).Lawful := by
  have hkept : (st.maybeInvalidatePmpMapping epoch).Lawful := by
    unfold maybeInvalidatePmpMapping
    split
    · exact h
    · split
      · exact h
      · split
        · exact h
        · exact lawful_of_none rfl
  exact hkept.congr rfl rfl rfl rfl

theorem heardPcp_lawful {st : State} (h : st.Lawful) (epoch : UInt32) (now : SystemTime) :
    (st.heardPcp epoch now).Lawful := by
  have hkept : (st.maybeInvalidatePcpMapping epoch).Lawful := by
    unfold maybeInvalidatePcpMapping
    split
    · exact h
    · split
      · exact h
      · split
        · exact h
        · exact lawful_of_none rfl
  exact hkept.congr rfl rfl rfl rfl

/-- **A store keeps the law** exactly when the client is closed or the mapping is its own. -/
theorem storeMapping_lawful_iff {st : State} (h : st.Lawful) (m : Mapping) :
    (st.storeMapping m).2.Lawful ↔ (st.closed = false → st.Owns m.internal m.gw.ip) := by
  unfold storeMapping
  cases hclosed : st.closed with
  | true =>
    constructor
    · intro _ hopen
      cases hopen
    · intro _
      exact h
  | false =>
    constructor
    · intro hstored _
      exact hstored m rfl
    · intro howns m' hm'
      cases hm'
      exact howns rfl

end State

/-! ## Steps -/

/-- A call stores only for the endpoint the client still has. -/
def StoresOwn (c : Client) : Event → Prop
  | .storeMapping i _ => ∀ a ask, c.attempts[i]? = some a → a.phase = .asking ask →
      c.state.closed = false → c.state.Owns ask.internal ask.gw
  | _ => True

/-- **The law is kept by a step exactly when it stores for the current endpoint**, if it stores. -/
theorem step_lawful_iff {c c' : Client} {e : Event} (h : c.state.Lawful)
    (hstep : c.step e = some c') : c'.state.Lawful ↔ StoresOwn c e := by
  have hkept (hlawful : c'.state.Lawful) (he : StoresOwn c e) : c'.state.Lawful ↔ StoresOwn c e :=
    ⟨fun _ => he, fun _ => hlawful⟩
  cases Client.step_does hstep with
  | setLocalPort port => exact hkept (State.setLocalPort_lawful h port) trivial
  | noteNetworkDown => exact hkept (State.invalidateMappings_lawful c.state false) trivial
  | gatewayAndSelfIp found => exact hkept (State.gatewayAndSelfIp_lawful h found) trivial
  | close => exact hkept (State.close_lawful h) trivial
  | heardPmp publicAddr epoch now =>
    exact hkept (State.heardPmp_lawful h publicAddr epoch now) trivial
  | heardPcp epoch now => exact hkept (State.heardPcp_lawful h epoch now) trivial
  | heardUpnp | probed | started => exact hkept (h.congr rfl rfl rfl rfl) trivial
  | call | unstarted | refused | entered | asked | unasked => exact hkept h trivial
  | located gw myIp => exact hkept (State.gatewayAndSelfIp_lawful h _) trivial
  | unlocated found => exact hkept (State.gatewayAndSelfIp_lawful h found) trivial
  | @stored i g a ask hattempt hphase =>
    refine (State.storeMapping_lawful_iff h (ask.mapping g)).trans ?_
    constructor
    · intro howns a' ask' hattempt' hphase'
      rw [hattempt] at hattempt'
      cases hattempt'
      rw [hphase] at hphase'
      cases hphase'
      exact howns
    · intro howns
      exact howns a ask hattempt hphase
  | returned =>
    refine hkept ?_ trivial
    dsimp only
    split
    · exact h.congr rfl rfl rfl rfl
    · exact h

/-! ## Runs -/

/-- **The held mapping is the current one throughout a run** exactly when no call of the run stores
    for a local port or a network the client has left. -/
theorem mapping_current_iff (knobs : Knobs) (es : List Event) (c : Client) :
    Run Client.step StoresOwn { knobs := knobs } es c ↔
      Run Client.step (fun _ _ => True) { knobs := knobs } es c ∧
        ∀ es₁ es₂ c₁, es = es₁ ++ es₂ →
          Run Client.step (fun _ _ => True) { knobs := knobs } es₁ c₁ → c₁.state.Lawful :=
  Run.throughout_iff (P := fun c => c.state.Lawful) (fun _ _ _ h hstep => step_lawful_iff h hstep)
    (State.lawful_of_none rfl)

/-! ## A port left behind -/

/-- The gateway and this host's address for it. -/
def homeRouter : IpAddr × IpAddr := (.v4 [192, 168, 1, 1], .v4 [192, 168, 1, 20])

/-- Ten minutes on a NAT-PMP gateway. -/
def pmpGrant : Grant where
  kind := .pmp
  external := ⟨.v4 [203, 0, 113, 7], 41641⟩
  renewAfter := 300 * nanosPerSec
  goodUntil := 600 * nanosPerSec
  epoch := 1
  nonce := none

/-- **A mapping for the old port is stored after the port changed.** -/
theorem stored_for_old_port :
    ¬ ∀ (es : List Event) (c : Client), Run Client.step (fun _ _ => True) { knobs := {} } es c →
      c.state.Lawful := by
  intro hclaim
  obtain ⟨c, m, hrun, hmapping, hport⟩ : ∃ c m,
      follow Client.step { knobs := {} }
        [.setLocalPort 41641, .call, .enter 0, .locate 0 (some homeRouter), .snapshot 0 0,
          .setLocalPort 41642, .storeMapping 0 pmpGrant] = some c ∧
      c.state.mapping = some m ∧ m.internal.port ≠ c.state.localPort :=
    ⟨_, _, rfl, rfl, by decide⟩
  exact hport (hclaim _ c (run_of_follow (fun _ _ _ => trivial) hrun) m hmapping).1

end Portmap

end Tailnetd
