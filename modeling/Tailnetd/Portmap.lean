/-
  The port-mapping client (`portmap.rs`) as a step machine.

  The client keeps everything it remembers behind one lock and talks to the gateway without it.  A
  call of `create_or_get_mapping` takes the lock for its entry check, for the gateway lookup, for a
  snapshot of what it asks with, and at the end to store the mapping it obtained; a probe takes it
  for each answer.  `Event` is one such lock-held section, and any number of calls are in flight.

  What a conversation with the gateway comes back with is the event's input (`Grant`): the kind, the
  external address, the lease and the epoch of the answer, and the nonce the request carried.  Times
  are `SystemTime`s, in nanoseconds since the Unix epoch.
-/
import Tailnetd.IpAddr
import Tailnetd.Text
import Tailnetd.Lib.Machine

namespace Tailnetd

namespace Portmap

/-! ## What the client remembers -/

/-- `SystemTime`. -/
abbrev SystemTime := Int

/-- `std::net::SocketAddr`. -/
structure SocketAddr where
  ip : IpAddr
  port : UInt16
  deriving DecidableEq, Repr

inductive MappingKind where
  | pmp | pcp
  deriving DecidableEq, Repr

/-- `Mapping`. -/
structure Mapping where
  kind : MappingKind
  gw : SocketAddr
  internal : SocketAddr
  external : SocketAddr
  renewAfter : SystemTime
  goodUntil : SystemTime
  epoch : UInt32
  nonce : Option (List UInt8)
  deriving DecidableEq, Repr

/-- `UpnpDiscoResponse`. -/
structure UpnpDiscoResponse where
  location : String
  server : String
  usn : String
  deriving DecidableEq, Repr

/-- `State`: what the lock guards. -/
structure State where
  lastGw : Option IpAddr := none
  lastMyIp : Option IpAddr := none
  closed : Bool := false
  runningCreate : Bool := false
  lastProbe : Option SystemTime := none
  pmpPubIp : Option (List Nat) := none
  pmpPubIpTime : Option SystemTime := none
  pmpLastEpoch : UInt32 := 0
  pcpSawTime : Option SystemTime := none
  pcpLastEpoch : UInt32 := 0
  upnpSawTime : Option SystemTime := none
  upnpMetas : List UpnpDiscoResponse := []
  localPort : UInt16 := 0
  mapping : Option Mapping := none
  deriving DecidableEq, Repr

/-- `DebugKnobs`, with the `TS_DISABLE_PORTMAPPER` variable. -/
structure Knobs where
  disableAll : Bool := false
  disableUpnp : Bool := false
  disablePmp : Bool := false
  disablePcp : Bool := false
  disablePortmapper : Option String := none
  deriving DecidableEq, Repr

/-- `disable_all`. -/
def Knobs.disabled (k : Knobs) : Bool :=
  k.disableAll || k.disablePortmapper.any fun v =>
    v == "1" || eqIgnoreAsciiCase v.toList "true".toList

/-- `PXP_PORT`. -/
def pxpPort : UInt16 := 5351

def nanosPerSec : Int := 1000000000

/-- `TRUST_SERVICE_STILL_AVAILABLE`, ten minutes. -/
def trustServiceStillAvailable : Int := 10 * 60 * nanosPerSec

/-- `recent`. -/
def recent (now : SystemTime) (t : Option SystemTime) : Bool :=
  t.any fun t => now - trustServiceStillAvailable < t

/-! ## The sections -/

namespace State

/-- `invalidate_mappings_locked`: the mapping it took, when it is to be released, and the state. -/
def invalidateMappings (st : State) (releaseOld : Bool) : Option Mapping × State :=
  (if releaseOld then st.mapping else none,
    { st with
      mapping := none
      pmpPubIp := none
      pmpPubIpTime := none
      pmpLastEpoch := 0
      pcpSawTime := none
      pcpLastEpoch := 0
      upnpSawTime := none
      upnpMetas := [] })

/-- `set_local_port`. -/
def setLocalPort (st : State) (port : UInt16) : Option Mapping × State :=
  if st.localPort = port then (none, st)
  else { st with localPort := port }.invalidateMappings true

/-- `close`: idempotent. -/
def close (st : State) : Option Mapping × State :=
  if st.closed then (none, st) else { st with closed := true }.invalidateMappings true

/-- `gateway_and_self_ip`, the lookup having answered `found`. -/
def gatewayAndSelfIp (st : State) (found : Option (IpAddr × IpAddr)) : Option Mapping × State :=
  let gw := found.map (·.1)
  let myIp := found.map (·.2)
  if gw ≠ st.lastGw ∨ myIp ≠ st.lastMyIp ∨ found.isNone then
    { st with lastMyIp := myIp, lastGw := gw }.invalidateMappings true
  else (none, st)

/-- `saw_pmp_recently`. -/
def sawPmpRecently (st : State) (now : SystemTime) : Bool :=
  st.pmpPubIp.isSome && recent now st.pmpPubIpTime

/-- `saw_pcp_recently`. -/
def sawPcpRecently (st : State) (now : SystemTime) : Bool := recent now st.pcpSawTime

/-- `maybe_invalidate_pmp_mapping_locked`: an epoch below the mapping's drops it unreleased. -/
def maybeInvalidatePmpMapping (st : State) (epoch : UInt32) : State :=
  if epoch = 0 then st
  else
    match st.mapping with
    | none => st
    | some m =>
      if m.kind ≠ .pmp ∨ m.epoch ≤ epoch then st
      else
        { st with mapping := none, pmpPubIp := none, pmpPubIpTime := none, pmpLastEpoch := 0 }

/-- `maybe_invalidate_pcp_mapping_locked`. -/
def maybeInvalidatePcpMapping (st : State) (epoch : UInt32) : State :=
  if epoch = 0 then st
  else
    match st.mapping with
    | none => st
    | some m =>
      if m.kind ≠ .pcp ∨ m.epoch ≤ epoch then st
      else { st with mapping := none, pcpSawTime := none, pcpLastEpoch := 0 }

/-- The NAT-PMP section of `handle_pxp_response`. -/
def heardPmp (st : State) (publicAddr : Option (List Nat)) (epoch : UInt32) (now : SystemTime) :
    State :=
  { st.maybeInvalidatePmpMapping epoch with
    pmpPubIp := publicAddr
    pmpPubIpTime := some now
    pmpLastEpoch := epoch }

/-- The PCP section of `handle_pxp_response`. -/
def heardPcp (st : State) (epoch : UInt32) (now : SystemTime) : State :=
  { st.maybeInvalidatePcpMapping epoch with pcpSawTime := some now, pcpLastEpoch := epoch }

/-- What a probe records about UPnP. -/
def heardUpnp (st : State) (responses : List UpnpDiscoResponse) (now : SystemTime) : State :=
  { st with upnpSawTime := some now, upnpMetas := responses }

/-- `store_mapping`: the mapping it had to release, and the state. -/
def storeMapping (st : State) (m : Mapping) : Option Mapping × State :=
  if st.closed then (some m, st) else (none, { st with mapping := some m })

end State

/-! ## A call of `create_or_get_mapping` -/

/-- What the snapshot section leaves to ask with. -/
structure Ask where
  gw : IpAddr
  internal : SocketAddr
  prevPort : UInt16
  haveRecentPmp : Bool
  haveRecentPcp : Bool
  knownExternalIp : Option (List Nat)
  deriving DecidableEq, Repr

/-- `Next`. -/
inductive Next where
  /-- The cached mapping is still fresh. -/
  | reuse (external : SocketAddr)
  /-- Straight to UPnP. -/
  | upnp (prevPort : UInt16)
  | ask (a : Ask)
  deriving DecidableEq, Repr

/-- The snapshot section. -/
def snapshot (k : Knobs) (st : State) (gw myIp : IpAddr) (now : SystemTime) : Next :=
  let fresh := st.mapping.filter fun m => now < m.renewAfter
  match fresh with
  | some m => .reuse m.external
  | none =>
    let prevPort := (st.mapping.map fun m => m.external.port).getD 0
    if k.disablePcp && k.disablePmp then .upnp prevPort
    else
      let haveRecentPmp := st.sawPmpRecently now
      let haveRecentPcp := st.sawPcpRecently now
      -- a probe that ended less than five seconds ago
      let probedJustNow := st.lastProbe.any fun t => t ≤ now && now - t < 5 * nanosPerSec
      if probedJustNow && !haveRecentPmp && !haveRecentPcp then .upnp prevPort
      else
        .ask
          { gw := gw
            internal := ⟨myIp, st.localPort⟩
            prevPort := prevPort
            haveRecentPmp := haveRecentPmp
            haveRecentPcp := haveRecentPcp
            knownExternalIp := if haveRecentPmp then st.pmpPubIp else none }

/-- What the gateway granted, as the conversation read it. -/
structure Grant where
  kind : MappingKind
  external : SocketAddr
  renewAfter : SystemTime
  goodUntil : SystemTime
  epoch : UInt32
  nonce : Option (List UInt8)
  deriving DecidableEq, Repr

/-- The mapping a conversation obtained. -/
def Ask.mapping (a : Ask) (g : Grant) : Mapping where
  kind := g.kind
  gw := ⟨a.gw, pxpPort⟩
  internal := a.internal
  external := g.external
  renewAfter := g.renewAfter
  goodUntil := g.goodUntil
  epoch := g.epoch
  nonce := g.nonce

/-- How far a call has come. -/
inductive Phase where
  | called
  /-- Past the entry check. -/
  | entered
  /-- The gateway and this host's address for it. -/
  | located (gw myIp : IpAddr)
  | asking (a : Ask)
  | ended
  deriving DecidableEq, Repr

/-- A call in flight, from a caller or from `maybe_start_mapping`. -/
structure Attempt where
  background : Bool
  phase : Phase
  deriving DecidableEq, Repr

/-- The client: its state, the calls in flight, and the mappings given to `release_mapping`, newest
    first. -/
structure Client where
  knobs : Knobs
  state : State := {}
  attempts : List Attempt := []
  released : List Mapping := []
  deriving DecidableEq, Repr

/-- One lock-held section. -/
inductive Event where
  | setLocalPort (port : UInt16)
  | noteNetworkDown
  /-- The lookup of a probe. -/
  | gatewayAndSelfIp (found : Option (IpAddr × IpAddr))
  | close
  | heardPmp (publicAddr : Option (List Nat)) (epoch : UInt32) (now : SystemTime)
  | heardPcp (epoch : UInt32) (now : SystemTime)
  | heardUpnp (responses : List UpnpDiscoResponse) (now : SystemTime)
  /-- A probe ran to its end. -/
  | probed (now : SystemTime)
  /-- A caller calls `create_or_get_mapping`. -/
  | call
  /-- `maybe_start_mapping`. -/
  | maybeStartMapping
  /-- The entry check of the call at this position. -/
  | enter (i : Nat)
  /-- Its gateway lookup. -/
  | locate (i : Nat) (found : Option (IpAddr × IpAddr))
  | snapshot (i : Nat) (now : SystemTime)
  | storeMapping (i : Nat) (g : Grant)
  /-- It returns: after its last section, or with an error before. -/
  | returned (i : Nat)

namespace Client

/-- A section that changed the state and may owe a release. -/
def settle (c : Client) (result : Option Mapping × State) : Client :=
  { c with state := result.2, released := result.1.toList ++ c.released }

/-- The call at a position moves on. -/
def advance (c : Client) (i : Nat) (a : Attempt) (phase : Phase) : Client :=
  { c with attempts := c.attempts.set i { a with phase := phase } }

/-- One event. -/
def step (c : Client) : Event → Option Client
  | .setLocalPort port => some (c.settle (c.state.setLocalPort port))
  | .noteNetworkDown => some (c.settle (c.state.invalidateMappings false))
  | .gatewayAndSelfIp found => some (c.settle (c.state.gatewayAndSelfIp found))
  | .close => some (c.settle c.state.close)
  | .heardPmp publicAddr epoch now => some { c with state := c.state.heardPmp publicAddr epoch now }
  | .heardPcp epoch now => some { c with state := c.state.heardPcp epoch now }
  | .heardUpnp responses now => some { c with state := c.state.heardUpnp responses now }
  | .probed now => some { c with state := { c.state with lastProbe := some now } }
  | .call => some { c with attempts := c.attempts ++ [⟨false, .called⟩] }
  | .maybeStartMapping =>
    if c.state.closed || c.state.runningCreate then some c
    else
      some { c with
        state := { c.state with runningCreate := true }
        attempts := c.attempts ++ [⟨true, .called⟩] }
  | .enter i =>
    match c.attempts[i]? with
    | some a =>
      if a.phase ≠ .called then none
      else if c.state.closed || c.knobs.disabled ||
          (c.knobs.disableUpnp && c.knobs.disablePcp && c.knobs.disablePmp) then
        some (c.advance i a .ended)
      else some (c.advance i a .entered)
    | none => none
  | .locate i found =>
    match c.attempts[i]? with
    | some a =>
      if a.phase ≠ .entered then none
      else
        let c := c.settle (c.state.gatewayAndSelfIp found)
        match found with
        | some (.v4 gw, myIp) => some (c.advance i a (.located (.v4 gw) myIp))
        -- no gateway, or one that speaks IPv6 only
        | _ => some (c.advance i a .ended)
    | none => none
  | .snapshot i now =>
    match c.attempts[i]? with
    | some a =>
      match a.phase with
      | .located gw myIp =>
        match Portmap.snapshot c.knobs c.state gw myIp now with
        | .ask ask => some (c.advance i a (.asking ask))
        | _ => some (c.advance i a .ended)
      | _ => none
    | none => none
  | .storeMapping i g =>
    match c.attempts[i]? with
    | some a =>
      match a.phase with
      | .asking ask =>
        some ((c.settle (c.state.storeMapping (ask.mapping g))).advance i a .ended)
      | _ => none
    | none => none
  | .returned i =>
    match c.attempts[i]? with
    | some a =>
      some { c with
        state := if a.background then { c.state with runningCreate := false } else c.state
        attempts := c.attempts.eraseIdx i }
    | none => none

/-! ### What each section finds and leaves -/

/-- The sections, with what each finds and leaves. -/
inductive Does (c : Client) : Event → Client → Prop
  | setLocalPort (port : UInt16) :
      Does c (.setLocalPort port) (c.settle (c.state.setLocalPort port))
  | noteNetworkDown : Does c .noteNetworkDown (c.settle (c.state.invalidateMappings false))
  | gatewayAndSelfIp (found : Option (IpAddr × IpAddr)) :
      Does c (.gatewayAndSelfIp found) (c.settle (c.state.gatewayAndSelfIp found))
  | close : Does c .close (c.settle c.state.close)
  | heardPmp (publicAddr : Option (List Nat)) (epoch : UInt32) (now : SystemTime) :
      Does c (.heardPmp publicAddr epoch now)
        { c with state := c.state.heardPmp publicAddr epoch now }
  | heardPcp (epoch : UInt32) (now : SystemTime) :
      Does c (.heardPcp epoch now) { c with state := c.state.heardPcp epoch now }
  | heardUpnp (responses : List UpnpDiscoResponse) (now : SystemTime) :
      Does c (.heardUpnp responses now) { c with state := c.state.heardUpnp responses now }
  | probed (now : SystemTime) :
      Does c (.probed now) { c with state := { c.state with lastProbe := some now } }
  | call : Does c .call { c with attempts := c.attempts ++ [⟨false, .called⟩] }
  | unstarted : Does c .maybeStartMapping c
  | started : Does c .maybeStartMapping
      { c with
        state := { c.state with runningCreate := true }
        attempts := c.attempts ++ [⟨true, .called⟩] }
  | refused {i : Nat} {a : Attempt} : Does c (.enter i) (c.advance i a .ended)
  | entered {i : Nat} {a : Attempt} : Does c (.enter i) (c.advance i a .entered)
  | located {i : Nat} {a : Attempt} (gw : List Nat) (myIp : IpAddr) :
      Does c (.locate i (some (.v4 gw, myIp)))
        ((c.settle (c.state.gatewayAndSelfIp (some (.v4 gw, myIp)))).advance i a
          (.located (.v4 gw) myIp))
  | unlocated {i : Nat} {a : Attempt} (found : Option (IpAddr × IpAddr)) :
      Does c (.locate i found)
        ((c.settle (c.state.gatewayAndSelfIp found)).advance i a .ended)
  | asked {i : Nat} {now : SystemTime} {a : Attempt} {gw myIp : IpAddr} {ask : Ask}
      (hask : Portmap.snapshot c.knobs c.state gw myIp now = .ask ask) :
      Does c (.snapshot i now) (c.advance i a (.asking ask))
  | unasked {i : Nat} {now : SystemTime} {a : Attempt} :
      Does c (.snapshot i now) (c.advance i a .ended)
  | stored {i : Nat} {g : Grant} {a : Attempt} {ask : Ask} (hattempt : c.attempts[i]? = some a)
      (hphase : a.phase = .asking ask) :
      Does c (.storeMapping i g)
        ((c.settle (c.state.storeMapping (ask.mapping g))).advance i a .ended)
  | returned {i : Nat} {a : Attempt} :
      Does c (.returned i)
        { c with
          state := if a.background then { c.state with runningCreate := false } else c.state
          attempts := c.attempts.eraseIdx i }

/-- **The inversion of a step.** -/
theorem step_does {c c' : Client} {e : Event} (h : c.step e = some c') : c.Does e c' := by
  cases e with
  | setLocalPort port =>
    cases h
    exact .setLocalPort port
  | noteNetworkDown =>
    cases h
    exact .noteNetworkDown
  | gatewayAndSelfIp found =>
    cases h
    exact .gatewayAndSelfIp found
  | close =>
    cases h
    exact .close
  | heardPmp publicAddr epoch now =>
    cases h
    exact .heardPmp publicAddr epoch now
  | heardPcp epoch now =>
    cases h
    exact .heardPcp epoch now
  | heardUpnp responses now =>
    cases h
    exact .heardUpnp responses now
  | probed now =>
    cases h
    exact .probed now
  | call =>
    cases h
    exact .call
  | maybeStartMapping =>
    dsimp only [step] at h
    split at h
    · cases h
      exact .unstarted
    · cases h
      exact .started
  | enter i =>
    dsimp only [step] at h
    split at h
    · split at h
      · cases h
      · split at h
        · cases h
          exact .refused
        · cases h
          exact .entered
    · cases h
  | locate i found =>
    dsimp only [step] at h
    split at h
    · split at h
      · cases h
      · split at h
        · cases h
          exact .located _ _
        · cases h
          exact .unlocated _
    · cases h
  | snapshot i now =>
    dsimp only [step] at h
    split at h
    · split at h
      · split at h
        · rename_i hask
          cases h
          exact .asked hask
        · cases h
          exact .unasked
      · cases h
    · cases h
  | storeMapping i g =>
    dsimp only [step] at h
    split at h
    · rename_i a hattempt
      split at h
      · rename_i ask hphase
        cases h
        exact .stored hattempt hphase
      · cases h
    · cases h
  | returned i =>
    dsimp only [step] at h
    split at h
    · cases h
      exact .returned
    · cases h

end Client

end Portmap

end Tailnetd
