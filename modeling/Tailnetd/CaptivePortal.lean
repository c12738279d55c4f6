/-
  Captive-portal detection (`ipn/captive.rs`, `captive_portal_loop` in `ipn/mod.rs`).

  1. **Program** — a pass asks the five best endpoints at once and takes the first answer that
     looks tampered with (`detect`).  The loop that runs the passes looks at the backend every
     second, asks the episode timer whether a pass is due, drops the lock for the pass, and looks
     again before it writes the verdict down (`PortalLoop.step`); in between, the daemon does
     whatever it does.

  2. **Specification** — a pass finds a portal exactly if one of the endpoints it asks was answered
     otherwise than the endpoint promised (`detect_iff`), in whatever order the answers arrive.
     The warning stands exactly if the last verdict found one on an impacted node and every look
     since has found the node impacted (`captive_warning_stands_iff`), and every verdict comes from
     a pass that was due.

  3. **The crux** — what the looks have met is a history (`Glance`).  The timer is what the calls of
     this history leave it as, the flag is what its last entries say, and a pass in flight is a last
     look whose call was due (`Keeps`); no event of the daemon touches any of the three.
-/
import Tailnetd.Boot
import Tailnetd.EpisodeTimer
import Tailnetd.HostNetwork
import Tailnetd.Lib.Extremes
import Mathlib.Data.List.Sort
import Mathlib.Data.Prod.Lex
import Mathlib.Order.BooleanAlgebra.Basic

namespace Tailnetd.Captive

open HostNetwork Machine

/-! ## Endpoints -/

/-- What `url` does for the prober. -/
structure UrlCrate (U : Type) where
  parse : String → Option U
  hostStr : U → Option String
  /-- The port, unless it is the scheme's own. -/
  port : U → Option UInt16
  /-- `query_pairs_mut().append_pair(..)`. -/
  appendPair : U → String → String → U

/-- `EndpointProvider`, best first. -/
inductive EndpointProvider where
  | derpMapPreferred | derpMapOther | tailscale
  deriving DecidableEq, Repr

/-- The place in the order of preference. -/
def EndpointProvider.rank : EndpointProvider → Nat
  | derpMapPreferred => 0
  | derpMapOther => 1
  | tailscale => 2

/-- `Endpoint`. -/
structure Endpoint (U : Type) where
  url : U
  statusCode : UInt16
  expectedContent : String
  supportsTailscaleChallenge : Bool
  provider : EndpointProvider

variable {U : Type} (C : UrlCrate U)

namespace Endpoint

variable (e : Endpoint U)

/-- `host`. -/
def host : String :=
  let host := (C.hostStr e.url).getD ""
  match C.port e.url with
  | some port => host ++ ":" ++ toString port.toNat
  | none => host

/-- `challenge`. -/
def challenge : String := "ts_" ++ e.host C

/-- `expected_response`. -/
def expectedResponse : String := "response ts_" ++ e.host C

end Endpoint

/-- `[T]::windows`. -/
def windows (size : Nat) (row : List UInt8) : List (List UInt8) :=
  (List.range (row.length + 1 - size)).map fun start => (row.drop start).take size

/-- `contains_subslice`. -/
def containsSubslice (haystack needle : List UInt8) : Bool :=
  if needle.isEmpty then true else (windows needle.length haystack).any (· == needle)

/-- `response_looks_like_captive`. -/
def Endpoint.responseLooksLikeCaptive (e : Endpoint U) (status : UInt16)
    (tailscaleResponse : Option String) (body : Option (List UInt8)) : Bool :=
  if status ≠ e.statusCode then true
  else if e.supportsTailscaleChallenge ∧ tailscaleResponse ≠ some (e.expectedResponse C) then true
  else if e.expectedContent = "" then false
  else
    match body with
    | none => false
    | some body => !containsSubslice body e.expectedContent.toByteArray.data.toList

/-- `DerpNode`. -/
structure DerpNode where
  ipv4 : String
  canPort80 : Bool

/-- `DerpRegion`. -/
structure DerpRegion where
  regionId : UInt32
  avoid : Bool
  noMeasureNoHome : Bool
  nodes : List DerpNode

/-- The endpoint of a DERP node. -/
def derpEndpoint (preferredRegionId : Option UInt32) (region : DerpRegion) (node : DerpNode) :
    Option (Endpoint U) :=
  if node.ipv4 = "" ∨ !node.canPort80 then none
  else
    (C.parse ("http://" ++ node.ipv4 ++ "/generate_204")).map fun url =>
      { url
        statusCode := 204
        expectedContent := ""
        supportsTailscaleChallenge := true
        provider :=
          if some region.regionId = preferredRegionId then .derpMapPreferred else .derpMapOther }

/-- The endpoint of one of Tailscale's own hosts. -/
def tailscaleEndpoint (host : String) : Option (Endpoint U) :=
  (C.parse ("http://" ++ host ++ "/generate_204")).map fun url =>
    { url
      statusCode := 204
      expectedContent := ""
      supportsTailscaleChallenge := false
      provider := .tailscale }

/-- The order that `sort_by_key` sorts by; it keeps the order of endpoints of one provider. -/
def Endpoint.before (a b : Endpoint U) : Prop := a.provider.rank ≤ b.provider.rank

instance : DecidableRel (Endpoint.before (U := U)) := fun a b => by
  unfold Endpoint.before
  infer_instance

instance : Std.Total (Endpoint.before (U := U)) := ⟨fun _ _ => Nat.le_total _ _⟩

instance : IsTrans (Endpoint U) Endpoint.before := ⟨fun _ _ _ => Nat.le_trans⟩

/-- `available_endpoints`. -/
def availableEndpoints (regions : List DerpRegion) (preferredRegionId : Option UInt32) :
    List (Endpoint U) :=
  let derp := regions.flatMap fun region =>
    if region.avoid || region.noMeasureNoHome then []
    else region.nodes.filterMap (derpEndpoint C preferredRegionId region)
  let tailscale :=
    ["controlplane.tailscale.com", "login.tailscale.com"].filterMap (tailscaleEndpoint C)
  (derp ++ tailscale).insertionSort Endpoint.before

/-! ## One pass -/

/-- `char::to_lowercase`, as far as ASCII comes of it: of the ASCII capitals, the dotted capital I
    and the Kelvin sign.  Any other character stays, where the library gives one that is not ASCII
    either. -/
def charToLowercase (c : Char) : List Char :=
  if c = Char.ofNat 0x130 then ['i', Char.ofNat 0x307]
  else if c = Char.ofNat 0x212a then ['k']
  else [toAsciiLower c]

/-- `str::to_lowercase`, as far as a comparison with ASCII texts can tell. -/
def toLowercase (s : String) : String := String.ofList (s.toList.flatMap charToLowercase)

/-- `interface_name_does_not_need_captive_detection`. -/
def interfaceNameDoesNotNeedCaptiveDetection (name goos : String) : Bool :=
  let name := toLowercase name
  let base := ["tailscale", "tun", "tap", "docker", "kube", "wg", "ipsec"]
  let extra :=
    if goos = "windows" then ["loopback", "tunnel", "ppp", "isatap", "teredo", "6to4"]
    else if goos = "darwin" ∨ goos = "ios" then
      ["pdp", "awdl", "bridge", "ap", "utun", "tap", "llw", "anpi", "lo", "stf", "gif", "xhc",
        "pktap"]
    else if goos = "android" then ["rmnet", "p2p", "dummy", "sit"]
    else []
  (base ++ extra).any fun pre => startsWith pre name

/-- `goos`. -/
def goos (os : String) : String := if os = "macos" then "darwin" else os

/-- `detection_interfaces`, as the rows that are kept. -/
def detectionInterfaces (ifaces : List (String × IpAddr)) (goos : String) : Finset String :=
  ((ifaces.filter fun (name, addr) =>
    !isLoopback addr && !interfaceNameDoesNotNeedCaptiveDetection name goos).map
      Prod.fst).toFinset

/-- `host_detection_interfaces`. -/
def hostDetectionInterfaces (os : String) (ifaces : Except String (List (String × IpAddr))) :
    Finset String :=
  match ifaces with
  | .ok ifaces => detectionInterfaces ifaces (goos os)
  | .error _ => ∅

/-- `ProbeRequest`. -/
structure ProbeRequest (U : Type) where
  url : U
  challenge : Option String
  wantsBody : Bool

/-- `ProbeResponse`. -/
structure ProbeResponse where
  status : UInt16
  tailscaleResponse : Option String
  body : Option (List UInt8)
  deriving DecidableEq

/-- The request that `probe_endpoint_with` makes. -/
def probeRequest (nowUnix : UInt64) (e : Endpoint U) : ProbeRequest U where
  url := C.appendPair e.url "t" (toString nowUnix.toNat)
  challenge := if e.supportsTailscaleChallenge then some (e.challenge C) else none
  wantsBody := e.expectedContent ≠ ""

/-- `probe_endpoint_with`. -/
def probeEndpointWith (nowUnix : UInt64) (transport : ProbeRequest U → Except String ProbeResponse)
    (e : Endpoint U) : Except String Bool := do
  let response ← transport (probeRequest C nowUnix e)
  return e.responseLooksLikeCaptive C response.status response.tailscaleResponse response.body

/-- The loop of `detect` over what `join_next` hands it; `none` is a thread that panicked. -/
def joinNext : List (Option (Except String Bool)) → Bool
  | [] => false
  | some (.ok true) :: _ => true
  | some (.ok false) :: rest => joinNext rest
  | some (.error _) :: rest => joinNext rest
  | none :: rest => joinNext rest

/-- `MAX_ENDPOINTS_PER_PASS`. -/
def maxEndpointsPerPass : Nat := 5

/-- The endpoints that a pass asks. -/
def passEndpoints (regions : List DerpRegion) (preferredRegionId : Option UInt32) :
    List (Endpoint U) :=
  (availableEndpoints C regions preferredRegionId).take maxEndpointsPerPass

/-- What one pass meets: the interfaces, the clock, what each of its threads is answered, which of
    them panic, and in which order they come back. -/
structure Pass (U : Type) where
  ifaces : Except String (List (String × IpAddr))
  nowUnix : UInt64
  transport : Nat → ProbeRequest U → Except String ProbeResponse
  panics : Nat → Bool
  arrives : List (Option (Except String Bool)) → List (Option (Except String Bool))
  arrives_perm : ∀ outcomes, (arrives outcomes).Perm outcomes

/-- What a thread comes back with. -/
def Pass.outcome (pass : Pass U) (thread : Nat) (e : Endpoint U) : Option (Except String Bool) :=
  if pass.panics thread then none
  else some (probeEndpointWith C pass.nowUnix (pass.transport thread) e)

/-- `detect`. -/
def detect (os : String) (pass : Pass U) (regions : List DerpRegion)
    (preferredRegionId : Option UInt32) : Bool :=
  if hostDetectionInterfaces os pass.ifaces = ∅ then false
  else
    let endpoints := passEndpoints C regions preferredRegionId
    if endpoints.isEmpty then false
    else joinNext (pass.arrives (endpoints.mapIdx (pass.outcome C)))

/-! ### What it amounts to -/

/-- An answer that is not the one the endpoint promised: another status, no echo of the challenge,
    or a body without the marker. -/
def Tampered (e : Endpoint U) (response : ProbeResponse) : Prop :=
  response.status ≠ e.statusCode ∨
    (e.supportsTailscaleChallenge = true ∧
      response.tailscaleResponse ≠ some (e.expectedResponse C)) ∨
    (e.expectedContent ≠ "" ∧
      ∃ body, response.body = some body ∧ ¬ e.expectedContent.toByteArray.data.toList <:+: body)

/-- The windows of a row are what stands in it. -/
theorem containsSubslice_iff {haystack needle : List UInt8} :
    containsSubslice haystack needle = true ↔ needle <:+: haystack := by
  unfold containsSubslice
  split
  · rename_i hempty
    rw [List.isEmpty_iff] at hempty
    exact iff_of_true rfl (hempty ▸ List.nil_infix)
  · rename_i hne
    rw [List.any_eq_true]
    constructor
    · rintro ⟨window, hwindow, heq⟩
      obtain ⟨start, -, rfl⟩ := List.mem_map.mp hwindow
      rw [← eq_of_beq heq]
      exact (List.take_prefix _ _).isInfix.trans (List.drop_suffix _ _).isInfix
    · rintro ⟨before, after, rfl⟩
      refine ⟨needle, List.mem_map.mpr ⟨before.length, ?_, ?_⟩, beq_self_eq_true _⟩
      · rw [List.mem_range, List.length_append, List.length_append]
        omega
      · rw [List.append_assoc, List.drop_left, List.take_left]

variable {C}

/-- The check answers for the whole promise. -/
theorem responseLooksLikeCaptive_iff {e : Endpoint U} {response : ProbeResponse} :
    e.responseLooksLikeCaptive C response.status response.tailscaleResponse response.body = true ↔
      Tampered C e response := by
  unfold Endpoint.responseLooksLikeCaptive Tampered
  split
  · rename_i hstatus
    exact iff_of_true rfl (.inl hstatus)
  · rename_i hstatus
    rw [iff_false_intro hstatus, false_or]
    split
    · rename_i hecho
      exact iff_of_true rfl (.inl hecho)
    · rename_i hecho
      rw [iff_false_intro hecho, false_or]
      split
      · rename_i hcontent
        exact iff_of_false Bool.false_ne_true fun h => h.1 hcontent
      · rename_i hcontent
        rw [iff_true_intro (show e.expectedContent ≠ "" from hcontent), true_and]
        cases response.body with
        | none => exact iff_of_false Bool.false_ne_true fun ⟨_, h, _⟩ => (by cases h)
        | some body => simp [← containsSubslice_iff]

/-- A thread finds a portal where it got such an answer. -/
theorem outcome_eq_found_iff {pass : Pass U} {thread : Nat} {e : Endpoint U} :
    pass.outcome C thread e = some (.ok true) ↔
      pass.panics thread = false ∧ ∃ response,
        pass.transport thread (probeRequest C pass.nowUnix e) = .ok response ∧
          Tampered C e response := by
  unfold Pass.outcome probeEndpointWith
  cases hpanics : pass.panics thread with
  | true => simp
  | false =>
    cases hanswer : pass.transport thread (probeRequest C pass.nowUnix e) with
    | error err => exact iff_of_false (nomatch ·) fun ⟨_, _, h, _⟩ => (by cases h)
    | ok response =>
      rw [iff_true_intro (rfl : false = false), true_and, if_neg Bool.false_ne_true]
      constructor
      · intro h
        refine ⟨response, rfl, responseLooksLikeCaptive_iff.mp ?_⟩
        exact Except.ok.inj (Option.some.inj h)
      · rintro ⟨_, hresponse, htampered⟩
        cases hresponse
        exact congrArg (fun found => some (Except.ok found))
          (responseLooksLikeCaptive_iff.mpr htampered)

/-- The loop over the threads finds what there is to find. -/
theorem joinNext_iff {arrived : List (Option (Except String Bool))} :
    joinNext arrived = true ↔ some (.ok true) ∈ arrived := by
  induction arrived with
  | nil => simp [joinNext]
  | cons outcome rest ih =>
    match outcome with
    | none => simp [joinNext, ih]
    | some (.error _) => simp [joinNext, ih]
    | some (.ok false) => simp [joinNext, ih]
    | some (.ok true) => simp [joinNext]

/-- An endpoint that can be asked. -/
inductive Offered (C : UrlCrate U) (regions : List DerpRegion) (preferredRegionId : Option UInt32) :
    Endpoint U → Prop
  /-- A DERP node of a region that may be measured, under its address. -/
  | derp {region : DerpRegion} {node : DerpNode} {url : U} (hregion : region ∈ regions)
      (havoid : region.avoid = false) (hmeasure : region.noMeasureNoHome = false)
      (hnode : node ∈ region.nodes) (hipv4 : node.ipv4 ≠ "") (hport : node.canPort80 = true)
      (hurl : C.parse ("http://" ++ node.ipv4 ++ "/generate_204") = some url) :
      Offered C regions preferredRegionId ⟨url, 204, "", true,
        if some region.regionId = preferredRegionId then .derpMapPreferred else .derpMapOther⟩
  /-- One of the two hosts that are always asked. -/
  | tailscale {host : String} {url : U}
      (hhost : host = "controlplane.tailscale.com" ∨ host = "login.tailscale.com")
      (hurl : C.parse ("http://" ++ host ++ "/generate_204") = some url) :
      Offered C regions preferredRegionId ⟨url, 204, "", false, .tailscale⟩

theorem mem_availableEndpoints_iff {regions : List DerpRegion} {preferredRegionId : Option UInt32}
    {e : Endpoint U} :
    e ∈ availableEndpoints C regions preferredRegionId ↔
      Offered C regions preferredRegionId e := by
  unfold availableEndpoints
  rw [List.mem_insertionSort, List.mem_append, List.mem_flatMap, List.mem_filterMap]
  constructor
  · rintro (⟨region, hregion, he⟩ | ⟨host, hhost, he⟩)
    · split at he
      · cases he
      · rename_i hallowed
        obtain ⟨node, hnode, hmade⟩ := List.mem_filterMap.mp he
        unfold derpEndpoint at hmade
        split at hmade
        · cases hmade
        · rename_i hfit
          obtain ⟨url, hurl, rfl⟩ := Option.map_eq_some_iff.mp hmade
          simp only [Bool.or_eq_true, not_or, Bool.not_eq_true, Bool.not_eq_false'] at hallowed hfit
          exact .derp hregion hallowed.1 hallowed.2 hnode hfit.1 (by simpa using hfit.2) hurl
    · obtain ⟨url, hurl, rfl⟩ := Option.map_eq_some_iff.mp he
      exact .tailscale (by simpa using hhost) hurl
  · intro h
    cases h with
    | derp hregion havoid hmeasure hnode hipv4 hport hurl =>
      refine .inl ⟨_, hregion, ?_⟩
      rw [havoid, hmeasure, Bool.or_self, if_neg Bool.false_ne_true]
      refine List.mem_filterMap.mpr ⟨_, hnode, ?_⟩
      unfold derpEndpoint
      rw [if_neg (by simp [hipv4, hport]), hurl]
      rfl
    | tailscale hhost hurl =>
      refine .inr ⟨_, by simpa using hhost, ?_⟩
      unfold tailscaleEndpoint
      rw [hurl]
      rfl

/-- Some thread of the pass finds a portal. -/
theorem joinNext_arrives_iff {pass : Pass U} {endpoints : List (Endpoint U)} :
    joinNext (pass.arrives (endpoints.mapIdx (pass.outcome C))) = true ↔
      ∃ (thread : Nat) (e : Endpoint U), endpoints[thread]? = some e ∧
        pass.outcome C thread e = some (.ok true) := by
  rw [joinNext_iff, (pass.arrives_perm _).mem_iff, List.mem_mapIdx]
  constructor
  · rintro ⟨thread, hlt, hfound⟩
    exact ⟨thread, endpoints[thread], List.getElem?_eq_getElem hlt, hfound⟩
  · rintro ⟨thread, e, hthread, hfound⟩
    obtain ⟨hlt, rfl⟩ := List.getElem?_eq_some_iff.mp hthread
    exact ⟨thread, hlt, hfound⟩

/-- The endpoints that are asked come before those that are not. -/
theorem rank_le_of_asked {regions : List DerpRegion} {preferredRegionId : Option UInt32}
    {asked rest : List (Endpoint U)}
    (h : availableEndpoints C regions preferredRegionId = asked ++ rest) {a b : Endpoint U}
    (ha : a ∈ asked) (hb : b ∈ rest) : a.provider.rank ≤ b.provider.rank := by
  have hsorted : (availableEndpoints C regions preferredRegionId).Pairwise Endpoint.before :=
    List.pairwise_insertionSort _ _
  rw [h, List.pairwise_append] at hsorted
  exact hsorted.2.2 a ha b hb

/-- **What a pass finds**: with an interface to go out by, whether one of the five best endpoints
    was answered otherwise than it promised; the order of the answers plays no part, and a request
    that failed or a thread that died says nothing. -/
theorem detect_iff {os : String} {pass : Pass U}
    {regions : List DerpRegion} {preferredRegionId : Option UInt32} :
    detect C os pass regions preferredRegionId = true ↔
      hostDetectionInterfaces os pass.ifaces ≠ ∅ ∧
        ∃ asked rest thread e response,
          availableEndpoints C regions preferredRegionId = asked ++ rest ∧
          asked.length = min 5 (availableEndpoints C regions preferredRegionId).length ∧
          (∀ a ∈ asked, ∀ b ∈ rest, a.provider.rank ≤ b.provider.rank) ∧
          asked[thread]? = some e ∧ Offered C regions preferredRegionId e ∧
          pass.panics thread = false ∧
          pass.transport thread (probeRequest C pass.nowUnix e) = .ok response ∧
          Tampered C e response := by
  unfold detect
  split
  · rename_i hnone
    exact iff_of_false Bool.false_ne_true fun h => h.1 hnone
  · rename_i hnone
    have hifaces : hostDetectionInterfaces os pass.ifaces ≠ ∅ := hnone
    rw [iff_true_intro hifaces, true_and]
    have hsplit : availableEndpoints C regions preferredRegionId =
        passEndpoints C regions preferredRegionId ++
          (availableEndpoints C regions preferredRegionId).drop 5 :=
      (List.take_append_drop 5 _).symm
    dsimp only
    constructor
    · intro h
      split at h
      · cases h
      · obtain ⟨thread, e, hthread, hfound⟩ := joinNext_arrives_iff.mp h
        obtain ⟨hpanics, response, hanswer, htampered⟩ := outcome_eq_found_iff.mp hfound
        have hoffered : e ∈ availableEndpoints C regions preferredRegionId := by
          rw [hsplit]
          exact List.mem_append_left _ (List.mem_of_getElem? hthread)
        exact ⟨_, _, thread, e, response, hsplit, List.length_take,
          fun a ha b hb => rank_le_of_asked hsplit ha hb, hthread,
          mem_availableEndpoints_iff.mp hoffered, hpanics, hanswer, htampered⟩
    · rintro ⟨asked, rest, thread, e, response, havailable, hlength, -, hthread, -, hpanics,
        hanswer, htampered⟩
      have hasked : passEndpoints C regions preferredRegionId = asked := by
        rw [hsplit] at havailable
        refine (List.append_inj havailable ?_).1
        rw [hlength]
        exact List.length_take
      rw [hasked, if_neg fun hempty => ?_]
      · exact joinNext_arrives_iff.mpr
          ⟨thread, e, hthread, outcome_eq_found_iff.mpr ⟨hpanics, response, hanswer, htampered⟩⟩
      · rw [List.isEmpty_iff.mp hempty] at hthread
        cases hthread

/-! ## Whether the node is impacted -/

/-- `ConnectivityHealth`. -/
structure ConnectivityHealth where
  anyInterfaceUp : Option Bool
  derpHome : Option Bool
  ipForwarding : Option Bool

/-- `ConnectivityHealth::UNKNOWN`. -/
def ConnectivityHealth.unknown : ConnectivityHealth := ⟨none, none, none⟩

/-- What `min_by_key` compares. -/
def priority (w : ConnectivityWarnable) : Bool ×ₗ Nat := toLex (w.isSteady, w.timeToVisible)

/-- `connectivity_impacted_from`. -/
def connectivityImpactedFrom (state : State) (health : ConnectivityHealth) :
    Option ConnectivityWarnable :=
  if state ≠ .running then none
  else
    let rows : List (ConnectivityWarnable × Option Bool) :=
      [(.networkStatus, health.anyInterfaceUp), (.noDerpHome, health.derpHome),
        (.ipForwardingOff, health.ipForwarding)]
    Extremes.minByKey priority
      ((rows.filter fun (_, healthy) => healthy == some false).map Prod.fst)

/-- What one look at the signals reads: two enumerations, whether the net report names a relay
    (`none` when it failed or came too late), and the kernel's flags. -/
structure Signals where
  interfaces : Except String (List InterfaceAddr)
  netcheck : Option Bool
  interfaceIps : Except String (List (String × IpAddr))
  procfs : ProcFs

/-- `cfg!(any(target_os = "macos", target_os = "ios"))`. -/
def isDarwin (os : String) : Bool := os == "macos" || os == "ios"

/-- Which `ip_forwarding_broken_os` is compiled in. -/
def targetOs (os : String) : TargetOs :=
  if os = "linux" then .linux
  else if os ∈ ["dragonfly", "freebsd", "netbsd", "openbsd"] then .bsd
  else .other

variable (H : Host)

/-- `any_interface_up`. -/
def anyInterfaceUp (signals : Signals) : Option Bool :=
  match signals.interfaces with
  | .ok addrs => some (anyInterfaceUpFrom (isDarwin H.os) addrs)
  | .error _ => none

/-- `Backend::ip_forwarding_broken`. -/
def ipForwardingBroken (b : Backend) (signals : Signals) : Bool :=
  let routes :=
    match calcAdvertiseRoutes H b.prefs.advertiseRoutes b.prefs.advertiseExitNode with
    | .ok routes => routes
    | .error _ => []
  HostNetwork.ipForwardingBroken (targetOs H.os) signals.procfs b.prefs.tunEnabled routes
    signals.interfaceIps

/-- `connectivity_impacted`. -/
def connectivityImpacted (b : Backend) (signals : Signals) : Option ConnectivityWarnable :=
  if !b.prefs.wantRunning then none
  else
    let state :=
      match b.device with
      | some dev => stateFromDevice dev.state
      | none => b.deriveState
    let health : ConnectivityHealth :=
      match state, b.device with
      | .running, some _ =>
        ⟨anyInterfaceUp H signals, signals.netcheck, some (!ipForwardingBroken H b signals)⟩
      | _, _ => .unknown
    connectivityImpactedFrom state health

/-- `should_run_captive_portal_detection`. -/
def shouldRunCaptivePortalDetection (b : Backend) : Bool := b.prefs.wantRunning

/-- The gate that the loop reads, twice in every pass. -/
def impacted (b : Backend) (signals : Signals) : Option ConnectivityWarnable :=
  if shouldRunCaptivePortalDetection b then connectivityImpacted H b signals else none

/-- A signal that says the connectivity is impacted. -/
def Unhealthy (b : Backend) (signals : Signals) : ConnectivityWarnable → Prop
  | .networkStatus => ∃ addrs, signals.interfaces = .ok addrs ∧
      anyInterfaceUpFrom (isDarwin H.os) addrs = false
  | .noDerpHome => signals.netcheck = some false
  | .ipForwardingOff => ipForwardingBroken H b signals = true

/-- A node that is meant to run, whose engine runs, and that a signal says is impacted; of several
    warnables a transient one counts before the steady one, and then the one that shows first. -/
structure Impaired (b : Backend) (signals : Signals) (w : ConnectivityWarnable) : Prop where
  wanted : b.prefs.wantRunning = true
  running : b.engineState = some .running
  unhealthy : Unhealthy H b signals w
  first : ∀ w', Unhealthy H b signals w' → priority w ≤ priority w'

theorem priority_injective : priority.Injective := by
  intro w w' h
  cases w <;> cases w' <;> first | rfl | exact absurd h (by decide)

variable {H} {b : Backend} {signals : Signals}

/-- The rows of the unhealthy. -/
theorem mem_unhealthy_iff {w : ConnectivityWarnable} :
    w ∈ (([(.networkStatus, anyInterfaceUp H signals), (.noDerpHome, signals.netcheck),
      (.ipForwardingOff, some (!ipForwardingBroken H b signals))] :
        List (ConnectivityWarnable × Option Bool)).filter fun (_, healthy) =>
          healthy == some false).map Prod.fst ↔ Unhealthy H b signals w := by
  have hnetwork : anyInterfaceUp H signals = some false ↔ Unhealthy H b signals .networkStatus := by
    unfold anyInterfaceUp Unhealthy
    cases signals.interfaces <;> simp
  rw [List.mem_map]
  constructor
  · rintro ⟨⟨w', healthy⟩, hrow, rfl⟩
    obtain ⟨hrow, hfalse⟩ := List.mem_filter.mp hrow
    obtain rfl := eq_of_beq hfalse
    simp only [List.mem_cons, Prod.mk.injEq, List.not_mem_nil, or_false] at hrow
    rcases hrow with ⟨rfl, h⟩ | ⟨rfl, h⟩ | ⟨rfl, h⟩
    · exact hnetwork.mp h.symm
    · exact h.symm
    · simpa [Unhealthy] using h.symm
  · intro h
    refine ⟨(w, some false), List.mem_filter.mpr ⟨?_, rfl⟩, rfl⟩
    cases w with
    | networkStatus => simp [hnetwork.mpr h]
    | noDerpHome => simp [show signals.netcheck = some false from h]
    | ipForwardingOff => simp [show ipForwardingBroken H b signals = true from h]

/-- The gate is open exactly for an impaired node. -/
theorem impacted_eq_some_iff {w : ConnectivityWarnable} :
    impacted H b signals = some w ↔ Impaired H b signals w := by
  unfold impacted shouldRunCaptivePortalDetection connectivityImpacted
  cases hwanted : b.prefs.wantRunning with
  | false => exact iff_of_false (nomatch ·) fun h => absurd h.wanted (by simp [hwanted])
  | true =>
    rw [if_pos rfl, Bool.not_true, if_neg Bool.false_ne_true]
    have hrunning (h : Impaired H b signals w) :
        ∃ dev, b.device = some dev ∧ stateFromDevice dev.state = .running :=
      Option.map_eq_some_iff.mp h.running
    cases hdevice : b.device with
    | none =>
      refine iff_of_false ?_ fun h => ?_
      · unfold connectivityImpactedFrom
        rw [if_pos (by simp [Backend.deriveState, hdevice]; split_ifs <;> simp)]
        exact nofun
      · obtain ⟨dev, hdev, -⟩ := hrunning h
        rw [hdevice] at hdev
        cases hdev
    | some dev =>
      dsimp only
      by_cases hstate : stateFromDevice dev.state = .running
      · rw [hstate]
        unfold connectivityImpactedFrom
        rw [if_neg (fun h => h rfl), Extremes.minByKey_eq_some_iff priority_injective]
        simp only [mem_unhealthy_iff]
        constructor
        · rintro ⟨hunhealthy, hfirst⟩
          refine ⟨hwanted, ?_, hunhealthy, hfirst⟩
          rw [Backend.engineState, hdevice, Option.map_some, hstate]
        · exact fun h => ⟨h.unhealthy, h.first⟩
      · refine iff_of_false ?_ fun h => ?_
        · unfold connectivityImpactedFrom
          rw [if_pos hstate]
          exact nofun
        · obtain ⟨dev', hdev, hrun⟩ := hrunning h
          rw [hdevice] at hdev
          cases hdev
          exact hstate hrun

/-! ## The loop -/

/-- The daemon, the flag on its backend and what `captive_portal_loop` keeps; `clock` is the last
    instant it has read. -/
structure PortalLoop where
  daemon : Daemon
  /-- `captive_portal_detected`. -/
  detected : Bool
  timer : EpisodeTimer
  /-- A pass is in flight. -/
  probing : Bool
  clock : Nat

/-- What can happen beside the loop and in it. -/
inductive PortalEvent (U : Type) where
  | daemon (e : Event)
  /-- The section of a tick, and the timer's answer behind it. -/
  | tick (signals : Signals) (now : Nat)
  /-- The end of a pass, and the section that records it. -/
  | verdict (pass : Pass U) (signals : Signals)

/-- `health_warnings`. -/
def healthWarnings (detected : Bool) : List String :=
  if detected then ["This network requires you to log in using your web browser."] else []

namespace PortalLoop

variable (C) (H)

/-- One event. -/
def step (s : PortalLoop) : PortalEvent U → Option PortalLoop
  | .daemon e => (s.daemon.step H e).map fun d => { s with daemon := d }
  | .tick signals now =>
    if s.probing ∨ now < s.clock then none
    else
      match impacted H s.daemon.backend signals with
      | none => some { s with detected := false, timer := s.timer.recovered, clock := now }
      | some w =>
        let (due, timer) := s.timer.probeDue w now
        some { s with timer, probing := due, clock := now }
  | .verdict pass signals =>
    if s.probing then
      -- the live call has no DERP map
      let found := detect C H.os pass [] none
      if (impacted H s.daemon.backend signals).isSome then
        some { s with probing := false, detected := found }
      else some { s with probing := false, detected := false }
    else none

/-- A loop that has just been spawned. -/
def start (d : Daemon) : PortalLoop := ⟨d, false, {}, false, 0⟩

end PortalLoop

/-! ### The history of a run -/

/-- What a look at the backend met. -/
inductive Glance where
  | tick (backend : Backend) (signals : Signals) (now : Nat)
  | verdict (backend : Backend) (signals : Signals) (found : Bool)

/-- What an event looks at. -/
def glances (C : UrlCrate U) (H : Host) (s : PortalLoop) :
    PortalEvent U → PortalLoop → List Glance
  | .daemon _, _ => []
  | .tick signals now, _ => [.tick s.daemon.backend signals now]
  | .verdict pass signals, _ =>
    [.verdict s.daemon.backend signals (detect C H.os pass [] none)]

/-- The call of the timer that belongs to a look. -/
def Glance.call (H : Host) : Glance → Option TimerCall
  | .tick b signals now =>
    match impacted H b signals with
    | none => some .recovered
    | some w => some (.probeDue w now)
  | .verdict _ _ _ => none

/-- The calls of a history. -/
def timerCalls (H : Host) (seen : List Glance) : List TimerCall := seen.filterMap (Glance.call H)

/-- A tick that finds the node impaired. -/
def Glance.Confirms (H : Host) : Glance → Prop
  | .tick b signals _ => ∃ w, Impaired H b signals w
  | .verdict _ _ _ => False

/-- The last verdict found a portal and was recorded on an impaired node, and every look since has
    found the node impaired. -/
def Stands (H : Host) (seen : List Glance) : Prop :=
  ∃ before b signals w after, seen = before ++ .verdict b signals true :: after ∧
    Impaired H b signals w ∧ ∀ g ∈ after, g.Confirms H

/-- A pass was due: the history ends with a tick at which the timer's record asked for one. -/
def Due (H : Host) (seen : List Glance) : Prop :=
  ∃ earlier b signals now w, seen = earlier ++ [.tick b signals now] ∧ Impaired H b signals w ∧
    PassDue (timerRun (timerCalls H earlier)).2 w now

/-- **What the loop keeps.** -/
structure Keeps (H : Host) (seen : List Glance) (s : PortalLoop) : Prop where
  timer : s.timer = (timerRun (timerCalls H seen)).1
  ordered : TimerCall.Ordered (timerCalls H seen)
  clock : ∀ t ∈ (timerCalls H seen).filterMap TimerCall.instant, t ≤ s.clock
  flying : s.probing = true → Due H seen
  flag : s.detected = true ↔ Stands H seen
  passes : ∀ before b signals found after, seen = before ++ .verdict b signals found :: after →
    Due H before

variable {s t : PortalLoop} {seen : List Glance}

theorem timerCalls_concat (seen : List Glance) (g : Glance) :
    timerCalls H (seen ++ [g]) = timerCalls H seen ++ (g.call H).toList := by
  unfold timerCalls
  rw [List.filterMap_append]
  cases hcall : g.call H <;> simp [hcall]

/-- A warning goes on over a look, or it starts with it. -/
theorem stands_concat {g : Glance} :
    Stands H (seen ++ [g]) ↔ (Stands H seen ∧ g.Confirms H) ∨
      ∃ b signals w, g = .verdict b signals true ∧ Impaired H b signals w := by
  constructor
  · rintro ⟨before, b, signals, w, after, hseen, himpaired, hafter⟩
    rcases concat_eq_append_cons hseen with ⟨rfl, rfl, -⟩ | ⟨after', rfl, rfl⟩
    · exact .inr ⟨b, signals, w, rfl, himpaired⟩
    · exact .inl ⟨⟨before, b, signals, w, after', rfl, himpaired,
        fun x hx => hafter x (List.mem_append_left _ hx)⟩,
        hafter g (List.mem_append_right _ (List.mem_singleton_self g))⟩
  · rintro (⟨⟨before, b, signals, w, after, rfl, himpaired, hafter⟩, hg⟩ |
      ⟨b, signals, w, rfl, himpaired⟩)
    · refine ⟨before, b, signals, w, after ++ [g], by simp, himpaired, fun x hx => ?_⟩
      rcases List.mem_append.mp hx with hx | hx
      · exact hafter x hx
      · rwa [List.mem_singleton.mp hx]
    · exact ⟨seen, b, signals, w, [], rfl, himpaired, fun x hx => by cases hx⟩

/-- The passes of a history that is one longer. -/
theorem passes_concat {g : Glance}
    (h : ∀ before b signals found after, seen = before ++ .verdict b signals found :: after →
      Due H before)
    (hg : ∀ b signals found, g = .verdict b signals found → Due H seen) :
    ∀ before b signals found after, seen ++ [g] = before ++ .verdict b signals found :: after →
      Due H before := by
  intro before b signals found after hseen
  rcases concat_eq_append_cons hseen with ⟨-, hlast, rfl⟩ | ⟨after', -, hold⟩
  · exact hg b signals found hlast
  · exact h before b signals found after' hold

theorem not_impaired (h : impacted H b signals = none) (w : ConnectivityWarnable) :
    ¬ Impaired H b signals w := by
  intro himpaired
  rw [impacted_eq_some_iff.mpr himpaired] at h
  cases h

/-- A tick on a healthy node ends the episode and the warning. -/
theorem Keeps.healthy {now : Nat} (hs : Keeps H seen s) (hidle : s.probing = false)
    (hnow : s.clock ≤ now) (h : impacted H s.daemon.backend signals = none) :
    Keeps H (seen ++ [.tick s.daemon.backend signals now])
      { s with detected := false, timer := s.timer.recovered, clock := now } := by
  have hcalls : timerCalls H (seen ++ [.tick s.daemon.backend signals now]) =
      timerCalls H seen ++ [.recovered] := by
    rw [timerCalls_concat, Glance.call, h]
    rfl
  have hinstants : (timerCalls H (seen ++ [.tick s.daemon.backend signals now])).filterMap
      TimerCall.instant = (timerCalls H seen).filterMap TimerCall.instant := by
    rw [hcalls, List.filterMap_append]
    exact List.append_nil _
  refine ⟨?_, ?_, ?_, ?_, ?_, ?_⟩
  · rw [hcalls, timerRun_concat, hs.timer]
    rfl
  · unfold TimerCall.Ordered
    rw [hinstants]
    exact hs.ordered
  · rw [hinstants]
    exact fun t ht => (hs.clock t ht).trans hnow
  · exact fun hprobing => by rw [hidle] at hprobing; cases hprobing
  · refine iff_of_false Bool.false_ne_true fun hstands => ?_
    rcases stands_concat.mp hstands with ⟨-, w, hw⟩ | ⟨_, _, _, hverdict, -⟩
    · exact not_impaired h w hw
    · cases hverdict
  · exact passes_concat hs.passes fun _ _ _ hverdict => by cases hverdict

/-- A tick on an impaired node asks the timer. -/
theorem Keeps.asks {now : Nat} {w : ConnectivityWarnable} (hs : Keeps H seen s)
    (hnow : s.clock ≤ now) (h : impacted H s.daemon.backend signals = some w) :
    Keeps H (seen ++ [.tick s.daemon.backend signals now])
      { s with
        timer := (s.timer.probeDue w now).2
        probing := (s.timer.probeDue w now).1
        clock := now } := by
  have himpaired := impacted_eq_some_iff.mp h
  have hcalls : timerCalls H (seen ++ [.tick s.daemon.backend signals now]) =
      timerCalls H seen ++ [.probeDue w now] := by
    rw [timerCalls_concat, Glance.call, h]
    rfl
  have hinstants : (timerCalls H (seen ++ [.tick s.daemon.backend signals now])).filterMap
      TimerCall.instant = (timerCalls H seen).filterMap TimerCall.instant ++ [now] := by
    rw [hcalls, List.filterMap_append]
    rfl
  have hbefore (t : Nat) (ht : t ∈ (timerCalls H seen).filterMap TimerCall.instant) : t ≤ now :=
    (hs.clock t ht).trans hnow
  refine ⟨?_, ?_, ?_, ?_, ?_, ?_⟩
  · rw [hcalls, timerRun_concat, hs.timer]
    rfl
  · unfold TimerCall.Ordered
    rw [hinstants, List.pairwise_append]
    refine ⟨hs.ordered, List.pairwise_singleton _ _, fun t ht u hu => ?_⟩
    rw [List.mem_singleton.mp hu]
    exact hbefore t ht
  · intro t ht
    rw [hinstants] at ht
    rcases List.mem_append.mp ht with ht | ht
    · exact hbefore t ht
    · exact (List.mem_singleton.mp ht).le
  · intro hdue
    refine ⟨seen, s.daemon.backend, signals, now, w, rfl, himpaired, ?_⟩
    rw [hs.timer] at hdue
    exact (probeDue_iff hs.ordered w now).mp hdue
  · refine hs.flag.trans (iff_comm.mp (stands_concat.trans ?_))
    constructor
    · rintro (⟨hstands, -⟩ | ⟨_, _, _, hverdict, -⟩)
      · exact hstands
      · cases hverdict
    · exact fun hstands => .inl ⟨hstands, w, himpaired⟩
  · exact passes_concat hs.passes fun _ _ _ hverdict => by cases hverdict

/-- A verdict is the warning. -/
theorem Keeps.judges {found detected : Bool} (hs : Keeps H seen s) (hprobing : s.probing = true)
    (h : detected = true ↔ found = true ∧ ∃ w, Impaired H s.daemon.backend signals w) :
    Keeps H (seen ++ [.verdict s.daemon.backend signals found])
      { s with probing := false, detected } := by
  have hcalls : timerCalls H (seen ++ [.verdict s.daemon.backend signals found]) =
      timerCalls H seen := by
    rw [timerCalls_concat, Glance.call]
    exact List.append_nil _
  refine ⟨?_, ?_, ?_, ?_, ?_, ?_⟩
  · rw [hcalls]
    exact hs.timer
  · rw [hcalls]
    exact hs.ordered
  · rw [hcalls]
    exact hs.clock
  · exact fun hflying => by cases hflying
  · refine h.trans (iff_comm.mp (stands_concat.trans ?_))
    constructor
    · rintro (⟨-, hconfirms⟩ | ⟨b, signals', w, hverdict, himpaired⟩)
      · exact hconfirms.elim
      · cases hverdict
        exact ⟨rfl, w, himpaired⟩
    · rintro ⟨rfl, w, himpaired⟩
      exact .inr ⟨_, _, w, rfl, himpaired⟩
  · exact passes_concat hs.passes fun _ _ _ _ => hs.flying hprobing

/-- **One event keeps it**, and the daemon's own touch none of it. -/
theorem Keeps.step {e : PortalEvent U} (hs : Keeps H seen s)
    (h : PortalLoop.step C H s e = some t) :
    Keeps H (seen ++ glances C H s e t) t := by
  cases e with
  | daemon e =>
    obtain ⟨d, -, rfl⟩ := Option.map_eq_some_iff.mp h
    rw [glances, List.append_nil]
    exact ⟨hs.timer, hs.ordered, hs.clock, hs.flying, hs.flag, hs.passes⟩
  | tick signals now =>
    dsimp only [PortalLoop.step] at h
    split at h
    · cases h
    · rename_i hready
      obtain ⟨hidle, hnow⟩ := not_or.mp hready
      split at h
      · rename_i hnone
        cases h
        exact hs.healthy (Bool.not_eq_true _ ▸ hidle) (Nat.le_of_not_lt hnow) hnone
      · rename_i w hsome
        cases h
        exact hs.asks (Nat.le_of_not_lt hnow) hsome
  | verdict pass signals =>
    dsimp only [PortalLoop.step] at h
    split at h
    · rename_i hprobing
      split at h
      · rename_i hopen
        cases h
        obtain ⟨w, hw⟩ := Option.isSome_iff_exists.mp hopen
        exact hs.judges hprobing
          ⟨fun hfound => ⟨hfound, w, impacted_eq_some_iff.mp hw⟩, fun hfound => hfound.1⟩
      · rename_i hshut
        cases h
        have hnone := Option.not_isSome_iff_eq_none.mp hshut
        exact hs.judges hprobing
          (iff_of_false Bool.false_ne_true fun ⟨_, w, hw⟩ => not_impaired hnone w hw)
    · cases h

theorem Keeps.start (d : Daemon) : Keeps H [] (PortalLoop.start d) := by
  refine ⟨rfl, .nil, (fun _ h => by cases h), (fun h => by cases h),
    iff_of_false Bool.false_ne_true ?_, fun before b signals found after h => ?_⟩
  · rintro ⟨before, b, signals, w, after, hseen, -⟩
    cases before <;> cases hseen
  · cases before <;> cases h

/-- **When the captive-portal warning stands.**  Whatever the daemon does beside the loop: the
    warning is reported exactly if the last pass found a portal, was recorded on an impaired node,
    and every look since has found the node impaired; and a verdict is only ever written down for a
    pass that was due by what the ticks had met. -/
theorem captive_warning_stands_iff {d : Daemon} {es : List (PortalEvent U)}
    (hrun : Run (PortalLoop.step C H) (fun _ _ => True) (.start d) es s) :
    (healthWarnings s.detected ≠ [] ↔
        Stands H (emitted (PortalLoop.step C H) (glances C H) (.start d) es)) ∧
      ∀ before b signals found after,
        emitted (PortalLoop.step C H) (glances C H) (.start d) es =
          before ++ .verdict b signals found :: after → Due H before := by
  have hkeeps := hrun.invariant_emitted (fun _ _ _ _ hs _ hstep => hs.step hstep) (Keeps.start d)
  rw [List.nil_append] at hkeeps
  refine ⟨?_, hkeeps.passes⟩
  rw [← hkeeps.flag]
  unfold healthWarnings
  cases s.detected <;> simp

/-- URLs as their texts. -/
def plainUrls : UrlCrate String where
  parse := some
  hostStr := some
  port _ := none
  appendPair url key value := url ++ "?" ++ key ++ "=" ++ value

/-- The relays cannot be reached over an interface that is up. -/
def noRelay : Signals where
  interfaces := .ok [⟨"en0", .v4 [192, 0, 2, 5], true⟩]
  netcheck := some false
  interfaceIps := .ok [("en0", .v4 [192, 0, 2, 5])]
  procfs := ⟨fun _ => .error .notFound, .ok true⟩

/-- A login page answers everything; the second thread comes back first. -/
def loginPage : Pass String where
  ifaces := .ok [("en0", .v4 [192, 0, 2, 5])]
  nowUnix := 1700000000
  transport _ _ := .ok ⟨302, none, none⟩
  panics _ := false
  arrives := List.reverse
  arrives_perm := List.reverse_perm

/-- A node that is up loses its relays; twelve seconds later a pass finds the login page. -/
theorem captive_warning_stands_relay :
    ∃ d s, Daemon.replay plainHost [] firstBoot
        [.up {} none none {} {}, .finish 0 (some .running) {}] = some d ∧
      follow (PortalLoop.step plainUrls plainHost) (.start d)
        [.tick noRelay 0, .tick noRelay (seconds 12), .verdict loginPage noRelay,
          .tick noRelay (seconds 13)] = some s ∧
      Stands plainHost (emitted (PortalLoop.step plainUrls plainHost)
        (glances plainUrls plainHost) (.start d)
        [.tick noRelay 0, .tick noRelay (seconds 12), .verdict loginPage noRelay,
          .tick noRelay (seconds 13)]) := by
  obtain ⟨d, s, hd, hrun, hdetected⟩ : ∃ d s, Daemon.replay plainHost [] firstBoot
        [.up {} none none {} {}, .finish 0 (some .running) {}] = some d ∧
      follow (PortalLoop.step plainUrls plainHost) (.start d)
        [.tick noRelay 0, .tick noRelay (seconds 12), .verdict loginPage noRelay,
          .tick noRelay (seconds 13)] = some s ∧ healthWarnings s.detected ≠ [] :=
    ⟨_, _, rfl, rfl, by decide +kernel⟩
  exact ⟨d, s, hd, hrun,
    (captive_warning_stands_iff (run_of_follow (fun _ _ _ => trivial) hrun)).1.mp hdetected⟩

end Tailnetd.Captive
