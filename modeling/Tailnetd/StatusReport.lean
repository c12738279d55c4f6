/-
  The status report (`localapi.rs`).

  The daemon answers a status request with what it knows of itself and of its peers.  A peer's name,
  its relay and its host keys, this node's name, the active exit node, the login URL and the
  registration error are texts control chose.  Here are the fields that `tnet status` prints and
  `tnet ssh` uses.
-/
import Tailnetd.Checks
import Tailnetd.PrefsWatch

namespace Tailnetd

/-- `PeerReport`, with what a status report shows of the peer. -/
structure StatusPeer extends PeerReport where
  online : Option Bool := none
  lastSeen : Option String := none
  /-- The direct endpoint, once a path to it is confirmed. -/
  curAddr : Option String := none
  /-- The DERP region it is reached through otherwise. -/
  relay : Option String := none
  sshHostKeys : List String := []
  deriving DecidableEq, Repr

/-- `StatusReport`. -/
structure StatusReport where
  state : String
  wantRunning : Bool
  selfIpv4 : Option String
  selfName : Option String
  authUrl : Option String
  /-- The reason of a registration that failed for good. -/
  error : Option String
  prefs : PrefsView
  /-- The name of the exit node traffic leaves through. -/
  activeExitNode : Option String
  peers : List StatusPeer
  health : List String
  deriving DecidableEq, Repr

/-- A running node that sees these peers. -/
def statusOf (peers : List StatusPeer) : StatusReport where
  state := "Running"
  wantRunning := true
  selfIpv4 := some "100.64.0.1"
  selfName := some "desk"
  authUrl := none
  error := none
  prefs := Prefs.default.view false
  activeExitNode := none
  peers := peers
  health := []

end Tailnetd
