/-
  Who may do what over the LocalAPI (`auth.rs`).

  A connection is authorised by the user its peer process runs as, asked of the kernel once, when
  the connection is accepted: root and the daemon's own user may write, everybody who reaches the
  socket may read, and a peer the kernel cannot name may only read.  `requires_write` then says of
  each request which of the two it is.

  The table is written by hand, request by request, and so is the code that runs the requests.
  `opens_requiresWrite` holds the two together: a request whose handling enters a section that edits
  the backend is one that requires write.
-/
import Tailnetd.Daemon
import Tailnetd.Serve

namespace Tailnetd

/-! ## The policy -/

/-- `Access`. -/
inductive Access where
  | readOnly
  | readWrite
  deriving DecidableEq, Repr

/-- `can_write`. -/
def Access.canWrite : Access → Bool
  | .readOnly => false
  | .readWrite => true

/-- `AuthPolicy`: the user that, beside root, is granted write. -/
structure AuthPolicy where
  ownerEuid : UInt32
  deriving DecidableEq, Repr

/-- `access_for_uid`. -/
def AuthPolicy.accessForUid (policy : AuthPolicy) (peerUid : UInt32) : Access :=
  if peerUid = 0 ∨ peerUid = policy.ownerEuid then .readWrite else .readOnly

/-- `for_peer`: `peer_cred` answers with the peer's user, or fails. -/
def AuthPolicy.forPeer (policy : AuthPolicy) (peerCred : Option UInt32) :
    Access × Option UInt32 :=
  match peerCred with
  | some uid => (policy.accessForUid uid, some uid)
  | none => (.readOnly, none)

/-- A peer that is root or the daemon's own user. -/
def AuthPolicy.Writer (policy : AuthPolicy) (uid : Option UInt32) : Prop :=
  uid = some 0 ∨ uid = some policy.ownerEuid

/-- **Write is for root and the owner**, and never for a peer without a name. -/
theorem AuthPolicy.forPeer_canWrite {policy : AuthPolicy} {peerCred : Option UInt32} :
    (policy.forPeer peerCred).1.canWrite = true ↔ policy.Writer (policy.forPeer peerCred).2 := by
  cases peerCred with
  | none => exact iff_of_false Bool.false_ne_true (by rintro (h | h) <;> cases h)
  | some uid =>
    show (policy.accessForUid uid).canWrite = true ↔ _
    unfold AuthPolicy.accessForUid
    split
    · rename_i h
      exact iff_of_true rfl (h.imp (congrArg some) (congrArg some))
    · rename_i h
      exact iff_of_false Bool.false_ne_true fun hw => h (hw.imp Option.some.inj Option.some.inj)

/-! ## The requests -/

/-- The mask fields of `Request::Watch`. -/
structure WatchMask where
  initialState : Bool := false
  initialNetmap : Bool := false
  prefs : Bool := false
  policy : Bool := false
  suggestedExitNode : Bool := false
  initialStatus : Bool := false
  deriving DecidableEq, Repr

/-- A watch with no mask field set. -/
def WatchMask.bare (mask : WatchMask) : Bool :=
  !mask.initialState && !mask.initialNetmap && !mask.prefs && !mask.policy &&
    !mask.suggestedExitNode && !mask.initialStatus

/-- `Request`, with the arguments the server itself looks at or hands to a section. -/
inductive Request where
  | status
  | watch (mask : WatchMask)
  | up (authkey : Option String) (wif : Option WifCreds) (o : UpOptions)
  | set (o : SetOptions)
  | version
  | getPrefs
  | profileList
  | metrics
  | lockStatus
  | lockLog
  | lockInit
  | lockSign
  | lockDisable
  | dnsStatus
  | dnsQuery
  | netcheck
  | suggestExitNode
  | services
  | syspolicyList
  | syspolicyReload
  | checkIpForwarding
  | checkPrefs
  | cert
  | bugReport
  | getServeConfig
  | setServeConfig (config : ServeConfig)
  | switchProfile (target : String)
  | createProfile (id : String)
  | switchToEmptyProfile
  | deleteProfile (target : String)
  | nc (host : String) (port : UInt16)
  | down (reason : Option String)
  | logout (reason : Option String)
  | ip
  | whois
  | idToken
  | ping
  | fileCp
  | fileList
  | fileGet
  | fileGetDir
  | fileTargets
  | debugCapture
  | debugRebind
  | debugReStun
  | debugStateDir
  | debugPortmap
  | reloadConfig
  | shutdown
  deriving DecidableEq

/-- `requires_write`. -/
def Request.requiresWrite : Request → Bool
  | .status | .watch _ | .ip | .whois | .ping | .version | .getPrefs | .profileList | .lockStatus
  | .lockLog | .dnsStatus | .dnsQuery | .netcheck | .suggestExitNode | .services | .syspolicyList
  | .syspolicyReload | .checkIpForwarding | .bugReport | .getServeConfig | .fileList
  | .fileTargets => false
  | .up .. | .set _ | .down _ | .logout _ | .switchProfile _ | .createProfile _
  | .switchToEmptyProfile | .deleteProfile _ | .nc .. | .setServeConfig _ | .fileCp | .fileGet
  | .fileGetDir | .idToken | .metrics | .debugCapture | .debugRebind | .debugReStun
  | .debugStateDir | .debugPortmap | .reloadConfig | .cert | .lockInit | .lockSign | .lockDisable
  | .shutdown | .checkPrefs => true

/-- `Denied`. -/
inductive Denied where
  | denied
  deriving DecidableEq, Repr

/-- `authorize`. -/
def authorize (request : Request) (access : Access) : Except Denied Unit :=
  if request.requiresWrite && !access.canWrite then .error .denied else .ok ()

theorem authorize_ok_iff {request : Request} {access : Access} :
    authorize request access = .ok () ↔ request.requiresWrite = true → access.canWrite = true := by
  unfold authorize
  cases request.requiresWrite <;> cases access.canWrite <;> simp

/-! ## The sections a request enters -/

/-- The events of the daemon that a LocalAPI request causes, as against those the daemon has by
    itself. -/
def Event.operator : Event → Bool
  | .up .. | .set .. | .reload .. | .down .. | .logout .. | .switchProfile .. | .createProfile ..
  | .switchToEmptyProfile .. | .deleteProfile .. => true
  | .finish .. | .preflight .. | .rebuild .. | .bringDown .. | .policyMoved _ | .policyTick
  | .timerFired _ | .reconnect .. | .sighup _ | .resumeCheck .. | .resume .. | .engine _ => false

/-- The first section the handling of a request enters, with the arguments it carries there. -/
def Request.opens : Request → Event → Bool
  | .up authkey wif o, .up o' authkey' wif' _ _ => o = o' ∧ authkey = authkey' ∧ wif = wif'
  | .set o, .set o' _ _ => o = o'
  | .reloadConfig, .reload .. => true
  | .down reason, .down reason' _ => reason = reason'
  | .logout reason, .logout reason' _ => reason = reason'
  | .switchProfile target, .switchProfile target' _ => target = target'
  | .createProfile id, .createProfile id' _ => id = id'
  | .switchToEmptyProfile, .switchToEmptyProfile .. => true
  | .deleteProfile target, .deleteProfile target' _ => target = target'
  | _, _ => false

/-- **The table covers the code**: what enters a section that edits the backend requires write, and
    every section an operator causes is entered by such a request. -/
theorem opens_requiresWrite {request : Request} {e : Event} (h : request.opens e = true) :
    request.requiresWrite = true ∧ e.operator = true := by
  cases request <;> first | exact absurd h Bool.false_ne_true |
    (cases e <;> first | exact absurd h Bool.false_ne_true | exact ⟨rfl, rfl⟩)

end Tailnetd
