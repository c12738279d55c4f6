/-
  The LocalAPI server (`server.rs`): its accept loop, the handlers of its connections, its budgets
  and its stop.

  A connection is accepted when a permit is free and has a handler until it ends.  A handler reads
  one line at a time (`Tailnetd.RequestLines` says which lines those are) and judges it: it is
  blank, it is refused, it turns the connection into a stream, it stops the daemon, or it is
  dispatched.  A dispatched request enters the backend's sections, which interleave with those of
  every other handler and with the daemon's own; `Server.step` is one such step of anybody.

  1. **Budgets** — a permit of the first pool goes with every handler, one of the second with every
     stream, so neither is ever over-drawn (`localapi_budgets`).
  2. **Write access** — the daemon moves by its own events and by the sections of granted requests,
     and those that need write were granted to root or the owner (`only_writers_write`).
  3. **One line, one reply** — whatever the interleaving, a handler owes an answer to at most the
     line it read last (`replies_match_lines`).
  4. **The stop** — the server stops by itself only after a permitted writer was told so
     (`stopped_by_writer`).
-/
import Tailnetd.Auth
import Tailnetd.ControlUrl
import Tailnetd.RevertGuard
import Tailnetd.Lib.Permits

namespace Tailnetd

open Machine Permits

/-! ## What the server says -/

/-- What is written to a connection outside its streams; the text of what a carried-out request
    answers is the business of the code it runs. -/
inductive Reply where
  | error (message : String)
  | ok (message : String)
  | revertGuard (reverts : List RevertedPref)
  | answered (request : Request)
  deriving DecidableEq

/-- `ShutdownRefusal`. -/
inductive ShutdownRefusal where
  | accessDenied
  | deniedByPolicy
  deriving DecidableEq, Repr

/-- `message`. -/
def ShutdownRefusal.message : ShutdownRefusal → String
  | .accessDenied => "shutdown access denied"
  | .deniedByPolicy => "shutdown access denied by policy"

/-- `shutdown_verdict`: write access first, so that a caller without it learns nothing of the
    policy. -/
def shutdownVerdict (access : Access) (allowedByPolicy : Bool) : Except ShutdownRefusal Unit :=
  match authorize .shutdown access with
  | .error _ => .error .accessDenied
  | .ok () => if allowedByPolicy then .ok () else .error .deniedByPolicy

/-- `watch_upstream_mask`: Go's mask bits of a subscription, none for any other request. -/
def watchUpstreamMask : Request → Option Nat
  | .watch mask =>
    some ((if mask.initialState then 2 ^ 1 else 0) + (if mask.prefs then 2 ^ 2 else 0) +
      (if mask.initialNetmap then 2 ^ 3 else 0) + (if mask.suggestedExitNode then 2 ^ 10 else 0) +
      (if mask.initialStatus then 2 ^ 14 else 0) + (if mask.policy then 2 ^ 17 else 0))
  | _ => none

/-- `watch_usage_refusal`: no subscription this wire format can spell is refused. -/
def watchUsageRefusal (request : Request) : Option String :=
  (watchUpstreamMask request).bind fun _ => none

/-- What a handler makes of one line. -/
inductive Verdict where
  /-- A blank line. -/
  | skip
  /-- An answer, after which the next line is read. -/
  | refuse (reply : Reply)
  /-- The request takes a stream permit; `keeps` says whether the connection goes on when there is
      none. -/
  | stream (request : Request) (keeps : Bool)
  /-- An answer, after which the daemon is asked to stop. -/
  | stop (reply : Reply)
  | dispatch (request : Request)
  deriving DecidableEq

/-- What is fixed while the server runs: the host, the policy of `auth.rs`, the JSON reader of
    requests and whether the build has workload-identity federation. -/
structure Setup where
  host : Host
  auth : AuthPolicy
  parse : String → Except String Request
  identityFederation : Bool

/-- The arm of `handle_conn` that a request takes. -/
def judgeRequest (request : Request) (access : Access) (shutdownAllowed : Bool) : Verdict :=
  match request with
  | .watch mask =>
    match watchUsageRefusal (.watch mask) with
    | some message => .refuse (.error message)
    | none => .stream request false
  | .nc .. =>
    match authorize request access with
    | .error _ => .refuse (.error
        "permission denied: nc requires root or the same user that owns the daemon")
    | .ok () => .stream request true
  | .debugPortmap =>
    match authorize request access with
    | .error _ => .refuse (.error
        "permission denied: debug portmap requires root or the same user that owns the daemon")
    | .ok () => .stream request true
  | .shutdown =>
    match shutdownVerdict access shutdownAllowed with
    | .error refusal => .refuse (.error refusal.message)
    | .ok () => .stop (.ok "shutdown accepted; the daemon is stopping")
  | _ =>
    match authorize request access with
    | .error _ => .refuse (.error ("permission denied: writing (up/down) requires root or the " ++
        "same user that owns the daemon"))
    | .ok () => .dispatch request

/-- The loop body of `handle_conn`, on one line. -/
def judge (S : Setup) (access : Access) (shutdownAllowed : Bool) (line : List UInt8) : Verdict :=
  match String.fromUTF8? line.toByteArray with
  | none => .refuse (.error "bad request: invalid UTF-8")
  | some text =>
    if (trim text).isEmpty then .skip
    else
      match S.parse text with
      | .error e => .refuse (.error ("bad request: " ++ e))
      | .ok request => judgeRequest request access shutdownAllowed

/-! ## The handlers -/

/-- Where a handler is. -/
inductive ConnStage where
  | reading
  /-- `dispatch` let the request through and has not looked at the backend yet. -/
  | dispatching (request : Request)
  /-- An `up` past the revert guard. -/
  | guarded (request : Request)
  /-- Past every check that touches nothing. -/
  | cleared (request : Request)
  /-- Its first section ran. -/
  | driving (request : Request)
  /-- `nc` has not taken the device's handle yet. -/
  | connecting (host : String) (port : UInt16)
  /-- `nc` dials through the handle it took. -/
  | dialing (host : String) (port : UInt16)
  | streaming (request : Request)
  | splicing
  deriving DecidableEq

/-- A stream permit goes with the stage. -/
def ConnStage.holdsStream : ConnStage → Bool
  | .connecting .. | .dialing .. | .streaming _ | .splicing => true
  | _ => false

/-- The line read last is still to be answered; a stream is its own answer. -/
def ConnStage.owes : ConnStage → Nat
  | .reading | .splicing => 0
  | _ => 1

/-- `handle_conn`: its connection, whom it serves, and how many lines it took that are not blank. -/
structure Handler where
  id : Nat
  uid : Option UInt32
  access : Access
  stage : ConnStage
  lines : Nat
  deriving DecidableEq

/-- Whether the accept loop runs, and how it ended. -/
inductive ServerPhase where
  | accepting
  | draining (byLocalApi : Bool)
  | returned (byLocalApi : Bool)
  deriving DecidableEq, Repr

/-- `MAX_CONNECTIONS`. -/
def maxConnections : Nat := 128

/-- `MAX_STREAM_CONNECTIONS`. -/
def maxStreamConnections : Nat := 32

/-- The server with the daemon behind it.  `replies` and `granted` record what was written and what
    was let through, oldest first; no step reads them. -/
structure Server where
  daemon : Daemon
  handlers : List Handler
  connections : Pool maxConnections
  streams : Pool maxStreamConnections
  nextId : Nat
  /-- The permit stored in the `Notify` that asks the accept loop to stop. -/
  stopRequested : Bool
  phase : ServerPhase
  replies : List (Nat × Reply)
  granted : List (Option UInt32 × Request)

/-- How the dial of an `nc` came out. -/
inductive Dial where
  | connected
  | failed (e : String)
  | timedOut
  deriving DecidableEq, Repr

/-- One step of the server.  `written` says whether the reply went out; a handler whose reply does
    not is over. -/
inductive ServerEvent where
  | accepted (peerCred : Option UInt32)
  | received (i : Nat) (line : List UInt8) (written : Bool)
  /-- A line over the cap. -/
  | overlong (i : Nat) (written : Bool)
  /-- The end of the stream, or an error of it. -/
  | ended (i : Nat)
  /-- The next check of a dispatched request that touches nothing. -/
  | checked (i : Nat) (written : Bool)
  /-- The first section of a dispatched request. -/
  | entered (i : Nat) (e : Event)
  /-- A dispatched request is carried out and answered. -/
  | answered (i : Nat) (written : Bool)
  /-- `nc` takes the device's handle, if there is one. -/
  | deviceTaken (i : Nat) (written : Bool)
  | dialled (i : Nat) (dial : Dial) (written : Bool)
  /-- The daemon does something by itself. -/
  | internal (e : Event)
  /-- The caller's `shutdown` future resolved. -/
  | signal
  /-- The accept loop takes the stop a handler asked for. -/
  | stop
  /-- The handlers have ended, or the drain timed out and they are aborted. -/
  | drained (timedOut : Bool)

/-- Which handler takes the step. -/
def ServerEvent.position : ServerEvent → Option Nat
  | .received i .. | .overlong i _ | .ended i | .checked i _ | .entered i _ | .answered i _
  | .deviceTaken i _ | .dialled i .. => some i
  | .accepted _ | .internal _ | .signal | .stop | .drained _ => none

namespace Server

/-- `serve` after the bind. -/
def start (d : Daemon) : Server where
  daemon := d
  handlers := []
  connections := .full _
  streams := .full _
  nextId := 0
  stopRequested := false
  phase := .accepting
  replies := []
  granted := []

/-- `shutdown_allowed_by_policy`. -/
def shutdownAllowed (S : Setup) (s : Server) : Bool :=
  booleanSetting (s.daemon.env S.host).settings "AllowTailscaledRestart" false

/-- Replies go out. -/
def say (s : Server) (h : Handler) (said : List Reply) : Server :=
  { s with replies := s.replies ++ said.map (h.id, ·) }

/-- Requests are let through. -/
def grant (s : Server) (h : Handler) (requests : List Request) : Server :=
  { s with granted := s.granted ++ requests.map (h.uid, ·) }

@[simp] theorem say_nil (s : Server) (h : Handler) : s.say h [] = s := by
  rw [say, List.map_nil, List.append_nil]

@[simp] theorem grant_nil (s : Server) (h : Handler) : s.grant h [] = s := by
  rw [grant, List.map_nil, List.append_nil]

/-- The handler at a position goes on as another. -/
def move (s : Server) (i : Nat) (h : Handler) : Server :=
  { s with handlers := s.handlers.set i h }

/-- The handler at a position ends, and its permits go back. -/
def leave (s : Server) (i : Nat) (h : Handler) : Server :=
  { s with
    handlers := s.handlers.eraseIdx i
    connections := s.connections.release
    streams := if h.stage.holdsStream then s.streams.release else s.streams }

/-- A reply is written and the handler goes on as `next`, or it is not and the handler is over. -/
def reply (s : Server) (i : Nat) (h next : Handler) (message : Reply) (written : Bool) : Server :=
  if written then (s.say h [message]).move i next else s.leave i h

/-- The last reply of a handler. -/
def replyLast (s : Server) (i : Nat) (h : Handler) (message : Reply) (written : Bool) : Server :=
  if written then (s.say h [message]).leave i h else s.leave i h

/-- A handler takes a line. -/
def receive (S : Setup) (s : Server) (i : Nat) (h : Handler) (line : List UInt8) (written : Bool) :
    Server :=
  let took := { h with lines := h.lines + 1 }
  match judge S h.access (s.shutdownAllowed S) line with
  | .skip => s
  | .refuse message => s.reply i h took message written
  | .stop message =>
    if written then
      { (((s.say h [message]).grant h [.shutdown]).leave i h) with stopRequested := true }
    else s.leave i h
  | .dispatch request => (s.grant h [request]).move i { took with stage := .dispatching request }
  | .stream request keeps =>
    match s.streams.tryAcquire with
    | some streams =>
      let stage := match request with
        | .nc host port => .connecting host port
        | _ => .streaming request
      { (s.grant h [request]).move i { took with stage := stage } with streams := streams }
    | none =>
      let full := Reply.error "too many concurrent watch/nc streams; try again"
      if keeps then s.reply i h took full written else s.replyLast i h full written

/-- `up_revert_guard`. -/
def upRevertGuard (S : Setup) (s : Server) (o : UpOptions) : List RevertedPref :=
  let prefs := s.daemon.backend.prefs
  dropPolicyPinned (checkAccidentalReverts prefs o prefs.hasLoggedIn)
    (pinnedPrefsIn (s.daemon.env S.host).settings)

/-- `SetOptions::is_empty`. -/
def setIsEmpty (o : SetOptions) : Bool := o = {}

/-- Between the quotes the daemon's messages use for names. -/
def quoted (name : String) : String :=
  (String.singleton (.ofNat 0x60)).append (name.push (.ofNat 0x60))

/-- What the checks of `dispatch` make of a request at a stage: the reply they end in, or the next
    stage. -/
def check (S : Setup) (s : Server) : ConnStage → Except Reply ConnStage
  | .dispatching (.up authkey wif o) =>
    if wif.isSome && !S.identityFederation then
      .error (.error ("workload-identity flags (--client-id/--client-secret/--id-token/" ++
        "--audience) require a daemon built with the " ++ quoted "identity-federation" ++
        " feature; this build does not have it"))
    else if !o.reset && s.upRevertGuard S o ≠ [] then .error (.revertGuard (s.upRevertGuard S o))
    else .ok (.guarded (.up authkey wif o))
  | .guarded (.up authkey wif o) =>
    if s.daemon.backend.upControlUrlGuard o then
      .error (.error "can't change --login-server without --force-reauth")
    else .ok (.cleared (.up authkey wif o))
  | .dispatching (.set o) =>
    if setIsEmpty o then .error (.error "set: no preferences specified")
    else .ok (.cleared (.set o))
  | .dispatching request => .ok (.cleared request)
  | stage => .ok stage

/-- A request whose handling enters a section. -/
def drives : Request → Bool
  | .up .. | .set _ | .reloadConfig | .down _ | .logout _ | .switchProfile _ | .createProfile _
  | .switchToEmptyProfile | .deleteProfile _ => true
  | _ => false

/-- What `stream_nc` says of a dial: the acknowledgement, or what failed. -/
def dialReply (host : String) (port : UInt16) : Dial → Except Reply Reply
  | .connected => .ok (.ok ("connected to " ++ host ++ ":" ++ toString port.toNat))
  | .failed e =>
    .error (.error ("nc: connect to " ++ host ++ ":" ++ toString port.toNat ++ " failed: " ++ e))
  | .timedOut =>
    .error (.error ("nc: connect to " ++ host ++ ":" ++ toString port.toNat ++
      " timed out after 30s"))

/-- An `nc` that comes to nothing: its permit goes back, and the handler reads on. -/
def refuseStream (s : Server) (i : Nat) (h : Handler) (message : Reply) (written : Bool) : Server :=
  if written then
    { (s.say h [message]).move i { h with stage := .reading } with streams := s.streams.release }
  else s.leave i h

/-- A step of the handler at a position; `none` when it is not where the event finds it. -/
def handlerStep (S : Setup) (s : Server) (i : Nat) (h : Handler) : ServerEvent → Option Server
  | .received _ line written =>
    if h.stage = .reading then some (s.receive S i h line written) else none
  | .overlong _ written =>
    if h.stage = .reading then some (s.replyLast i h (.error "request too large") written)
    else none
  | .ended _ => some (s.leave i h)
  | .checked _ written =>
    match h.stage with
    | .dispatching _ | .guarded _ =>
      match s.check S h.stage with
      | .error message => some (s.reply i h { h with stage := .reading } message written)
      | .ok stage => some (s.move i { h with stage := stage })
    | _ => none
  | .entered _ e =>
    match h.stage with
    | .cleared request =>
      if request.opens e then
        (s.daemon.step S.host e).map fun d =>
          { s with daemon := d }.move i { h with stage := .driving request }
      else none
    | _ => none
  | .answered _ written =>
    match h.stage with
    | .driving request =>
      some (s.reply i h { h with stage := .reading } (.answered request) written)
    | .cleared request =>
      if drives request then none
      else some (s.reply i h { h with stage := .reading } (.answered request) written)
    | _ => none
  | .deviceTaken _ written =>
    match h.stage with
    | .connecting host port =>
      if s.daemon.backend.device.isSome then some (s.move i { h with stage := .dialing host port })
      else some (s.refuseStream i h (.error "node is not up") written)
    | _ => none
  | .dialled _ dial written =>
    match h.stage with
    | .dialing host port =>
      match dialReply host port dial with
      | .ok message => some (s.reply i h { h with stage := .splicing } message written)
      | .error message => some (s.refuseStream i h message written)
    | _ => none
  | _ => none

/-- An accepted connection gets a handler, or is dropped when the cap is reached. -/
def accept (S : Setup) (s : Server) (peerCred : Option UInt32) : Server :=
  let (access, uid) := S.auth.forPeer peerCred
  match s.connections.tryAcquire with
  | none => s
  | some connections =>
    { s with
      handlers := s.handlers ++ [⟨s.nextId, uid, access, .reading, 0⟩]
      connections := connections
      nextId := s.nextId + 1 }

/-- One step of anybody. -/
def step (S : Setup) (s : Server) (e : ServerEvent) : Option Server :=
  match e.position with
  | some i => s.handlers[i]?.bind fun h => s.handlerStep S i h e
  | none =>
    match e with
    | .accepted peerCred => if s.phase = .accepting then some (s.accept S peerCred) else none
    | .internal e =>
      if e.operator then none else (s.daemon.step S.host e).map fun d => { s with daemon := d }
    | .signal => if s.phase = .accepting then some { s with phase := .draining false } else none
    | .stop =>
      if s.phase = .accepting ∧ s.stopRequested then
        some { s with phase := .draining true, stopRequested := false }
      else none
    | .drained timedOut =>
      match s.phase with
      | .draining byLocalApi =>
        if timedOut ∨ s.handlers = [] then
          some { s with
            handlers := []
            connections := .full _
            streams := .full _
            phase := .returned byLocalApi }
        else none
      | _ => none
    | _ => none

/-! ## What a step can do -/

end Server

/-- The request a stage carries out. -/
def ConnStage.request : ConnStage → Option Request
  | .dispatching request | .guarded request | .cleared request | .driving request
  | .streaming request => some request
  | .connecting host port | .dialing host port => some (.nc host port)
  | .reading | .splicing => none

/-- The step of the daemon that an event of the server is. -/
def ServerEvent.driven : ServerEvent → Option Event
  | .entered _ e | .internal e => some e
  | _ => none

/-- The request a verdict lets through. -/
def Verdict.grants : Verdict → Option Request
  | .dispatch request | .stream request _ => some request
  | .stop _ => some .shutdown
  | .skip | .refuse _ => none

theorem shutdownVerdict_ok {access : Access} {allowedByPolicy : Bool}
    (h : shutdownVerdict access allowedByPolicy = .ok ()) :
    authorize .shutdown access = .ok () ∧ allowedByPolicy = true := by
  unfold shutdownVerdict at h
  split at h
  · cases h
  · rename_i hauthorized
    cases allowedByPolicy
    · cases h
    · exact ⟨hauthorized, rfl⟩

/-- Whatever arm a request takes, it is let through only when it is authorized. -/
theorem judgeRequest_grants {request granted : Request} {access : Access} {allowed : Bool}
    (h : granted ∈ (judgeRequest request access allowed).grants) :
    authorize granted access = .ok () := by
  unfold judgeRequest at h
  split at h
  · cases h
    exact authorize_ok_iff.mpr fun hwrite => by cases hwrite
  · split at h <;> cases h
    assumption
  · split at h <;> cases h
    assumption
  · split at h <;> cases h
    rename_i hverdict
    exact (shutdownVerdict_ok hverdict).1
  · split at h <;> cases h
    assumption

theorem judge_grants {S : Setup} {granted : Request} {access : Access} {allowed : Bool}
    {line : List UInt8} (h : granted ∈ (judge S access allowed line).grants) :
    authorize granted access = .ok () := by
  unfold judge at h
  split at h
  · cases h
  · split at h
    · cases h
    · split at h
      · cases h
      · exact judgeRequest_grants h

theorem judgeRequest_stop {request : Request} {access : Access} {allowed : Bool} {message : Reply}
    (h : judgeRequest request access allowed = .stop message) :
    shutdownVerdict access allowed = .ok () ∧
      message = .ok "shutdown accepted; the daemon is stopping" := by
  unfold judgeRequest at h
  split at h
  · cases h
  · split at h <;> cases h
  · split at h <;> cases h
  · split at h <;> cases h
    exact ⟨by assumption, rfl⟩
  · split at h <;> cases h

theorem judge_stop {S : Setup} {access : Access} {allowed : Bool} {line : List UInt8}
    {message : Reply} (h : judge S access allowed line = .stop message) :
    shutdownVerdict access allowed = .ok () ∧
      message = .ok "shutdown accepted; the daemon is stopping" := by
  unfold judge at h
  split at h
  · cases h
  · split at h
    · cases h
    · split at h
      · cases h
      · exact judgeRequest_stop h

namespace Server

variable {S : Setup} {s t : Server} {i : Nat} {h h' : Handler} {e : ServerEvent}

/-- How a handler goes on as another: what it says, what it is granted, what it drives the daemon
    to and what it leaves of the stream permits. -/
structure Goes (S : Setup) (s : Server) (h : Handler) (e : ServerEvent) (said : List Reply)
    (granted : List Request) (d : Daemon) (streams : Pool maxStreamConnections) (h' : Handler) :
    Prop where
  who : h'.id = h.id ∧ h'.uid = h.uid ∧ h'.access = h.access
  /-- What it says and still owes pays for the lines it took. -/
  paid : said.length + h'.stage.owes + h.lines = h.stage.owes + h'.lines
  permit : (streams = s.streams ∧ h'.stage.holdsStream = h.stage.holdsStream) ∨
    (s.streams.tryAcquire = some streams ∧ h.stage.holdsStream = false ∧
      h'.stage.holdsStream = true) ∨
    (streams = s.streams.release ∧ h.stage.holdsStream = true ∧ h'.stage.holdsStream = false)
  authorized : ∀ request ∈ granted, authorize request h.access = .ok ()
  about : ∀ request ∈ h'.stage.request, h.stage.request = some request ∨ request ∈ granted
  drove : (e.driven = none ∧ d = s.daemon) ∨
    ∃ event request, e.driven = some event ∧ h.stage.request = some request ∧
      request.opens event = true ∧ s.daemon.step S.host event = some d

/-- **What a step of a handler can do.** -/
inductive Turn (S : Setup) (s : Server) (i : Nat) (h : Handler) (e : ServerEvent) : Server → Prop
  | skipped (hdriven : e.driven = none) : Turn S s i h e s
  /-- It is over, with a last word or without. -/
  | left (said : List Reply) (hdriven : e.driven = none) : Turn S s i h e ((s.say h said).leave i h)
  /-- It acknowledges a stop and is over. -/
  | stopped (line : List UInt8) (he : e = .received i line true)
      (hverdict : shutdownVerdict h.access (s.shutdownAllowed S) = .ok ()) :
      Turn S s i h e { (((s.say h [.ok "shutdown accepted; the daemon is stopping"]).grant h
        [.shutdown]).leave i h) with stopRequested := true }
  | went {said : List Reply} {granted : List Request} {d : Daemon}
      {streams : Pool maxStreamConnections} {h' : Handler}
      (goes : Goes S s h e said granted d streams h') :
      Turn S s i h e ({ ((s.say h said).grant h granted) with
        daemon := d, streams := streams }.move i h')

/-- A handler that goes on without the daemon or the stream permits moving. -/
theorem Goes.quiet {said : List Reply} {granted : List Request} (hdriven : e.driven = none)
    (hwho : h'.id = h.id ∧ h'.uid = h.uid ∧ h'.access = h.access)
    (hpaid : said.length + h'.stage.owes + h.lines = h.stage.owes + h'.lines)
    (hstream : h'.stage.holdsStream = h.stage.holdsStream)
    (hauthorized : ∀ request ∈ granted, authorize request h.access = .ok ())
    (habout : ∀ request ∈ h'.stage.request, h.stage.request = some request ∨ request ∈ granted) :
    Goes S s h e said granted s.daemon s.streams h' :=
  ⟨hwho, hpaid, .inl ⟨rfl, hstream⟩, hauthorized, habout, .inl ⟨hdriven, rfl⟩⟩

/-- A reply is one more thing a handler can do: it goes on, or the reply does not get through. -/
theorem reply_turn (message : Reply) (written : Bool) (hdriven : e.driven = none)
    (hwho : h'.id = h.id ∧ h'.uid = h.uid ∧ h'.access = h.access)
    (hpaid : 1 + h'.stage.owes + h.lines = h.stage.owes + h'.lines)
    (hstream : h'.stage.holdsStream = h.stage.holdsStream)
    (habout : h'.stage.request = none) : Turn S s i h e (s.reply i h h' message written) := by
  unfold reply
  split
  · have goes : Goes S s h e [message] [] s.daemon s.streams h' :=
      .quiet hdriven hwho hpaid hstream (fun _ hr => (List.not_mem_nil hr).elim)
        (fun _ hr => by rw [habout] at hr; cases hr)
    have hturn := Turn.went (i := i) goes
    rw [grant_nil] at hturn
    exact hturn
  · have hturn := Turn.left (S := S) (s := s) (i := i) (h := h) [] hdriven
    rw [say_nil] at hturn
    exact hturn

theorem replyLast_turn (message : Reply) (written : Bool) (hdriven : e.driven = none) :
    Turn S s i h e (s.replyLast i h message written) := by
  unfold replyLast
  split
  · exact .left [message] hdriven
  · have hturn := Turn.left (S := S) (s := s) (i := i) (h := h) [] hdriven
    rw [say_nil] at hturn
    exact hturn

theorem receive_turn {line : List UInt8} {written : Bool} (he : e = .received i line written)
    (hreading : h.stage = .reading) : Turn S s i h e (s.receive S i h line written) := by
  have hdriven : e.driven = none := by rw [he]; rfl
  have howes : h.stage.owes = 0 := by rw [hreading]; rfl
  have hholds : h.stage.holdsStream = false := by rw [hreading]; rfl
  unfold receive
  dsimp only
  split
  · exact .skipped hdriven
  · -- refused: the answer pays for the line
    exact reply_turn _ _ hdriven ⟨rfl, rfl, rfl⟩ (by dsimp only; omega) rfl
      (by dsimp only; rw [hreading]; rfl)
  · rename_i message hjudge
    obtain ⟨hverdict, rfl⟩ := judge_stop hjudge
    split
    · rename_i hwritten
      subst hwritten
      exact .stopped line he hverdict
    · have hturn := Turn.left (S := S) (s := s) (i := i) (h := h) [] hdriven
      rw [say_nil] at hturn
      exact hturn
  · rename_i request hjudge
    have goes : Goes S s h e [] [request] s.daemon s.streams
        { h with lines := h.lines + 1, stage := .dispatching request } := by
      refine .quiet hdriven ⟨rfl, rfl, rfl⟩ ?_ hholds.symm ?_ ?_
      · rw [howes]
        show 0 + 1 + h.lines = 0 + (h.lines + 1)
        omega
      · intro r hr
        obtain rfl := List.mem_singleton.mp hr
        exact judge_grants (by rw [hjudge]; rfl)
      · rintro r ⟨⟩
        exact .inr List.mem_cons_self
    have hturn := Turn.went (i := i) goes
    rw [say_nil] at hturn
    exact hturn
  · rename_i request keeps hjudge
    have hauthorized : authorize request h.access = .ok () := judge_grants (by rw [hjudge]; rfl)
    split
    · rename_i streams htake
      have goes : ∀ stage : ConnStage, stage.owes = 1 → stage.holdsStream = true →
          stage.request = some request → Goes S s h e [] [request] s.daemon streams
            { h with lines := h.lines + 1, stage := stage } := by
        intro stage howe hhold hrequest
        refine ⟨⟨rfl, rfl, rfl⟩, ?_, .inr (.inl ⟨htake, hholds, hhold⟩), ?_, ?_, .inl ⟨hdriven, rfl⟩⟩
        · rw [howes, howe]
          show 0 + 1 + h.lines = 0 + (h.lines + 1)
          omega
        · intro r hr
          rw [List.mem_singleton.mp hr]
          exact hauthorized
        · intro r hr
          obtain rfl := Option.some.inj (hrequest.symm.trans hr)
          exact .inr List.mem_cons_self
      have hturn := fun stage h1 h2 h3 => Turn.went (i := i) (goes stage h1 h2 h3)
      rw [say_nil] at hturn
      cases request <;> exact hturn _ rfl rfl rfl
    · split
      · exact reply_turn _ _ hdriven ⟨rfl, rfl, rfl⟩ (by dsimp only; omega) rfl
          (by dsimp only; rw [hreading]; rfl)
      · exact replyLast_turn _ _ hdriven

/-- A check that passes is about the same request, whose line is still to be answered. -/
theorem check_ok {stage stage' : ConnStage} (h : s.check S stage = .ok stage') :
    stage'.request = stage.request ∧ stage'.owes = stage.owes ∧
      stage'.holdsStream = stage.holdsStream := by
  unfold check at h
  split at h
  · split at h
    · cases h
    · split at h <;> cases h
      exact ⟨rfl, rfl, rfl⟩
  · split at h <;> cases h
    exact ⟨rfl, rfl, rfl⟩
  · split at h <;> cases h
    exact ⟨rfl, rfl, rfl⟩
  · cases h
    exact ⟨rfl, rfl, rfl⟩
  · cases h
    exact ⟨rfl, rfl, rfl⟩

/-- A check of a dispatched request: it answers, or the request goes on. -/
theorem checked_turn (written : Bool) (hdriven : e.driven = none) (howes : h.stage.owes = 1)
    (hholds : h.stage.holdsStream = false) : Turn S s i h e (match s.check S h.stage with
      | .error message => s.reply i h { h with stage := .reading } message written
      | .ok stage => s.move i { h with stage := stage }) := by
  split
  · exact reply_turn _ _ hdriven ⟨rfl, rfl, rfl⟩ (by rw [howes]; rfl) hholds.symm rfl
  · rename_i stage hcheck
    obtain ⟨hrequest, howe, hhold⟩ := check_ok hcheck
    have goes : Goes S s h e [] [] s.daemon s.streams { h with stage := stage } :=
      .quiet hdriven ⟨rfl, rfl, rfl⟩ (by rw [← howe, List.length_nil, Nat.zero_add]) hhold
        (fun _ hr => (List.not_mem_nil hr).elim) fun _ hr => .inl (hrequest.symm.trans hr)
    have hturn := Turn.went (i := i) goes
    rw [say_nil, grant_nil] at hturn
    exact hturn

/-- An `nc` that comes to nothing answers its line. -/
theorem refuseStream_turn (message : Reply) (written : Bool) (hdriven : e.driven = none)
    (howes : h.stage.owes = 1) (hholds : h.stage.holdsStream = true) :
    Turn S s i h e (s.refuseStream i h message written) := by
  unfold refuseStream
  split
  · have goes : Goes S s h e [message] [] s.daemon s.streams.release
        { h with stage := .reading } := by
      refine ⟨⟨rfl, rfl, rfl⟩, ?_, .inr (.inr ⟨rfl, hholds, rfl⟩),
        (fun _ hr => (List.not_mem_nil hr).elim), (fun _ hr => ?_), .inl ⟨hdriven, rfl⟩⟩
      · rw [howes]
        rfl
      · cases hr
    have hturn := Turn.went (i := i) goes
    rw [grant_nil] at hturn
    exact hturn
  · have hturn := Turn.left (S := S) (s := s) (i := i) (h := h) [] hdriven
    rw [say_nil] at hturn
    exact hturn

/-- **Every step of a handler is one of the turns.** -/
theorem handlerStep_turn (he : e.position = some i) (hstep : s.handlerStep S i h e = some t) :
    Turn S s i h e t := by
  cases e with
  | received j line written =>
    obtain rfl : j = i := Option.some.inj he
    dsimp only [handlerStep] at hstep
    split at hstep <;> cases hstep
    exact receive_turn rfl (by assumption)
  | overlong j written =>
    dsimp only [handlerStep] at hstep
    split at hstep <;> cases hstep
    exact replyLast_turn _ _ rfl
  | ended j =>
    cases hstep
    have hturn := Turn.left (S := S) (s := s) (i := i) (h := h) (e := .ended j) [] rfl
    rw [say_nil] at hturn
    exact hturn
  | checked j written =>
    dsimp only [handlerStep] at hstep
    have hturn := checked_turn (S := S) (s := s) (i := i) (h := h) (e := .checked j written) written
      rfl
    cases hstage : h.stage <;> rw [hstage] at hstep hturn <;> try cases hstep
    all_goals
      have hturn := hturn rfl rfl
      dsimp only at hstep
      split at hstep <;> cases hstep
      all_goals simp only [*] at hturn
      all_goals exact hturn
  | entered j event =>
    dsimp only [handlerStep] at hstep
    split at hstep
    · rename_i request hstage
      split at hstep
      · rename_i hopens
        obtain ⟨d, hd, rfl⟩ := Option.map_eq_some_iff.mp hstep
        have goes : Goes S s h (.entered j event) [] [] d s.streams
            { h with stage := .driving request } := by
          refine ⟨⟨rfl, rfl, rfl⟩, ?_, .inl ⟨rfl, ?_⟩, fun _ hr => (List.not_mem_nil hr).elim, ?_,
            .inr ⟨event, request, rfl, ?_, hopens, hd⟩⟩
          · rw [hstage]
            rw [List.length_nil, Nat.zero_add]
            rfl
          · rw [hstage]
            rfl
          · rintro r ⟨⟩
            exact .inl (by rw [hstage]; rfl)
          · rw [hstage]
            rfl
        have hturn := Turn.went (i := i) goes
        rw [say_nil, grant_nil] at hturn
        exact hturn
      · cases hstep
    · cases hstep
  | answered j written =>
    dsimp only [handlerStep] at hstep
    split at hstep
    · rename_i hstage
      cases hstep
      exact reply_turn _ _ rfl ⟨rfl, rfl, rfl⟩ (by rw [hstage]; rfl) (by rw [hstage]; rfl) rfl
    · rename_i hstage
      split at hstep <;> cases hstep
      exact reply_turn _ _ rfl ⟨rfl, rfl, rfl⟩ (by rw [hstage]; rfl) (by rw [hstage]; rfl) rfl
    · cases hstep
  | deviceTaken j written =>
    dsimp only [handlerStep] at hstep
    split at hstep
    · rename_i host port hstage
      have howes : h.stage.owes = 1 := by rw [hstage]; rfl
      have hholds : h.stage.holdsStream = true := by rw [hstage]; rfl
      split at hstep <;> cases hstep
      · have goes : Goes S s h (.deviceTaken j written) [] [] s.daemon s.streams
            { h with stage := .dialing host port } :=
          .quiet rfl ⟨rfl, rfl, rfl⟩ (by rw [howes]; rfl) hholds.symm
            (fun _ hr => (List.not_mem_nil hr).elim) fun _ hr => .inl (by rw [hstage]; exact hr)
        have hturn := Turn.went (i := i) goes
        rw [say_nil, grant_nil] at hturn
        exact hturn
      · exact refuseStream_turn _ _ rfl howes hholds
    · cases hstep
  | dialled j dial written =>
    dsimp only [handlerStep] at hstep
    split at hstep
    · rename_i host port hstage
      have howes : h.stage.owes = 1 := by rw [hstage]; rfl
      have hholds : h.stage.holdsStream = true := by rw [hstage]; rfl
      split at hstep <;> cases hstep
      · exact reply_turn _ _ rfl ⟨rfl, rfl, rfl⟩ (by rw [howes]; rfl) hholds.symm rfl
      · exact refuseStream_turn _ _ rfl howes hholds
    · cases hstep
  | _ => cases he

/-- **What a step of the server can do.** -/
inductive Happens (S : Setup) (s : Server) (e : ServerEvent) : Server → Prop
  | turn {i : Nat} {h : Handler} {t : Server} (hi : s.handlers[i]? = some h)
      (hturn : Turn S s i h e t) : Happens S s e t
  | dropped (peerCred : Option UInt32) (he : e = .accepted peerCred)
      (hfull : s.connections.tryAcquire = none) : Happens S s e s
  | accepted (peerCred : Option UInt32) (he : e = .accepted peerCred)
      {connections : Pool maxConnections} (htake : s.connections.tryAcquire = some connections) :
      Happens S s e { s with
        handlers := s.handlers ++
          [⟨s.nextId, (S.auth.forPeer peerCred).2, (S.auth.forPeer peerCred).1, .reading, 0⟩]
        connections := connections
        nextId := s.nextId + 1 }
  | internal {event : Event} {d : Daemon} (he : e = .internal event)
      (hown : event.operator = false) (hd : s.daemon.step S.host event = some d) :
      Happens S s e { s with daemon := d }
  | signal (he : e = .signal) (hphase : s.phase = .accepting) :
      Happens S s e { s with phase := .draining false }
  | stop (he : e = .stop) (hrequested : s.stopRequested = true) :
      Happens S s e { s with phase := .draining true, stopRequested := false }
  | drained {byLocalApi : Bool} (hdriven : e.driven = none)
      (hphase : s.phase = .draining byLocalApi) :
      Happens S s e { s with
        handlers := []
        connections := .full _
        streams := .full _
        phase := .returned byLocalApi }

theorem step_happens (hstep : step S s e = some t) : Happens S s e t := by
  unfold step at hstep
  split at hstep
  · rename_i i hposition
    obtain ⟨h, hi, hturn⟩ := Option.bind_eq_some_iff.mp hstep
    exact .turn hi (handlerStep_turn hposition hturn)
  · split at hstep
    · rename_i peerCred _
      split at hstep <;> cases hstep
      unfold accept
      dsimp only
      split
      · rename_i hfull
        exact .dropped peerCred rfl hfull
      · rename_i htake
        exact .accepted peerCred rfl htake
    · split at hstep
      · cases hstep
      · rename_i hown
        obtain ⟨d, hd, rfl⟩ := Option.map_eq_some_iff.mp hstep
        exact .internal rfl (Bool.eq_false_iff.mpr hown) hd
    · split at hstep <;> cases hstep
      exact .signal rfl (by assumption)
    · split at hstep <;> cases hstep
      rename_i hstop
      exact .stop rfl hstop.2
    · split at hstep
      · rename_i hphase
        split at hstep <;> cases hstep
        exact .drained rfl hphase
      · cases hstep
    · cases hstep

/-! ## Two runs -/

/-- A policy that lets the LocalAPI restart the daemon. -/
def restartPolicy : List PolicySource := [⟨[⟨"AllowTailscaledRestart", some "true"⟩], none⟩]

/-- The line of a stop. -/
def shutdownText : String := "\x7b\"cmd\":\"shutdown\"\x7d"

/-- A server of user 501. -/
def ownSetup : Setup where
  host := plainHost
  auth := ⟨501⟩
  parse text := if text = shutdownText then .ok .shutdown else .error "expected value"
  identityFederation := false

/-- The owner connects and stops the daemon. -/
def ownerStops : List ServerEvent :=
  [.accepted (some 501), .received 0 shutdownText.toByteArray.toList true, .stop, .drained false]

/-- Somebody else asks for the same. -/
def strangerAsks : List ServerEvent :=
  [.accepted (some 502), .received 0 shutdownText.toByteArray.toList true]

theorem judge_shutdownText :
    judge ownSetup .readWrite true shutdownText.toByteArray.toList =
      .stop (.ok "shutdown accepted; the daemon is stopping") := by
  decide +kernel

theorem judge_shutdownText_readOnly :
    judge ownSetup .readOnly true shutdownText.toByteArray.toList =
      .refuse (.error "shutdown access denied") := by
  decide +kernel

theorem restartBoot : ∃ d, Daemon.boot plainHost restartPolicy firstBoot = .ok d ∧
    booleanSetting (d.env plainHost).settings "AllowTailscaledRestart" false = true :=
  ⟨_, rfl, by decide +kernel⟩

/-- The run of `ownerStops`, whatever else the daemon is. -/
theorem ownerStops_run {d : Daemon}
    (hpolicy : booleanSetting (d.env plainHost).settings "AllowTailscaledRestart" false = true) :
    ∃ s, Run (Server.step ownSetup) (fun _ _ => True) (Server.start d) ownerStops s ∧
      s.phase = .returned true ∧ s.granted = [(some 501, .shutdown)] ∧ s.daemon = d := by
  obtain ⟨s₁, h₁, hs₁⟩ : ∃ s₁, Server.step ownSetup (start d) (.accepted (some 501)) = some s₁ ∧
      s₁ = { start d with
        handlers := [⟨0, some 501, .readWrite, .reading, 0⟩], connections := ⟨1, by decide⟩
        nextId := 1 } := ⟨_, rfl, rfl⟩
  have hallowed : s₁.shutdownAllowed ownSetup = true := by
    rw [hs₁]
    exact hpolicy
  obtain ⟨s₂, h₂, hs₂⟩ : ∃ s₂, Server.step ownSetup s₁
      (.received 0 shutdownText.toByteArray.toList true) = some s₂ ∧
      s₂ = { s₁ with
        handlers := [], connections := ⟨0, by decide⟩, stopRequested := true
        replies := [(0, .ok "shutdown accepted; the daemon is stopping")]
        granted := [(some 501, .shutdown)] } := by
    refine ⟨_, ?_, rfl⟩
    have hreceive : Server.step ownSetup s₁ (.received 0 shutdownText.toByteArray.toList true) =
        some (s₁.receive ownSetup 0 ⟨0, some 501, .readWrite, .reading, 0⟩
          shutdownText.toByteArray.toList true) := by
      rw [hs₁]
      rfl
    rw [hreceive]
    unfold receive
    rw [hallowed, judge_shutdownText, hs₁]
    rfl
  subst hs₂
  subst hs₁
  exact ⟨_, .cons trivial h₁ (.cons trivial h₂ (.cons trivial rfl (.cons trivial rfl (.nil _)))), rfl,
    rfl, rfl⟩

theorem strangerAsks_run {d : Daemon}
    (hpolicy : booleanSetting (d.env plainHost).settings "AllowTailscaledRestart" false = true) :
    ∃ s, Run (Server.step ownSetup) (fun _ _ => True) (Server.start d) strangerAsks s ∧
      s.handlers = [⟨0, some 502, .readOnly, .reading, 1⟩] ∧ s.granted = [] := by
  obtain ⟨s₁, h₁, hs₁⟩ : ∃ s₁, Server.step ownSetup (start d) (.accepted (some 502)) = some s₁ ∧
      s₁ = { start d with
        handlers := [⟨0, some 502, .readOnly, .reading, 0⟩], connections := ⟨1, by decide⟩
        nextId := 1 } := ⟨_, rfl, rfl⟩
  have hallowed : s₁.shutdownAllowed ownSetup = true := by
    rw [hs₁]
    exact hpolicy
  have hreceive : Server.step ownSetup s₁ (.received 0 shutdownText.toByteArray.toList true) =
      some (s₁.receive ownSetup 0 ⟨0, some 502, .readOnly, .reading, 0⟩
        shutdownText.toByteArray.toList true) := by
    rw [hs₁]
    rfl
  refine ⟨_, .cons trivial h₁ (.cons trivial hreceive (.nil _)), ?_, ?_⟩
  all_goals
    unfold receive
    rw [hallowed, judge_shutdownText_readOnly, hs₁]
    rfl

/-! ## Budgets -/

/-- The permits in use are those of the handlers. -/
structure Budgeted (s : Server) : Prop where
  connections : Accounts s.connections (fun _ => true) s.handlers
  streams : Accounts s.streams (·.stage.holdsStream) s.handlers

theorem Budgeted.start (d : Daemon) : Budgeted (start d) :=
  ⟨.nobody _ _, .nobody _ _⟩

theorem Budgeted.turn (hs : Budgeted s) (hi : s.handlers[i]? = some h)
    (hturn : Turn S s i h e t) : Budgeted t := by
  cases hturn with
  | skipped => exact hs
  | left | stopped => exact ⟨hs.connections.left hi, hs.streams.left hi⟩
  | went goes =>
    refine ⟨hs.connections.moved hi rfl, ?_⟩
    rcases goes.permit with ⟨rfl, hkept⟩ | ⟨htake, hbefore, hafter⟩ | ⟨rfl, hbefore, hafter⟩
    · exact hs.streams.moved hi hkept
    · exact hs.streams.took hi htake hbefore hafter
    · exact hs.streams.dropped hi hbefore hafter

theorem Budgeted.step (hs : Budgeted s) (hstep : step S s e = some t) : Budgeted t := by
  cases step_happens hstep with
  | turn hi hturn => exact hs.turn hi hturn
  | dropped => exact hs
  | accepted _ _ htake => exact ⟨hs.connections.joined htake rfl, hs.streams.joined_without rfl⟩
  | internal | signal | stop => exact ⟨hs.connections, hs.streams⟩
  | drained => exact ⟨.nobody _ _, .nobody _ _⟩

/-- **The budgets hold.**  Never more than 128 connections are served and never more than 32 of them
    as streams, so that a server full of connections has at least 96 for short commands; a
    connection is dropped, and a stream refused, only while the whole budget is in use. -/
theorem localapi_budgets {d : Daemon} {es : List ServerEvent}
    (hrun : Run (Server.step S) (fun _ _ => True) (Server.start d) es s) :
    s.handlers.length ≤ 128 ∧ s.handlers.countP (·.stage.holdsStream) ≤ 32 ∧
      (s.handlers.length = 128 → 96 ≤ s.handlers.countP (!·.stage.holdsStream)) ∧
      (s.connections.tryAcquire = none ↔ s.handlers.length = 128) ∧
      (s.streams.tryAcquire = none ↔ s.handlers.countP (·.stage.holdsStream) = 32) := by
  have hs : Budgeted s :=
    hrun.invariant (fun _ _ _ hs _ hstep => hs.step hstep) (Budgeted.start d)
  have hconnections := hs.connections.bounded
  have hstreams := hs.streams.bounded
  have hall : s.handlers.countP (fun _ => true) = s.handlers.length :=
    congrFun List.countP_true _
  have hsplit := List.length_eq_countP_add_countP (·.stage.holdsStream) (l := s.handlers)
  rw [hall] at hconnections
  refine ⟨hconnections, hstreams, fun hfull => ?_, ?_, ?_⟩
  · have hle : s.handlers.countP (·.stage.holdsStream) ≤ 32 := hstreams
    have heq : s.handlers.countP (fun h => decide ¬h.stage.holdsStream = true) =
        s.handlers.countP (!·.stage.holdsStream) := by
      congr 1
      funext h
      cases h.stage.holdsStream <;> rfl
    omega
  · rw [Pool.tryAcquire_eq_none, hs.connections, hall]
    rfl
  · rw [Pool.tryAcquire_eq_none, hs.streams]
    rfl

/-- The budgets of a server in use. -/
theorem localapi_budgets_strangerAsks :
    ∃ d s, Daemon.boot plainHost restartPolicy firstBoot = .ok d ∧
      Run (Server.step ownSetup) (fun _ _ => True) (Server.start d) strangerAsks s ∧
      s.handlers ≠ [] ∧ s.handlers.length ≤ 128 := by
  obtain ⟨d, hboot, hpolicy⟩ := restartBoot
  obtain ⟨s, hrun, hhandlers, -⟩ := strangerAsks_run hpolicy
  refine ⟨d, s, hboot, hrun, ?_, (localapi_budgets hrun).1⟩
  rw [hhandlers]
  exact List.cons_ne_nil _ _

/-! ## Write access -/

/-- Everything a handler may do stands under the user the kernel named when it was accepted. -/
structure Guarded (S : Setup) (d : Daemon) (past : List ServerEvent) (s : Server) : Prop where
  /-- The daemon behind the server is one that ran the steps driven so far. -/
  daemon : Run (Daemon.step S.host) (fun _ _ => True) d (past.filterMap ServerEvent.driven) s.daemon
  /-- Who is served was accepted, and has the access of whom the kernel named. -/
  peers : ∀ h ∈ s.handlers, ∃ peerCred, .accepted peerCred ∈ past ∧
    (h.access, h.uid) = S.auth.forPeer peerCred
  /-- What a handler carries out was granted. -/
  about : ∀ h ∈ s.handlers, ∀ request ∈ h.stage.request, (h.uid, request) ∈ s.granted
  granted : ∀ g ∈ s.granted, (g.2.requiresWrite = true → S.auth.Writer g.1) ∧
    ∃ peerCred, .accepted peerCred ∈ past ∧ g.1 = (S.auth.forPeer peerCred).2
  /-- What an operator does to the daemon was granted. -/
  driven : ∀ event ∈ past.filterMap ServerEvent.driven, event.operator = true →
    ∃ g ∈ s.granted, g.2.opens event = true

variable {d : Daemon} {past : List ServerEvent}

/-- A grant to a handler of the server is a grant to a user it accepted. -/
theorem Guarded.grants (hs : Guarded S d past s) (hmem : h ∈ s.handlers) {request : Request}
    (hauthorized : authorize request h.access = .ok ()) :
    (request.requiresWrite = true → S.auth.Writer h.uid) ∧
      ∃ peerCred, .accepted peerCred ∈ past ++ [e] ∧ h.uid = (S.auth.forPeer peerCred).2 := by
  obtain ⟨peerCred, haccepted, hpeer⟩ := hs.peers h hmem
  have haccess : h.access = (S.auth.forPeer peerCred).1 := congrArg Prod.fst hpeer
  have huid : h.uid = (S.auth.forPeer peerCred).2 := congrArg Prod.snd hpeer
  refine ⟨fun hwrite => ?_, peerCred, List.mem_append_left _ haccepted, huid⟩
  rw [huid]
  apply AuthPolicy.forPeer_canWrite.mp
  rw [← haccess]
  exact authorize_ok_iff.mp hauthorized hwrite

/-- A server whose daemon stands still and that forgets handlers at most. -/
theorem Guarded.kept (hs : Guarded S d past s) (hdriven : e.driven = none)
    (hdaemon : t.daemon = s.daemon) (hhandlers : ∀ h ∈ t.handlers, h ∈ s.handlers)
    (hgranted : t.granted = s.granted) : Guarded S d (past ++ [e]) t := by
  have hsame : (past ++ [e]).filterMap ServerEvent.driven = past.filterMap ServerEvent.driven := by
    rw [List.filterMap_append, List.filterMap_cons_none hdriven]
    exact List.append_nil _
  refine ⟨?_, ?_, ?_, ?_, ?_⟩
  · rw [hsame, hdaemon]
    exact hs.daemon
  · intro h hmem
    obtain ⟨peerCred, haccepted, hpeer⟩ := hs.peers h (hhandlers h hmem)
    exact ⟨peerCred, List.mem_append_left _ haccepted, hpeer⟩
  · intro h hmem
    rw [hgranted]
    exact hs.about h (hhandlers h hmem)
  · rw [hgranted]
    intro g hg
    obtain ⟨hwriter, peerCred, haccepted, huid⟩ := hs.granted g hg
    exact ⟨hwriter, peerCred, List.mem_append_left _ haccepted, huid⟩
  · rw [hsame, hgranted]
    exact hs.driven

/-- A grant more. -/
theorem Guarded.grant (hs : Guarded S d past s) (hmem : h ∈ s.handlers) {requests : List Request}
    (hauthorized : ∀ request ∈ requests, authorize request h.access = .ok ()) :
    ∀ g ∈ s.granted ++ requests.map (h.uid, ·), (g.2.requiresWrite = true → S.auth.Writer g.1) ∧
      ∃ peerCred, .accepted peerCred ∈ past ++ [e] ∧ g.1 = (S.auth.forPeer peerCred).2 := by
  intro g hg
  rcases List.mem_append.mp hg with hg | hg
  · obtain ⟨hwriter, peerCred, haccepted, huid⟩ := hs.granted g hg
    exact ⟨hwriter, peerCred, List.mem_append_left _ haccepted, huid⟩
  · obtain ⟨request, hrequest, rfl⟩ := List.mem_map.mp hg
    exact hs.grants hmem (hauthorized request hrequest)

theorem Guarded.turn (hs : Guarded S d past s) (hi : s.handlers[i]? = some h)
    (hturn : Turn S s i h e t) : Guarded S d (past ++ [e]) t := by
  have hmem : h ∈ s.handlers := List.mem_of_getElem? hi
  cases hturn with
  | skipped hdriven => exact hs.kept hdriven rfl (fun _ hh => hh) rfl
  | left _ hdriven => exact hs.kept hdriven rfl (fun _ hh => List.mem_of_mem_eraseIdx hh) rfl
  | stopped line he hverdict =>
    have hleft : Guarded S d (past ++ [e]) (s.leave i h) :=
      hs.kept (by rw [he]; rfl) rfl (fun _ hh => List.mem_of_mem_eraseIdx hh) rfl
    refine ⟨hleft.daemon, hleft.peers, ?_, hs.grant hmem ?_, ?_⟩
    · intro h' hh' request hrequest
      exact List.mem_append_left _ (hleft.about h' hh' request hrequest)
    · intro request hrequest
      rw [List.mem_singleton.mp hrequest]
      exact (shutdownVerdict_ok hverdict).1
    · intro event hevent hoperator
      obtain ⟨g, hg, hopens⟩ := hleft.driven event hevent hoperator
      exact ⟨g, List.mem_append_left _ hg, hopens⟩
  | @went said granted d' streams h' goes =>
    obtain ⟨-, huid, haccess⟩ := goes.who
    -- whom the handler serves does not change, and what it carries out was granted
    have habout : ∀ request ∈ h'.stage.request,
        (h.uid, request) ∈ s.granted ++ granted.map (h.uid, ·) := by
      intro request hrequest
      rcases goes.about request hrequest with hbefore | hnow
      · exact List.mem_append_left _ (hs.about h hmem request hbefore)
      · exact List.mem_append_right _ (List.mem_map_of_mem hnow)
    have hpeers : ∀ c ∈ s.handlers.set i h', ∃ peerCred, .accepted peerCred ∈ past ++ [e] ∧
        (c.access, c.uid) = S.auth.forPeer peerCred := by
      intro c hc
      rcases List.mem_or_eq_of_mem_set hc with hc | rfl
      · obtain ⟨peerCred, haccepted, hpeer⟩ := hs.peers c hc
        exact ⟨peerCred, List.mem_append_left _ haccepted, hpeer⟩
      · obtain ⟨peerCred, haccepted, hpeer⟩ := hs.peers h hmem
        exact ⟨peerCred, List.mem_append_left _ haccepted, by rw [haccess, huid, hpeer]⟩
    refine ⟨?_, hpeers, ?_, hs.grant hmem goes.authorized, ?_⟩
    · rcases goes.drove with ⟨hdriven, rfl⟩ | ⟨event, request, hdriven, -, -, hd⟩
      · rw [List.filterMap_append, List.filterMap_cons_none hdriven]
        exact (List.append_nil _).symm ▸ hs.daemon
      · rw [List.filterMap_append, List.filterMap_cons_some hdriven]
        exact hs.daemon.append (.single trivial hd)
    · intro c hc request hrequest
      rcases List.mem_or_eq_of_mem_set hc with hc | rfl
      · exact List.mem_append_left _ (hs.about c hc request hrequest)
      · rw [huid]
        exact habout request hrequest
    · intro event hevent hoperator
      rw [List.filterMap_append, List.mem_append] at hevent
      rcases hevent with hevent | hevent
      · obtain ⟨g, hg, hopens⟩ := hs.driven event hevent hoperator
        exact ⟨g, List.mem_append_left _ hg, hopens⟩
      · obtain ⟨e', he', hnow⟩ := List.mem_filterMap.mp hevent
        obtain rfl := List.mem_singleton.mp he'
        rcases goes.drove with ⟨hdriven, -⟩ | ⟨event', request, hdriven, hrequest, hopens, -⟩
        · rw [hdriven] at hnow
          cases hnow
        · obtain rfl := Option.some.inj (hdriven.symm.trans hnow)
          exact ⟨(h.uid, request), List.mem_append_left _ (hs.about h hmem request hrequest), hopens⟩

theorem Guarded.step (hs : Guarded S d past s) (hstep : Server.step S s e = some t) :
    Guarded S d (past ++ [e]) t := by
  cases step_happens hstep with
  | turn hi hturn => exact hs.turn hi hturn
  | dropped _ he => exact hs.kept (by rw [he]; rfl) rfl (fun _ hh => hh) rfl
  | signal he | stop he => exact hs.kept (by rw [he]; rfl) rfl (fun _ hh => hh) rfl
  | drained hdriven => exact hs.kept hdriven rfl (fun _ hh => (List.not_mem_nil hh).elim) rfl
  | accepted peerCred he =>
    have hkept : Guarded S d (past ++ [e]) s :=
      hs.kept (by rw [he]; rfl) rfl (fun _ hh => hh) rfl
    refine ⟨hkept.daemon, ?_, ?_, hkept.granted, hkept.driven⟩
    · intro c hc
      rcases List.mem_append.mp hc with hc | hc
      · exact hkept.peers c hc
      · obtain rfl := List.mem_singleton.mp hc
        exact ⟨peerCred, List.mem_append_right _ (by rw [he]; exact List.mem_cons_self), rfl⟩
    · intro c hc request hrequest
      rcases List.mem_append.mp hc with hc | hc
      · exact hkept.about c hc request hrequest
      · obtain rfl := List.mem_singleton.mp hc
        cases hrequest
  | @internal event d' he hown hd =>
    have hevents : (past ++ [e]).filterMap ServerEvent.driven =
        past.filterMap ServerEvent.driven ++ [event] := by
      rw [he, List.filterMap_append]
      rfl
    refine ⟨?_, ?_, hs.about, ?_, ?_⟩
    · rw [hevents]
      exact hs.daemon.append (.single trivial hd)
    · intro c hc
      obtain ⟨peerCred, haccepted, hpeer⟩ := hs.peers c hc
      exact ⟨peerCred, List.mem_append_left _ haccepted, hpeer⟩
    · intro g hg
      obtain ⟨hwriter, peerCred, haccepted, huid⟩ := hs.granted g hg
      exact ⟨hwriter, peerCred, List.mem_append_left _ haccepted, huid⟩
    · intro ev hev hoperator
      rw [hevents, List.mem_append, List.mem_singleton] at hev
      rcases hev with hev | rfl
      · exact hs.driven ev hev hoperator
      · rw [hown] at hoperator
        cases hoperator

theorem guarded_of_run {es : List ServerEvent}
    (hrun : Run (Server.step S) (fun _ _ => True) (Server.start d) es s) : Guarded S d es s :=
  hrun.invariant_history (fun _ _ _ _ hs _ hstep => hs.step hstep)
    ⟨.nil d, fun _ hh => (List.not_mem_nil hh).elim, fun _ hh => (List.not_mem_nil hh).elim,
      fun _ hg => (List.not_mem_nil hg).elim, fun _ he => (List.not_mem_nil he).elim⟩

/-- **Only writers write.**  The daemon behind the server is one that ran the driven steps; every
    request let through that requires write was let through for root or the owner of the daemon,
    and so was every request behind a step an operator caused; and whoever was let through had been
    named by the kernel at an accept. -/
theorem only_writers_write {es : List ServerEvent}
    (hrun : Run (Server.step S) (fun _ _ => True) (Server.start d) es s) :
    Run (Daemon.step S.host) (fun _ _ => True) d (es.filterMap ServerEvent.driven) s.daemon ∧
      (∀ uid request, (uid, request) ∈ s.granted → request.requiresWrite = true →
        S.auth.Writer uid) ∧
      (∀ event ∈ es.filterMap ServerEvent.driven, event.operator = true →
        ∃ peerCred request, .accepted peerCred ∈ es ∧ request.opens event = true ∧
          S.auth.Writer (S.auth.forPeer peerCred).2 ∧
          ((S.auth.forPeer peerCred).2, request) ∈ s.granted) := by
  have hs : Guarded S d es s := guarded_of_run hrun
  refine ⟨hs.daemon, fun uid request hg => (hs.granted _ hg).1, fun event hevent hoperator => ?_⟩
  obtain ⟨⟨uid, request⟩, hg, hopens⟩ := hs.driven event hevent hoperator
  obtain ⟨hwriter, peerCred, haccepted, huid⟩ := hs.granted _ hg
  dsimp only at huid hwriter hopens
  subst huid
  exact ⟨peerCred, request, haccepted, hopens, hwriter (opens_requiresWrite hopens).1, hg⟩

/-- The owner's stop was granted, and to the owner. -/
theorem only_writers_write_owner :
    ∃ d s, Daemon.boot plainHost restartPolicy firstBoot = .ok d ∧
      Run (Server.step ownSetup) (fun _ _ => True) (Server.start d) ownerStops s ∧
      (some 501, .shutdown) ∈ s.granted ∧ ownSetup.auth.Writer (some 501) := by
  obtain ⟨d, hboot, hpolicy⟩ := restartBoot
  obtain ⟨s, hrun, -, hgranted, -⟩ := ownerStops_run hpolicy
  have hmem : (some 501, Request.shutdown) ∈ s.granted := by
    rw [hgranted]
    exact List.mem_cons_self
  exact ⟨d, s, hboot, hrun, hmem, (only_writers_write hrun).2.1 _ _ hmem rfl⟩

/-! ## One line, one reply -/

/-- How many replies went to a connection. -/
def answersTo (s : Server) (id : Nat) : Nat := s.replies.countP (·.1 = id)

/-- The replies of a connection, and the one it is still owed, are as many as its lines. -/
structure Paired (s : Server) : Prop where
  ids : (s.handlers.map (·.id)).Nodup
  below : ∀ h ∈ s.handlers, h.id < s.nextId
  repliesBelow : ∀ r ∈ s.replies, r.1 < s.nextId
  paired : ∀ h ∈ s.handlers, s.answersTo h.id + h.stage.owes = h.lines

theorem answersTo_say (s : Server) (h : Handler) (said : List Reply) (id : Nat) :
    (s.say h said).answersTo id = s.answersTo id + if h.id = id then said.length else 0 := by
  show (s.replies ++ said.map (h.id, ·)).countP (·.1 = id) = _
  rw [List.countP_append, List.countP_map]
  congr 1
  split
  · rename_i hid
    exact List.countP_eq_length.mpr fun _ _ => decide_eq_true hid
  · rename_i hid
    exact List.countP_eq_zero.mpr fun _ _ => by simpa using hid

/-- A handler that goes on keeps its id, so that the ids are still the same. -/
theorem ids_set {handlers : List Handler} (hi : handlers[i]? = some h) (hid : h'.id = h.id) :
    ((handlers.set i h').map (·.id)).Perm (handlers.map (·.id)) := by
  have hafter := (set_perm (b := h') hi).map (·.id)
  have hbefore := (perm_cons_eraseIdx hi).map (·.id)
  rw [List.map_cons, hid] at hafter
  exact hafter.trans hbefore

/-- The other handlers have other ids. -/
theorem other_id {handlers : List Handler} {c : Handler} (hids : (handlers.map (·.id)).Nodup)
    (hi : handlers[i]? = some h) (hc : c ∈ handlers.eraseIdx i) : h.id ≠ c.id := by
  have hcons := ((perm_cons_eraseIdx hi).map (·.id)).nodup_iff.mpr hids
  rw [List.map_cons, List.nodup_cons] at hcons
  intro heq
  exact hcons.1 (heq ▸ List.mem_map_of_mem hc)

/-- What a handler says is no answer to the others. -/
theorem answersTo_other {handlers : List Handler} {c : Handler} {said : List Reply}
    (hids : (handlers.map (·.id)).Nodup) (hi : handlers[i]? = some h)
    (hc : c ∈ handlers.eraseIdx i) : (s.say h said).answersTo c.id = s.answersTo c.id := by
  rw [answersTo_say, if_neg (other_id hids hi hc), Nat.add_zero]

theorem Paired.said (hs : Paired s) (hmem : h ∈ s.handlers) (said : List Reply) :
    ∀ r ∈ (s.say h said).replies, r.1 < s.nextId := by
  intro r hr
  rcases List.mem_append.mp hr with hr | hr
  · exact hs.repliesBelow r hr
  · obtain ⟨_, -, rfl⟩ := List.mem_map.mp hr
    exact hs.below h hmem

/-- A handler leaves, with a last word or without. -/
theorem Paired.left (hs : Paired s) (hi : s.handlers[i]? = some h) (said : List Reply) :
    Paired ((s.say h said).leave i h) := by
  have herase : ∀ {c}, c ∈ s.handlers.eraseIdx i → c ∈ s.handlers := List.mem_of_mem_eraseIdx
  refine ⟨hs.ids.sublist ((List.eraseIdx_sublist _ i).map _), fun c hc => hs.below c (herase hc),
    hs.said (List.mem_of_getElem? hi) said, fun c hc => ?_⟩
  rw [← hs.paired c (herase hc)]
  exact congrArg (· + _) (answersTo_other hs.ids hi hc)

theorem Paired.turn (hs : Paired s) (hi : s.handlers[i]? = some h)
    (hturn : Turn S s i h e t) : Paired t := by
  have hmem : h ∈ s.handlers := List.mem_of_getElem? hi
  cases hturn with
  | skipped => exact hs
  | left said => exact hs.left hi said
  | stopped =>
    have hleft := hs.left hi [.ok "shutdown accepted; the daemon is stopping"]
    exact ⟨hleft.ids, hleft.below, hleft.repliesBelow, hleft.paired⟩
  | @went said granted d streams h' goes =>
    obtain ⟨hid, -, -⟩ := goes.who
    have hmember : ∀ c ∈ s.handlers.set i h', c = h' ∨ c ∈ s.handlers.eraseIdx i := fun c hc =>
      List.mem_cons.mp ((set_perm hi).mem_iff.mp hc)
    refine ⟨(ids_set hi hid).nodup_iff.mpr hs.ids, fun c hc => ?_, hs.said hmem said,
      fun c hc => ?_⟩
    · rcases hmember c hc with rfl | hc
      · rw [hid]
        exact hs.below h hmem
      · exact hs.below c (List.mem_of_mem_eraseIdx hc)
    · show (s.say h said).answersTo c.id + c.stage.owes = c.lines
      rcases hmember c hc with rfl | hc
      · have hbefore := hs.paired h hmem
        have hpaid := goes.paid
        rw [answersTo_say, hid, if_pos rfl]
        omega
      · rw [answersTo_other hs.ids hi hc]
        exact hs.paired c (List.mem_of_mem_eraseIdx hc)

theorem Paired.step (hs : Paired s) (hstep : Server.step S s e = some t) : Paired t := by
  cases step_happens hstep with
  | turn hi hturn => exact hs.turn hi hturn
  | dropped => exact hs
  | internal | signal | stop => exact ⟨hs.ids, hs.below, hs.repliesBelow, hs.paired⟩
  | drained =>
    exact ⟨List.nodup_nil, fun _ hc => (List.not_mem_nil hc).elim, hs.repliesBelow,
      fun _ hc => (List.not_mem_nil hc).elim⟩
  | accepted peerCred =>
    refine ⟨?_, fun c hc => ?_, fun r hr => Nat.lt_succ_of_lt (hs.repliesBelow r hr), fun c hc => ?_⟩
    · rw [List.map_append, List.nodup_append]
      refine ⟨hs.ids, List.nodup_singleton _, fun a ha b hb => ?_⟩
      obtain ⟨c, hc, rfl⟩ := List.mem_map.mp ha
      obtain rfl := List.mem_singleton.mp hb
      exact Nat.ne_of_lt (hs.below c hc)
    · rcases List.mem_append.mp hc with hc | hc
      · exact Nat.lt_succ_of_lt (hs.below c hc)
      · obtain rfl := List.mem_singleton.mp hc
        exact Nat.lt_succ_self _
    · rcases List.mem_append.mp hc with hc | hc
      · exact hs.paired c hc
      · -- a new connection has an id no reply carries
        obtain rfl := List.mem_singleton.mp hc
        have hnone : s.answersTo s.nextId = 0 := List.countP_eq_zero.mpr fun r hr => by
          have := hs.repliesBelow r hr
          simp only [decide_eq_true_eq]
          omega
        show s.answersTo s.nextId + 0 = 0
        rw [hnone]

/-- **One line, one reply.**  However the handlers interleave, the replies that went to a connection
    and the one its handler still owes are as many as the lines it took; a handler that reads its
    next line has answered all the others. -/
theorem replies_match_lines {es : List ServerEvent}
    (hrun : Run (Server.step S) (fun _ _ => True) (Server.start d) es s) :
    ∀ h ∈ s.handlers, (s.replies.filter (·.1 = h.id)).length + h.stage.owes = h.lines ∧
      (h.stage = .reading → (s.replies.filter (·.1 = h.id)).length = h.lines) := by
  have hs : Paired s := hrun.invariant (fun _ _ _ hs _ hstep => hs.step hstep)
    ⟨List.nodup_nil, fun _ hc => (List.not_mem_nil hc).elim,
      fun _ hc => (List.not_mem_nil hc).elim, fun _ hc => (List.not_mem_nil hc).elim⟩
  intro h hmem
  have hpaired := hs.paired h hmem
  rw [answersTo, List.countP_eq_length_filter] at hpaired
  refine ⟨hpaired, fun hreading => ?_⟩
  rw [hreading] at hpaired
  exact hpaired

/-- The stranger is answered. -/
theorem replies_match_lines_stranger :
    ∃ d s, Daemon.boot plainHost restartPolicy firstBoot = .ok d ∧
      Run (Server.step ownSetup) (fun _ _ => True) (Server.start d) strangerAsks s ∧
      (s.replies.filter (·.1 = 0)).length = 1 := by
  obtain ⟨d, hboot, hpolicy⟩ := restartBoot
  obtain ⟨s, hrun, hhandlers, -⟩ := strangerAsks_run hpolicy
  have hall := replies_match_lines hrun
  rw [hhandlers] at hall
  exact ⟨d, s, hboot, hrun, (hall _ List.mem_cons_self).2 rfl⟩

/-! ## The stop -/

end Server

/-- How the accept loop ended, and with it what `serve` returns: the stop of the LocalAPI is an
    error, for the service manager to start the daemon again. -/
def ServerPhase.stoppedByLocalApi : ServerPhase → Option Bool
  | .accepting => none
  | .draining byLocalApi | .returned byLocalApi => some byLocalApi

namespace Server

/-- A handler was told, in a run, that it stops the daemon, and it was allowed to. -/
def StopAcknowledged (S : Setup) (d : Daemon) (es : List ServerEvent) (s : Server) : Prop :=
  ∃ es₁ i line es₂ t h, es = es₁ ++ .received i line true :: es₂ ∧
    Run (Server.step S) (fun _ _ => True) (Server.start d) es₁ t ∧ t.handlers[i]? = some h ∧
    shutdownVerdict h.access (t.shutdownAllowed S) = .ok () ∧
    (h.id, .ok "shutdown accepted; the daemon is stopping") ∈ s.replies

/-- A stop that is asked for, or taken, was acknowledged; any other end was a signal. -/
structure Accounted (S : Setup) (d : Daemon) (past : List ServerEvent) (s : Server) : Prop where
  run : Run (Server.step S) (fun _ _ => True) (Server.start d) past s
  asked : s.stopRequested = true ∨ s.phase.stoppedByLocalApi = some true →
    StopAcknowledged S d past s
  signalled : s.phase.stoppedByLocalApi = some false → .signal ∈ past

/-- What was said stays said. -/
theorem step_replies (hstep : Server.step S s e = some t) : ∀ r ∈ s.replies, r ∈ t.replies := by
  intro r hr
  cases step_happens hstep with
  | turn hi hturn =>
    cases hturn with
    | skipped => exact hr
    | left | stopped | went => exact List.mem_append_left _ hr
  | dropped | accepted | internal | signal | stop | drained => exact hr

theorem StopAcknowledged.step (hs : StopAcknowledged S d past s)
    (hstep : Server.step S s e = some t) : StopAcknowledged S d (past ++ [e]) t := by
  obtain ⟨es₁, i, line, es₂, u, h, rfl, hrun, hi, hverdict, hsaid⟩ := hs
  exact ⟨es₁, i, line, es₂ ++ [e], u, h, by rw [List.append_assoc]; rfl, hrun, hi, hverdict,
    step_replies hstep _ hsaid⟩

theorem Accounted.step (hs : Accounted S d past s) (hstep : Server.step S s e = some t) :
    Accounted S d (past ++ [e]) t := by
  have hrun := hs.run.append (.single trivial hstep)
  have hkept : ∀ {u : Server}, u = t →
      (u.stopRequested = true ∨ u.phase.stoppedByLocalApi = some true →
        s.stopRequested = true ∨ s.phase.stoppedByLocalApi = some true) →
      (u.phase.stoppedByLocalApi = some false → s.phase.stoppedByLocalApi = some false) →
      Accounted S d (past ++ [e]) t := by
    rintro _ rfl hasked hsignalled
    exact ⟨hrun, fun h => (hs.asked (hasked h)).step hstep,
      fun h => List.mem_append_left _ (hs.signalled (hsignalled h))⟩
  cases step_happens hstep with
  | turn hi hturn =>
    cases hturn with
    | stopped line he hverdict =>
      subst he
      refine ⟨hrun, fun _ => ⟨past, _, line, [], s, _, rfl, hs.run, hi, hverdict, ?_⟩, fun h => ?_⟩
      · exact List.mem_append_right _ List.mem_cons_self
      · exact List.mem_append_left _ (hs.signalled h)
    | skipped | left | went => exact hkept rfl id id
  | dropped | accepted | internal => exact hkept rfl id id
  | signal he hphase =>
    refine ⟨hrun, fun h => (hs.asked (h.imp_right fun h => by cases h)).step hstep, fun _ => ?_⟩
    rw [he]
    exact List.mem_append_right _ List.mem_cons_self
  | stop _ hrequested => exact hkept rfl (fun _ => .inl hrequested) (fun h => by cases h)
  | drained _ hphase => exact hkept rfl (by rw [hphase]; exact id) (by rw [hphase]; exact id)

/-- **The server stops by itself for a writer only.**  When it ended as stopped over the LocalAPI,
    some handler of root or the owner had asked while the policy allowed it, and had been told so;
    when it ended otherwise it had got the signal. -/
theorem stopped_by_writer {es : List ServerEvent}
    (hrun : Run (Server.step S) (fun _ _ => True) (Server.start d) es s) :
    (s.phase.stoppedByLocalApi = some true → ∃ es₁ i line es₂ t h,
      es = es₁ ++ .received i line true :: es₂ ∧
      Run (Server.step S) (fun _ _ => True) (Server.start d) es₁ t ∧
      t.handlers[i]? = some h ∧ S.auth.Writer h.uid ∧ t.shutdownAllowed S = true ∧
      (h.id, .ok "shutdown accepted; the daemon is stopping") ∈ s.replies) ∧
    (s.phase.stoppedByLocalApi = some false → .signal ∈ es) := by
  have hs : Accounted S d es s := hrun.invariant_history
    (fun _ _ _ _ hs _ hstep => hs.step hstep)
    ⟨.nil _, (fun h => by rcases h with h | h <;> cases h), (fun h => by cases h)⟩
  refine ⟨fun hstopped => ?_, hs.signalled⟩
  obtain ⟨es₁, i, line, es₂, t, h, hes, hrun₁, hi, hverdict, hsaid⟩ := hs.asked (.inr hstopped)
  obtain ⟨hauthorized, hallowed⟩ := shutdownVerdict_ok hverdict
  have ht : Guarded S d es₁ t := guarded_of_run hrun₁
  have hwriter := (ht.grants (e := .signal) (List.mem_of_getElem? hi) hauthorized).1 rfl
  exact ⟨es₁, i, line, es₂, t, h, hes, hrun₁, hi, hwriter, hallowed, hsaid⟩

/-- The owner stopped it. -/
theorem stopped_by_writer_owner :
    ∃ d s, Daemon.boot plainHost restartPolicy firstBoot = .ok d ∧
      Run (Server.step ownSetup) (fun _ _ => True) (Server.start d) ownerStops s ∧
      s.phase = .returned true ∧ ∃ h : Handler, ownSetup.auth.Writer h.uid ∧
      (h.id, .ok "shutdown accepted; the daemon is stopping") ∈ s.replies := by
  obtain ⟨d, hboot, hpolicy⟩ := restartBoot
  obtain ⟨s, hrun, hphase, -, -⟩ := ownerStops_run hpolicy
  obtain ⟨_, _, _, _, _, h, -, -, -, hwriter, -, hsaid⟩ :=
    (stopped_by_writer hrun).1 (by rw [hphase]; rfl)
  exact ⟨d, s, hboot, hrun, hphase, h, hwriter, hsaid⟩

end Server

end Tailnetd
