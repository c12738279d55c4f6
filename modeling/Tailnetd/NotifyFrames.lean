/-
  The frames of a masked watch (`server.rs`, `stream_notify`).

  A masked watch is a stream of frames from five feeds: the engine's bus, the prefs, the policy, the
  exit-node suggestion and, once, the status.  What a client relies on is the order.

  1. **Identity** — every frame states the version, and the session id, minted only for a watch that
     asked for the initial state, is on the first frame whichever feed that is from; a frame that
     carries nothing else is sent at most once, to have the id out before the stream waits where no
     engine frame is coming (`notify_identity`).
  2. **Opening** — before anything else come the front-loads asked for: the status, the prefs, the
     policy, in this order; no status is ever sent again (`notify_opening`).
  3. **Only what was asked for** — the engine is asked for more than the client wants while the
     status is owed, and what the client did not ask for is taken out again (`notify_unasked`).

  A step is what the stream does between two waits; a write that fails ends it there.
-/
import Tailnetd.Auth
import Tailnetd.StatusReport
import Tailnetd.SuggestionWatch

namespace Tailnetd

open Machine WatchChannel

/-! ## The engine's notices -/

/-- `tailscale::DeviceState`, with what it carries. -/
inductive EngineState where
  | running
  | connecting
  | needsLogin (url : String)
  | needsMachineAuth
  | reauthenticating
  | expired
  | failed (permanent : Bool) (reason : String)
  deriving DecidableEq, Repr

/-- The connection state alone. -/
def EngineState.device : EngineState → DeviceState
  | .running => .running
  | .connecting => .connecting
  | .needsLogin _ => .needsLogin
  | .needsMachineAuth => .needsMachineAuth
  | .reauthenticating => .reauthenticating
  | .expired => .expired
  | .failed permanent _ => .failed permanent

/-- `State::as_str`. -/
def State.asStr : State → String
  | .noState => "NoState"
  | .needsLogin => "NeedsLogin"
  | .needsMachineAuth => "NeedsMachineAuth"
  | .stopped => "Stopped"
  | .starting => "Starting"
  | .running => "Running"

/-- `state_from_device`, whole: the state, the login URL and the reason of a failure for good. -/
def stateFromEngine : EngineState → State × Option String × Option String
  | .running => (.running, none, none)
  | .connecting => (.starting, none, none)
  | .needsLogin url => (.needsLogin, some url, none)
  | .needsMachineAuth => (.needsMachineAuth, none, none)
  | .reauthenticating => (.starting, none, none)
  | .expired => (.needsLogin, none, none)
  | .failed true reason => (.needsLogin, none, some reason)
  | .failed false _ => (.starting, none, none)

/-- `notify_state_from_device`. -/
def notifyStateFromDevice (s : EngineState) : String × Option String :=
  let (state, _, error) := stateFromEngine s
  (state.asStr, error)

/-- `tailscale::Notify`; the netmap is a list of the engine's nodes. -/
structure Notify (N : Type) where
  state : Option EngineState := none
  browseToUrl : Option String := none
  netMap : Option (List N) := none

/-- `SelfReport`. -/
structure SelfReport where
  stableId : String
  name : String
  ipv4 : String
  ipv6 : String
  keyExpiry : Option String
  deriving DecidableEq, Repr

/-- `PolicyReport`. -/
structure PolicyReport where
  scope : String
  settings : List PolicySetting
  deriving DecidableEq, Repr

/-- `NotifyView`: one frame. -/
structure NotifyView where
  version : Option String := none
  sessionId : Option String := none
  state : Option String := none
  error : Option String := none
  browseToUrl : Option String := none
  netMap : Option (List StatusPeer) := none
  selfChange : Option SelfReport := none
  prefs : Option PrefsView := none
  policy : Option PolicyReport := none
  suggestedExitNode : Option String := none
  initialStatus : Option StatusReport := none
  deriving DecidableEq

/-- `NOTIFY_VERSION`. -/
def notifyVersion : String := "0.68.8"

/-- `should_query_self_node`. -/
def shouldQuerySelfNode (s : EngineState) (hadSelf : Bool) : Bool :=
  hadSelf || match s with
    | .connecting | .needsLogin _ | .needsMachineAuth => false
    | _ => true

/-- `fetch_self_report`, of an engine in a state that answers, or not in time. -/
def fetchSelfReport (engine : EngineState × Option SelfReport) (hadSelf : Bool) :
    Option SelfReport :=
  if shouldQuerySelfNode engine.1 hadSelf then engine.2 else none

/-- `retain_requested_initial`. -/
def retainRequestedInitial {N : Type} (notify : Notify N) (initialState initialNetmap : Bool) :
    Notify N where
  state := if initialState then notify.state else none
  browseToUrl := if initialState then notify.browseToUrl else none
  netMap := if initialNetmap then notify.netMap else none

section

variable {N : Type} (report : N → StatusPeer)

/-- `project_notify`, where `report` is `peer_report_from_status_node`. -/
def projectNotify (notify : Notify N) (selfChange : Option SelfReport) : Option NotifyView :=
  let state := notify.state.map notifyStateFromDevice
  let netMap := notify.netMap.map fun nodes => nodes.map report
  let view : NotifyView :=
    { state := state.map (·.1)
      error := state.bind (·.2)
      browseToUrl := notify.browseToUrl
      netMap := netMap
      selfChange := if netMap.isSome then selfChange else none }
  if view.state.isNone && view.error.isNone && view.browseToUrl.isNone && view.netMap.isNone then
    none
  else some view

end

/-! ## The feeds of the daemon -/

/-- The view of `emit_prefs_frame`. -/
def prefsFrame (prefs : PrefsView) : NotifyView := { prefs := some prefs }

/-- The view of `emit_policy_frame`. -/
def policyFrame (policy : PolicyReport) : NotifyView := { policy := some policy }

/-- The view of `emit_suggested_exit_node_frame`. -/
def suggestedExitNodeFrame (id : String) : NotifyView := { suggestedExitNode := some id }

/-- `with_initial_status`. -/
def withInitialStatus (engineInitial : Option NotifyView) (status : StatusReport) : NotifyView :=
  { engineInitial.getD {} with initialStatus := some status }

/-- What the daemon reads for its own feeds. -/
structure FeedReads where
  status : StatusReport
  prefs : PrefsView
  policy : PolicyReport

/-- The views of `emit_status_front_loads`. -/
def statusFrontLoads (mask : WatchMask) (engineInitial : Option NotifyView) (reads : FeedReads) :
    List NotifyView :=
  withInitialStatus engineInitial reads.status ::
    ((if mask.prefs then [prefsFrame reads.prefs] else []) ++
      if mask.policy then [policyFrame reads.policy] else [])

/-- What the front-load of the suggestion finds: the computation's answer, if it was run in time,
    and the cell with the watch's receiver. -/
structure SuggestionReads where
  answer : Option SuggestionResponse
  rx : Receiver
  cell : Cell String

/-- The views of `emit_suggested_exit_node_front_load`. -/
def suggestionFrontLoad (reads : SuggestionReads) : List NotifyView :=
  match reads.answer with
  | none => []
  | some response =>
    (emitSuggestionFrontLoad response reads.rx reads.cell).1.map suggestedExitNodeFrame

/-! ## The stream -/

/-- Where the stream waits. -/
inductive FeedPlace where
  /-- Before the front-load of the prefs. -/
  | prefsFront
  | policyFront
  /-- The top of the outer loop. -/
  | top
  /-- The select of an epoch without a device. -/
  | away
  /-- `watch_ipn_bus`. -/
  | attach
  /-- The bus could not be watched: only the lifecycle is. -/
  | parked
  /-- The first notice of the bus, while the status is owed. -/
  | initial
  /-- The select of an epoch with a device. -/
  | stream
  | ended
  deriving DecidableEq, Repr

/-- Past the front-loads of the prefs and the policy. -/
def FeedPlace.pastFronts : FeedPlace → Bool
  | .prefsFront | .policyFront => false
  | _ => true

/-- A masked watch, with the frames it has sent, oldest first. -/
structure NotifyStream where
  mask : WatchMask
  /-- `NotifySession::pending_id`. -/
  pendingId : Option String
  statusPending : Bool
  suggestionPending : Bool
  /-- This epoch has had a self node. -/
  hadSelf : Bool
  place : FeedPlace
  frames : List NotifyView

/-- What the stream wakes to, with what it reads then. -/
inductive FeedEvent (N : Type) where
  | prefsFront (prefs : PrefsView)
  | policyFront (policy : PolicyReport)
  /-- The top of the outer loop finds no device. -/
  | noDevice (reads : FeedReads)
  | device (suggestion : SuggestionReads)
  | busFailed (reads : FeedReads) (suggestion : SuggestionReads)
  | busWatched
  /-- The first notice of the bus, or its end. -/
  | first (notify : Option (Notify N)) (engine : EngineState × Option SelfReport)
      (reads : FeedReads) (suggestion : SuggestionReads)
  /-- A notice; the epoch's engine answers as far as it is still there. -/
  | next (notify : Notify N) (engine : Option (EngineState × Option SelfReport))
  | busClosed
  | lifeChanged
  | prefsTick (prefs : PrefsView)
  | policyTick (policy : PolicyReport)
  | pushed (id : String)
  /-- A sender is gone, or the client is. -/
  | gone

namespace NotifyStream

/-- `stream_notify` with a minted session id. -/
def start (mask : WatchMask) (id : String) : NotifyStream where
  mask := mask
  pendingId := if mask.initialState then some id else none
  statusPending := mask.initialStatus
  suggestionPending := mask.suggestedExitNode
  hadSelf := false
  place := .prefsFront
  frames := []

/-- `write_notify`: the frame is stamped and sent. -/
def send (s : NotifyStream) (view : NotifyView) : NotifyStream :=
  { s with
    pendingId := none
    frames := s.frames ++
      [{ view with version := view.version.or (some notifyVersion), sessionId := s.pendingId }] }

/-- Several frames, one after the other. -/
def write (s : NotifyStream) (views : List NotifyView) : NotifyStream := views.foldl send s

/-- `flush_session_id`. -/
def flushSessionId (s : NotifyStream) : NotifyStream :=
  if s.pendingId.isSome then s.send {} else s

/-- `std::mem::take(&mut status_pending)` and the front-loads behind it. -/
def settleStatus (s : NotifyStream) (engineInitial : Option NotifyView) (reads : FeedReads) :
    NotifyStream :=
  if s.statusPending then
    { s with statusPending := false }.write (statusFrontLoads s.mask engineInitial reads)
  else s

/-- `std::mem::take(&mut suggestion_pending)` and the front-load behind it. -/
def settleSuggestion (s : NotifyStream) (reads : SuggestionReads) : NotifyStream :=
  if s.suggestionPending then
    { s with suggestionPending := false }.write (suggestionFrontLoad reads)
  else s

/-- It goes on to wait elsewhere. -/
def goto (s : NotifyStream) (place : FeedPlace) : NotifyStream := { s with place := place }

section

variable {N : Type} (report : N → StatusPeer)

/-- The first notice of the bus while the status is owed. -/
def openBus (s : NotifyStream) (first : Option (Notify N)) (engine : EngineState × Option SelfReport)
    (reads : FeedReads) (suggestion : SuggestionReads) : NotifyStream :=
  match first with
  | none => ((s.settleStatus none reads).settleSuggestion suggestion).goto .top
  | some notify =>
    let notify := retainRequestedInitial notify s.mask.initialState s.mask.initialNetmap
    let selfChange := if notify.netMap.isSome then fetchSelfReport engine s.hadSelf else none
    ((({ s with hadSelf := s.hadSelf || selfChange.isSome }).settleStatus
      (projectNotify report notify selfChange) reads).settleSuggestion suggestion).goto .stream

/-- A notice of the bus. -/
def forward (s : NotifyStream) (notify : Notify N) (engine : Option (EngineState × Option SelfReport)) :
    NotifyStream :=
  let selfChange := if notify.netMap.isNone then none
    else engine.bind fun engine => fetchSelfReport engine s.hadSelf
  ({ s with hadSelf := s.hadSelf || selfChange.isSome }).write
    (projectNotify report notify selfChange).toList

/-- What the stream does between two waits. -/
def chunk (s : NotifyStream) : FeedEvent N → Option NotifyStream
  | .prefsFront prefs =>
    if s.place = .prefsFront then
      some ((if s.mask.prefs && !s.statusPending then s.send (prefsFrame prefs) else s).goto
        .policyFront)
    else none
  | .policyFront policy =>
    if s.place = .policyFront then
      some ((if s.mask.policy && !s.statusPending then s.send (policyFrame policy) else s).goto .top)
    else none
  | .noDevice reads =>
    if s.place = .top then
      some ({ (s.settleStatus none reads).flushSessionId with suggestionPending := false }.goto .away)
    else none
  | .device suggestion =>
    if s.place = .top then
      some ({ (if s.statusPending then s else s.settleSuggestion suggestion) with
        hadSelf := false }.goto .attach)
    else none
  | .busFailed reads suggestion =>
    if s.place = .attach then
      some ((if s.statusPending then
        (s.settleStatus none reads).settleSuggestion suggestion else s).flushSessionId.goto .parked)
    else none
  | .busWatched =>
    if s.place = .attach then some (s.goto (if s.statusPending then .initial else .stream)) else none
  | .first notify engine reads suggestion =>
    if s.place = .initial then some (s.openBus report notify engine reads suggestion) else none
  | .next notify engine =>
    if s.place = .stream then some (s.forward report notify engine) else none
  | .busClosed => if s.place = .stream then some (s.goto .top) else none
  | .lifeChanged =>
    if s.place = .away ∨ s.place = .parked ∨ s.place = .stream then some (s.goto .top) else none
  | .prefsTick prefs =>
    if s.mask.prefs then
      if s.place = .away then some ((s.send (prefsFrame prefs)).goto .top)
      else if s.place = .stream then some (s.send (prefsFrame prefs))
      else none
    else none
  | .policyTick policy =>
    if s.mask.policy then
      if s.place = .away then some ((s.send (policyFrame policy)).goto .top)
      else if s.place = .stream then some (s.send (policyFrame policy))
      else none
    else none
  | .pushed id =>
    if s.place = .away then some ((s.send (suggestedExitNodeFrame id)).goto .top)
    else if s.place = .stream then some (s.send (suggestedExitNodeFrame id))
    else none
  | .gone => if s.place = .ended then none else some (s.goto .ended)

/-- A step; with `cut` the write behind that many frames of it fails, and the stream ends. -/
def step (s : NotifyStream) (e : FeedEvent N × Option Nat) : Option NotifyStream :=
  (s.chunk report e.1).map fun t =>
    match e.2 with
    | none => t
    | some written =>
      if s.frames.length + written < t.frames.length then
        { t with frames := t.frames.take (s.frames.length + written), place := .ended }
      else t

end

/-! ## What a step sends -/

/-- The frame as it goes out. -/
def stamped (pendingId : Option String) (view : NotifyView) : NotifyView :=
  { view with version := view.version.or (some notifyVersion), sessionId := pendingId }

/-- Several frames as they go out: the id is on the first. -/
def stampAll (pendingId : Option String) : List NotifyView → List NotifyView
  | [] => []
  | view :: views => stamped pendingId view :: stampAll none views

@[simp] theorem length_stampAll (pendingId : Option String) (views : List NotifyView) :
    (stampAll pendingId views).length = views.length := by
  induction views generalizing pendingId with
  | nil => rfl
  | cons view views ih => rw [stampAll, List.length_cons, List.length_cons, ih]

/-- A stream that has sent some frames. -/
theorem write_eq (s : NotifyStream) (views : List NotifyView) :
    s.write views = { s with
      pendingId := if views = [] then s.pendingId else none
      frames := s.frames ++ stampAll s.pendingId views } := by
  induction views generalizing s with
  | nil =>
    show s = _
    rw [stampAll, List.append_nil, if_pos rfl]
  | cons view views ih =>
    show (s.send view).write views = _
    rw [ih]
    have hframes : (s.send view).frames ++ stampAll (s.send view).pendingId views =
        s.frames ++ stampAll s.pendingId (view :: views) := by
      show (s.frames ++ [stamped s.pendingId view]) ++ stampAll none views = _
      rw [List.append_assoc]
      rfl
    rw [hframes, if_neg (List.cons_ne_nil _ _)]
    congr 1
    split <;> rfl

end NotifyStream

/-- A frame without a payload. -/
def NotifyView.Bare (view : NotifyView) : Prop :=
  view.state = none ∧ view.browseToUrl = none ∧ view.netMap = none ∧ view.prefs = none ∧
    view.policy = none ∧ view.suggestedExitNode = none ∧ view.initialStatus = none

/-- A view that a watch with this mask may be sent. -/
structure NotifyView.Asked (mask : WatchMask) (view : NotifyView) : Prop where
  version : view.version = none
  prefs : view.prefs.isSome = true → mask.prefs = true
  policy : view.policy.isSome = true → mask.policy = true
  status : view.initialStatus.isSome = true → mask.initialStatus = true ∧
    (mask.initialState = false → view.state = none ∧ view.error = none ∧ view.browseToUrl = none) ∧
    (mask.initialNetmap = false → view.netMap = none)
  selfChange : view.selfChange.isSome = true → view.netMap.isSome = true

section

variable {mask : WatchMask}

theorem asked_prefsFrame (prefs : PrefsView) (h : mask.prefs = true) :
    (prefsFrame prefs).Asked mask ∧ ¬ (prefsFrame prefs).Bare :=
  ⟨⟨rfl, fun _ => h, nofun, nofun, nofun⟩, by rintro ⟨-, -, -, h, -⟩; cases h⟩

theorem asked_policyFrame (policy : PolicyReport) (h : mask.policy = true) :
    (policyFrame policy).Asked mask ∧ ¬ (policyFrame policy).Bare :=
  ⟨⟨rfl, nofun, fun _ => h, nofun, nofun⟩, by rintro ⟨-, -, -, -, h, -⟩; cases h⟩

theorem asked_suggestedExitNodeFrame (mask : WatchMask) (id : String) :
    (suggestedExitNodeFrame id).Asked mask ∧ ¬ (suggestedExitNodeFrame id).Bare :=
  ⟨⟨rfl, nofun, nofun, nofun, nofun⟩, by rintro ⟨-, -, -, -, -, h, -⟩; cases h⟩

/-- What the engine's notices become. -/
theorem projectNotify_some {N : Type} {report : N → StatusPeer} {notify : Notify N}
    {selfChange : Option SelfReport} {view : NotifyView}
    (h : projectNotify report notify selfChange = some view) :
    view = { state := notify.state.map fun s => (notifyStateFromDevice s).1
             error := notify.state.bind fun s => (notifyStateFromDevice s).2
             browseToUrl := notify.browseToUrl
             netMap := notify.netMap.map fun nodes => nodes.map report
             selfChange := if notify.netMap.isSome then selfChange else none } ∧
      ¬ view.Bare := by
  unfold projectNotify at h
  dsimp only at h
  split at h
  · cases h
  · rename_i hsome
    cases h
    refine ⟨?_, fun ⟨hstate, hurl, hnetMap, _⟩ => hsome ?_⟩
    · rcases notify with ⟨state, url, netMap⟩
      cases state <;> cases netMap <;> rfl
    · dsimp only at hstate hurl hnetMap
      -- without a state there is no error either
      have hnone : notify.state = none := by
        cases hs : notify.state with
        | none => rfl
        | some s =>
          rw [hs] at hstate
          cases hstate
      rw [hstate, hurl, hnetMap, hnone]
      rfl

theorem asked_projectNotify {N : Type} {report : N → StatusPeer} {notify : Notify N}
    {selfChange : Option SelfReport} {view : NotifyView} (mask : WatchMask)
    (h : projectNotify report notify selfChange = some view) : view.Asked mask ∧ ¬ view.Bare := by
  obtain ⟨rfl, hbare⟩ := projectNotify_some h
  refine ⟨⟨rfl, nofun, nofun, nofun, fun hself => ?_⟩, hbare⟩
  dsimp only at hself ⊢
  cases hmap : notify.netMap with
  | none =>
    rw [hmap] at hself
    cases hself
  | some nodes => rfl

/-- The status goes out with what was asked for of the engine's front-load. -/
theorem asked_withInitialStatus {N : Type} (report : N → StatusPeer) (notify : Notify N)
    (selfChange : Option SelfReport) (status : StatusReport) (h : mask.initialStatus = true) :
    (withInitialStatus (projectNotify report
      (retainRequestedInitial notify mask.initialState mask.initialNetmap) selfChange)
      status).Asked mask := by
  cases hview : projectNotify report
      (retainRequestedInitial notify mask.initialState mask.initialNetmap) selfChange with
  | none => exact ⟨rfl, nofun, nofun, fun _ => ⟨h, fun _ => ⟨rfl, rfl, rfl⟩, fun _ => rfl⟩, nofun⟩
  | some view =>
    have hasked := (asked_projectNotify mask hview).1
    obtain ⟨rfl, -⟩ := projectNotify_some hview
    refine ⟨rfl, nofun, nofun, fun _ => ⟨h, fun hstate => ?_, fun hnetMap => ?_⟩, hasked.selfChange⟩
    · simp only [withInitialStatus, retainRequestedInitial, hstate]
      exact ⟨rfl, rfl, rfl⟩
    · simp only [withInitialStatus, retainRequestedInitial, hnetMap]
      rfl

theorem asked_statusFrontLoads {engineInitial : Option NotifyView} {reads : FeedReads}
    (h : (withInitialStatus engineInitial reads.status).Asked mask) :
    ∀ view ∈ statusFrontLoads mask engineInitial reads, view.Asked mask ∧ ¬ view.Bare := by
  intro view hview
  rcases List.mem_cons.mp hview with rfl | hview
  · exact ⟨h, by rintro ⟨-, -, -, -, -, -, h⟩; cases h⟩
  · rcases List.mem_append.mp hview with hview | hview
    · split at hview
      · obtain rfl := List.mem_singleton.mp hview
        exact asked_prefsFrame _ (by assumption)
      · cases hview
    · split at hview
      · obtain rfl := List.mem_singleton.mp hview
        exact asked_policyFrame _ (by assumption)
      · cases hview

theorem asked_suggestionFrontLoad (mask : WatchMask) (reads : SuggestionReads) :
    ∀ view ∈ suggestionFrontLoad reads, view.Asked mask ∧ ¬ view.Bare := by
  intro view hview
  unfold suggestionFrontLoad at hview
  split at hview
  · cases hview
  · obtain ⟨id, -, rfl⟩ := List.mem_map.mp hview
    exact asked_suggestedExitNodeFrame mask id

end

namespace NotifyStream

/-- One stream is another that has sent these frames, wherever it waits and whatever it owes. -/
structure Sends (s : NotifyStream) (views : List NotifyView) (t : NotifyStream) : Prop where
  mask : t.mask = s.mask
  frames : t.frames = s.frames ++ stampAll s.pendingId views
  pendingId : t.pendingId = if views = [] then s.pendingId else none

theorem stampAll_append (pendingId : Option String) (views views' : List NotifyView) :
    stampAll pendingId (views ++ views') =
      stampAll pendingId views ++ stampAll (if views = [] then pendingId else none) views' := by
  induction views generalizing pendingId with
  | nil => rfl
  | cons view views ih =>
    rw [List.cons_append, stampAll, ih, stampAll, if_neg (List.cons_ne_nil _ _)]
    split <;> rfl

namespace Sends

variable {s t u : NotifyStream} {views views' : List NotifyView}

theorem nothing (hmask : t.mask = s.mask) (hframes : t.frames = s.frames)
    (hpending : t.pendingId = s.pendingId) : Sends s [] t :=
  ⟨hmask, by rw [hframes, stampAll, List.append_nil], hpending⟩

theorem write (s : NotifyStream) (views : List NotifyView) : Sends s views (s.write views) := by
  rw [write_eq]
  exact ⟨rfl, rfl, rfl⟩

theorem trans (h : Sends s views t) (h' : Sends t views' u) : Sends s (views ++ views') u := by
  refine ⟨h'.mask.trans h.mask, ?_, ?_⟩
  · rw [h'.frames, h.frames, h.pendingId, stampAll_append, List.append_assoc]
  · rw [h'.pendingId, h.pendingId]
    cases views <;> cases views' <;> rfl

/-- Where it waits then, and what it owes, is not sent. -/
theorem goto (h : Sends s views t) (place : FeedPlace) : Sends s views (t.goto place) :=
  ⟨h.mask, h.frames, h.pendingId⟩

theorem settleStatus (s : NotifyStream) (engineInitial : Option NotifyView) (reads : FeedReads) :
    Sends s (if s.statusPending then statusFrontLoads s.mask engineInitial reads else [])
      (s.settleStatus engineInitial reads) := by
  unfold NotifyStream.settleStatus
  split
  · have hwrite := write { s with statusPending := false } (statusFrontLoads s.mask engineInitial reads)
    exact ⟨hwrite.mask, hwrite.frames, hwrite.pendingId⟩
  · exact nothing rfl rfl rfl

theorem settleSuggestion (s : NotifyStream) (reads : SuggestionReads) :
    Sends s (if s.suggestionPending then suggestionFrontLoad reads else [])
      (s.settleSuggestion reads) := by
  unfold NotifyStream.settleSuggestion
  split
  · have hwrite := write { s with suggestionPending := false } (suggestionFrontLoad reads)
    exact ⟨hwrite.mask, hwrite.frames, hwrite.pendingId⟩
  · exact nothing rfl rfl rfl

theorem flushSessionId (s : NotifyStream) :
    Sends s (if s.pendingId.isSome then [{}] else []) s.flushSessionId := by
  unfold NotifyStream.flushSessionId
  split
  · exact write s [{}]
  · exact nothing rfl rfl rfl

end Sends

/-- A view that is no status, has something to say and may be sent. -/
def Ordinary (mask : WatchMask) (view : NotifyView) : Prop :=
  view.Asked mask ∧ ¬ view.Bare ∧ view.initialStatus = none

variable {s t : NotifyStream}

/-- **What the stream can do between two waits.** -/
inductive Chunked (s : NotifyStream) : List NotifyView → NotifyStream → Prop
  | prefsFront {t : NotifyStream} (prefs : PrefsView) (hplace : s.place = .prefsFront)
      (hsends : Sends s (if s.mask.prefs && !s.statusPending then [prefsFrame prefs] else []) t)
      (hthere : t.place = .policyFront) (hstatus : t.statusPending = s.statusPending) :
      Chunked s (if s.mask.prefs && !s.statusPending then [prefsFrame prefs] else []) t
  | policyFront {t : NotifyStream} (policy : PolicyReport) (hplace : s.place = .policyFront)
      (hsends : Sends s (if s.mask.policy && !s.statusPending then [policyFrame policy] else []) t)
      (hthere : t.place = .top) (hstatus : t.statusPending = s.statusPending) :
      Chunked s (if s.mask.policy && !s.statusPending then [policyFrame policy] else []) t
  /-- The status goes out, and what waited for it. -/
  | opened {t : NotifyStream} {engineInitial : Option NotifyView} (reads : FeedReads)
      (rest : List NotifyView) (hplace : s.place.pastFronts = true) (howed : s.statusPending = true)
      (hengine : (withInitialStatus engineInitial reads.status).Asked s.mask)
      (hrest : ∀ view ∈ rest, Ordinary s.mask view)
      (hsends : Sends s (statusFrontLoads s.mask engineInitial reads ++ rest) t)
      (hthere : t.place.pastFronts = true) (hstatus : t.statusPending = false) :
      Chunked s (statusFrontLoads s.mask engineInitial reads ++ rest) t
  /-- The id goes out alone. -/
  | flushed {t : NotifyStream} (hplace : s.place.pastFronts = true)
      (hpending : s.pendingId.isSome = true) (hsends : Sends s [{}] t)
      (hthere : t.place.pastFronts = true) (howed : s.statusPending = false)
      (hstatus : t.statusPending = false) : Chunked s [{}] t
  | went {t : NotifyStream} {views : List NotifyView}
      (hplace : s.place.pastFronts = true ∨ t.place = .ended ∧ views = [])
      (hsends : Sends s views t) (hviews : ∀ view ∈ views, Ordinary s.mask view)
      (howed : s.statusPending = true → views = []) (hthere : t.place.pastFronts = true)
      (hstatus : t.statusPending = s.statusPending)
      (hout : t.place = .away ∨ t.place = .parked → t.pendingId = none) : Chunked s views t

theorem ordinary_suggestionFrontLoad (mask : WatchMask) (reads : SuggestionReads) :
    ∀ view ∈ suggestionFrontLoad reads, Ordinary mask view := by
  intro view hview
  obtain ⟨hasked, hbare⟩ := asked_suggestionFrontLoad mask reads view hview
  refine ⟨hasked, hbare, ?_⟩
  unfold suggestionFrontLoad at hview
  split at hview
  · cases hview
  · obtain ⟨id, -, rfl⟩ := List.mem_map.mp hview
    rfl

section

variable {N : Type} {report : N → StatusPeer}

/-- A single ordinary frame, or none, of a stream that owes no status. -/
theorem chunked_frame {view : NotifyView} (place : FeedPlace)
    (hplace : s.place.pastFronts = true) (howed : s.statusPending = false)
    (hview : Ordinary s.mask view) (hthere : place.pastFronts = true) :
    Chunked s [view] ((s.send view).goto place) := by
  refine .went (.inl hplace) ((Sends.write s [view]).goto place) (fun v hv => ?_)
    (fun h => ?_) hthere rfl fun _ => rfl
  · rw [List.mem_singleton.mp hv]
    exact hview
  · rw [howed] at h
    cases h

/-- A step on which nothing is sent. -/
theorem chunked_quiet (hplace : s.place.pastFronts = true ∨ t.place = .ended)
    (hmask : t.mask = s.mask) (hframes : t.frames = s.frames) (hpending : t.pendingId = s.pendingId)
    (hthere : t.place.pastFronts = true) (hstatus : t.statusPending = s.statusPending)
    (hout : t.place = .away ∨ t.place = .parked → t.pendingId = none) : Chunked s [] t :=
  .went (hplace.imp_right fun h => ⟨h, rfl⟩) (.nothing hmask hframes hpending) (fun _ hv => (List.not_mem_nil hv).elim)
    (fun _ => rfl) hthere hstatus hout

/-- The status is settled, then the suggestion. -/
theorem chunked_opened {engineInitial : Option NotifyView} {reads : FeedReads}
    {suggestion : SuggestionReads} {place : FeedPlace} {u : NotifyStream}
    (hplace : s.place.pastFronts = true) (howed : s.statusPending = true)
    (hengine : (withInitialStatus engineInitial reads.status).Asked s.mask)
    (hu : Sends s [] u) (hustatus : u.statusPending = true)
    (hthere : place.pastFronts = true) :
    ∃ views, Chunked s views (((u.settleStatus engineInitial reads).settleSuggestion suggestion).goto
      place) := by
  have hsettle := Sends.settleStatus u engineInitial reads
  rw [if_pos hustatus, hu.mask] at hsettle
  have hsuggest := Sends.settleSuggestion (u.settleStatus engineInitial reads) suggestion
  have hrest : ∀ view ∈ (if (u.settleStatus engineInitial reads).suggestionPending
      then suggestionFrontLoad suggestion else []), Ordinary s.mask view := by
    intro view hview
    split at hview
    · exact ordinary_suggestionFrontLoad s.mask suggestion view hview
    · cases hview
  refine ⟨_, .opened reads _ hplace howed hengine hrest
    (((hu.trans hsettle).trans hsuggest).goto place) hthere ?_⟩
  -- the suggestion leaves alone what the status settled
  have hnone : (u.settleStatus engineInitial reads).statusPending = false := by
    unfold settleStatus
    rw [if_pos hustatus, write_eq]
  show ((u.settleStatus engineInitial reads).settleSuggestion suggestion).statusPending = false
  unfold settleSuggestion
  split
  · rw [write_eq]
    exact hnone
  · exact hnone

/-- The id goes out, or nothing does because it is out already. -/
theorem chunked_flushed {place : FeedPlace} (suggestionPending : Bool)
    (hplace : s.place.pastFronts = true) (howed : s.statusPending = false)
    (hthere : place.pastFronts = true) : ∃ views, Chunked s views
      ({ s.flushSessionId with suggestionPending := suggestionPending }.goto place) := by
  have hflush := Sends.flushSessionId s
  cases hpending : s.pendingId with
  | none =>
    rw [hpending] at hflush
    have hsame : s.flushSessionId = s := by
      unfold flushSessionId
      rw [hpending]
      rfl
    rw [hsame]
    exact ⟨[], chunked_quiet (.inl hplace) rfl rfl rfl hthere rfl fun _ => hpending⟩
  | some id =>
    rw [hpending] at hflush
    refine ⟨[{}], .flushed hplace (by rw [hpending]; rfl) ⟨hflush.mask, hflush.frames,
      hflush.pendingId⟩ hthere howed ?_⟩
    show s.flushSessionId.statusPending = false
    unfold flushSessionId
    rw [hpending]
    exact howed

/-- What was settled leaves nothing to flush. -/
theorem flushSessionId_of_sends {views : List NotifyView} (h : Sends s views t) (hne : views ≠ []) :
    t.flushSessionId = t := by
  unfold flushSessionId
  rw [h.pendingId, if_neg hne]
  rfl

theorem settleSuggestion_statusPending (s : NotifyStream) (reads : SuggestionReads) :
    (s.settleSuggestion reads).statusPending = s.statusPending := by
  unfold settleSuggestion
  split
  · rw [write_eq]
  · rfl

/-- Where the status is still owed. -/
structure Owes (s : NotifyStream) : Prop where
  mask : s.statusPending = true → s.mask.initialStatus = true
  initial : s.place = .initial → s.statusPending = true
  settled : s.place = .away ∨ s.place = .parked ∨ s.place = .stream → s.statusPending = false

/-- **Every step of the stream is one of these.** -/
theorem chunk_cases {e : FeedEvent N} (hs : Owes s) (h : s.chunk report e = some t) :
    ∃ views, Chunked s views t := by
  have hstatus : ∀ status, s.statusPending = true →
      (withInitialStatus none status).Asked s.mask := fun status howed =>
    ⟨rfl, nofun, nofun, fun _ => ⟨hs.mask howed, fun _ => ⟨rfl, rfl, rfl⟩, fun _ => rfl⟩, nofun⟩
  -- a frame on one of the selects
  have hselect : ∀ {view : NotifyView}, Ordinary s.mask view →
      (if s.place = .away then some ((s.send view).goto .top)
        else if s.place = .stream then some (s.send view) else none) = some t →
      ∃ views, Chunked s views t := by
    intro view hview hstep
    split at hstep
    · rename_i hplace
      cases hstep
      exact ⟨_, chunked_frame _ (by rw [hplace]; rfl) (hs.settled (.inl hplace)) hview rfl⟩
    · split at hstep <;> cases hstep
      rename_i hplace
      have hframe := chunked_frame (s := s) s.place (by rw [hplace]; rfl)
        (hs.settled (.inr (.inr hplace))) hview (by rw [hplace]; rfl)
      exact ⟨_, hframe⟩
  cases e with
  | prefsFront prefs =>
    dsimp only [chunk] at h
    split at h <;> cases h
    rename_i hplace
    refine ⟨_, .prefsFront prefs hplace ?_ rfl ?_⟩
    · split
      · exact (Sends.write s [prefsFrame prefs]).goto _
      · exact .nothing rfl rfl rfl
    · split <;> rfl
  | policyFront policy =>
    dsimp only [chunk] at h
    split at h <;> cases h
    rename_i hplace
    refine ⟨_, .policyFront policy hplace ?_ rfl ?_⟩
    · split
      · exact (Sends.write s [policyFrame policy]).goto _
      · exact .nothing rfl rfl rfl
    · split <;> rfl
  | noDevice reads =>
    dsimp only [chunk] at h
    split at h <;> cases h
    rename_i hplace
    have hpast : s.place.pastFronts = true := by rw [hplace]; rfl
    cases howed : s.statusPending with
    | false =>
      have hsame : s.settleStatus none reads = s := by
        unfold settleStatus
        rw [howed]
        rfl
      rw [hsame]
      exact chunked_flushed false hpast howed rfl
    | true =>
      have hsettle := Sends.settleStatus s none reads
      rw [if_pos howed] at hsettle
      rw [flushSessionId_of_sends hsettle (List.cons_ne_nil _ _)]
      refine ⟨_, .opened reads [] hpast howed (hstatus reads.status howed)
        (fun _ hv => (List.not_mem_nil hv).elim) ?_ rfl ?_⟩
      · rw [List.append_nil]
        exact ⟨hsettle.mask, hsettle.frames, hsettle.pendingId⟩
      · show (s.settleStatus none reads).statusPending = false
        unfold settleStatus
        rw [if_pos howed, write_eq]
  | device suggestion =>
    dsimp only [chunk] at h
    split at h <;> cases h
    rename_i hplace
    have hpast : s.place.pastFronts = true := by rw [hplace]; rfl
    cases howed : s.statusPending with
    | true =>
      exact ⟨[], chunked_quiet (.inl hpast) rfl rfl rfl rfl rfl fun h => by rcases h with h | h <;> cases h⟩
    | false =>
      have hsuggest := Sends.settleSuggestion s suggestion
      refine ⟨_, .went (.inl hpast) ⟨hsuggest.mask, hsuggest.frames, hsuggest.pendingId⟩ ?_ ?_ rfl ?_
        fun h => by rcases h with h | h <;> cases h⟩
      · intro view hview
        split at hview
        · exact ordinary_suggestionFrontLoad s.mask suggestion view hview
        · cases hview
      · intro htrue
        rw [howed] at htrue
        cases htrue
      · exact settleSuggestion_statusPending s suggestion
  | busFailed reads suggestion =>
    dsimp only [chunk] at h
    split at h <;> cases h
    rename_i hplace
    have hpast : s.place.pastFronts = true := by rw [hplace]; rfl
    cases howed : s.statusPending with
    | false => exact chunked_flushed s.flushSessionId.suggestionPending hpast howed rfl
    | true =>
      have hsettle := (Sends.settleStatus s none reads).trans
        (Sends.settleSuggestion (s.settleStatus none reads) suggestion)
      rw [if_pos howed] at hsettle
      rw [if_pos rfl, flushSessionId_of_sends hsettle (List.cons_ne_nil _ _)]
      exact chunked_opened hpast howed (hstatus reads.status howed) (.nothing rfl rfl rfl) howed rfl
  | busWatched =>
    dsimp only [chunk] at h
    split at h <;> cases h
    rename_i hplace
    have hpast : s.place.pastFronts = true := by rw [hplace]; rfl
    refine ⟨[], chunked_quiet (.inl hpast) rfl rfl rfl ?_ rfl fun h => ?_⟩
    · show (if s.statusPending then FeedPlace.initial else .stream).pastFronts = true
      split <;> rfl
    · change (if s.statusPending then FeedPlace.initial else .stream) = _ ∨
        (if s.statusPending then FeedPlace.initial else .stream) = _ at h
      split at h <;> rcases h with h | h <;> cases h
  | first first engine reads suggestion =>
    dsimp only [chunk] at h
    split at h <;> cases h
    rename_i hplace
    have hpast : s.place.pastFronts = true := by rw [hplace]; rfl
    have howed := hs.initial hplace
    cases first with
    | none => exact chunked_opened hpast howed (hstatus reads.status howed) (.nothing rfl rfl rfl) howed rfl
    | some notify =>
      exact chunked_opened hpast howed
        (asked_withInitialStatus report notify _ reads.status (hs.mask howed))
        (.nothing rfl rfl rfl) howed rfl
  | next notify engine =>
    dsimp only [chunk] at h
    split at h <;> cases h
    rename_i hplace
    have howed := hs.settled (.inr (.inr hplace))
    have hwrite : ∀ hadSelf views, Sends s views (({ s with hadSelf := hadSelf }).write views) :=
      fun hadSelf views => (Sends.nothing rfl rfl rfl : Sends s [] { s with hadSelf := hadSelf }).trans
        (.write _ views)
    refine ⟨_, .went (.inl (by rw [hplace]; rfl)) (hwrite _ _) (fun view hview => ?_) (fun htrue => ?_)
      ?_ ?_ fun hout => ?_⟩
    · have hsome := Option.mem_toList.mp hview
      obtain ⟨hasked, hbare⟩ := asked_projectNotify s.mask hsome
      refine ⟨hasked, hbare, ?_⟩
      rw [(projectNotify_some hsome).1]
    · rw [howed] at htrue
      cases htrue
    · rw [forward, write_eq]
      show s.place.pastFronts = true
      rw [hplace]
      rfl
    · rw [forward, write_eq]
    · rw [forward, write_eq] at hout
      change s.place = _ ∨ s.place = _ at hout
      rw [hplace] at hout
      rcases hout with hout | hout <;> cases hout
  | busClosed =>
    dsimp only [chunk] at h
    split at h <;> cases h
    rename_i hplace
    exact ⟨[], chunked_quiet (.inl (by rw [hplace]; rfl)) rfl rfl rfl rfl rfl fun h => by
      rcases h with h | h <;> cases h⟩
  | lifeChanged =>
    dsimp only [chunk] at h
    split at h <;> cases h
    rename_i hplace
    exact ⟨[], chunked_quiet (.inl (by rcases hplace with h | h | h <;> rw [h] <;> rfl)) rfl rfl rfl rfl
      rfl fun h => by rcases h with h | h <;> cases h⟩
  | prefsTick prefs =>
    dsimp only [chunk] at h
    split at h
    · rename_i hprefs
      obtain ⟨hasked, hbare⟩ := asked_prefsFrame prefs hprefs
      exact hselect ⟨hasked, hbare, rfl⟩ h
    · cases h
  | policyTick policy =>
    dsimp only [chunk] at h
    split at h
    · rename_i hpolicy
      obtain ⟨hasked, hbare⟩ := asked_policyFrame policy hpolicy
      exact hselect ⟨hasked, hbare, rfl⟩ h
    · cases h
  | pushed id =>
    obtain ⟨hasked, hbare⟩ := asked_suggestedExitNodeFrame s.mask id
    exact hselect ⟨hasked, hbare, rfl⟩ h
  | gone =>
    dsimp only [chunk] at h
    split at h <;> cases h
    exact ⟨[], chunked_quiet (.inr rfl) rfl rfl rfl rfl rfl fun h => by
      rcases h with h | h <;> cases h⟩

theorem settleStatus_statusPending (s : NotifyStream) (engineInitial : Option NotifyView)
    (reads : FeedReads) : (s.settleStatus engineInitial reads).statusPending = false := by
  unfold settleStatus
  split
  · rw [write_eq]
  · rename_i hnone
    exact Bool.eq_false_iff.mpr hnone

theorem flushSessionId_statusPending (s : NotifyStream) :
    s.flushSessionId.statusPending = s.statusPending := by
  unfold flushSessionId
  split <;> rfl

theorem openBus_owes (report : N → StatusPeer) (s : NotifyStream) (first : Option (Notify N))
    (engine : EngineState × Option SelfReport) (reads : FeedReads) (suggestion : SuggestionReads) :
    (s.openBus report first engine reads suggestion).statusPending = false ∧
      (s.openBus report first engine reads suggestion).place ≠ .initial := by
  unfold openBus
  cases first
  all_goals
    refine ⟨?_, nofun⟩
    exact (settleSuggestion_statusPending _ _).trans (settleStatus_statusPending _ _ _)

/-- A step keeps the account of the status. -/
theorem Owes.chunk {e : FeedEvent N} (hs : Owes s) (h : s.chunk report e = some t) : Owes t := by
  obtain ⟨views, hcase⟩ := chunk_cases hs h
  have hmask : t.statusPending = true → t.mask.initialStatus = true := by
    intro howed
    cases hcase with
    | prefsFront _ _ hsends _ hstatus | policyFront _ _ hsends _ hstatus =>
      rw [hsends.mask]
      exact hs.mask (hstatus ▸ howed)
    | went _ hsends _ _ _ hstatus =>
      rw [hsends.mask]
      exact hs.mask (hstatus ▸ howed)
    | opened _ _ _ _ _ _ _ _ hstatus | flushed _ _ _ _ _ hstatus =>
      rw [hstatus] at howed
      cases howed
  have helsewhere : ∀ {place : FeedPlace}, t.place = place → place ≠ .initial → place ≠ .away →
      place ≠ .parked → place ≠ .stream → Owes t := by
    rintro place rfl h₁ h₂ h₃ h₄
    exact ⟨hmask, fun h => absurd h h₁, fun h => by rcases h with h | h | h <;> contradiction⟩
  have hsettled : t.statusPending = false → t.place ≠ .initial → Owes t := fun hstatus hplace =>
    ⟨hmask, fun h => absurd h hplace, fun _ => hstatus⟩
  -- on a select nothing is owed, before the step and after it
  have hselect : ∀ {view : NotifyView},
      (if s.place = .away then some ((s.send view).goto .top)
        else if s.place = .stream then some (s.send view) else none) = some t → Owes t := by
    intro view hstep
    split at hstep
    · cases hstep
      exact helsewhere rfl nofun nofun nofun nofun
    · split at hstep <;> cases hstep
      rename_i hplace
      refine hsettled (hs.settled (.inr (.inr hplace))) fun h => ?_
      change s.place = _ at h
      rw [hplace] at h
      cases h
  cases e with
  | prefsFront | policyFront | device | busClosed | lifeChanged | gone =>
    dsimp only [NotifyStream.chunk] at h
    split at h <;> cases h
    exact helsewhere rfl nofun nofun nofun nofun
  | noDevice reads =>
    dsimp only [NotifyStream.chunk] at h
    split at h <;> cases h
    exact hsettled ((flushSessionId_statusPending _).trans (settleStatus_statusPending s none reads))
      nofun
  | busFailed reads suggestion =>
    dsimp only [NotifyStream.chunk] at h
    split at h <;> cases h
    refine hsettled ?_ nofun
    refine (flushSessionId_statusPending _).trans ?_
    split
    · exact (settleSuggestion_statusPending _ _).trans (settleStatus_statusPending s none reads)
    · rename_i hnone
      exact Bool.eq_false_iff.mpr hnone
  | busWatched =>
    dsimp only [NotifyStream.chunk] at h
    split at h <;> cases h
    by_cases howed : s.statusPending = true
    · rw [if_pos howed] at hmask ⊢
      exact ⟨hmask, fun _ => howed, fun h => by rcases h with h | h | h <;> cases h⟩
    · rw [if_neg howed] at hsettled ⊢
      exact hsettled (Bool.eq_false_iff.mpr howed) nofun
  | first first engine reads suggestion =>
    dsimp only [NotifyStream.chunk] at h
    split at h <;> cases h
    obtain ⟨hstatus, hplace⟩ := openBus_owes report s first engine reads suggestion
    exact hsettled hstatus hplace
  | next notify engine =>
    dsimp only [NotifyStream.chunk] at h
    split at h <;> cases h
    rename_i hplace
    unfold forward at hsettled ⊢
    rw [write_eq] at hsettled ⊢
    refine hsettled (hs.settled (.inr (.inr hplace))) fun h => ?_
    change s.place = _ at h
    rw [hplace] at h
    cases h
  | prefsTick prefs =>
    dsimp only [NotifyStream.chunk] at h
    split at h
    · exact hselect h
    · cases h
  | policyTick policy =>
    dsimp only [NotifyStream.chunk] at h
    split at h
    · exact hselect h
    · cases h
  | pushed id => exact hselect h

/-- A stream that has ended does nothing more. -/
theorem chunk_place {e : FeedEvent N} (h : s.chunk report e = some t) : s.place ≠ .ended := by
  intro hended
  unfold chunk at h
  cases e <;> simp only [hended] at h <;> simp at h

theorem Chunked.sends {views : List NotifyView} (h : Chunked s views t) : Sends s views t := by
  cases h <;> assumption

theorem chunk_mask {e : FeedEvent N} (hs : Owes s) (h : s.chunk report e = some t) :
    t.mask = s.mask := by
  obtain ⟨views, hcase⟩ := chunk_cases hs h
  exact hcase.sends.mask

/-! ## Identity -/

theorem getElem?_stampAll {pendingId : Option String} {views : List NotifyView} {j : Nat}
    {frame : NotifyView} (h : (stampAll pendingId views)[j]? = some frame) :
    ∃ view ∈ views, frame = stamped (if j = 0 then pendingId else none) view := by
  induction views generalizing pendingId j with
  | nil => cases h
  | cons view views ih =>
    cases j with
    | zero =>
      obtain rfl := Option.some.inj h
      exact ⟨view, List.mem_cons_self, rfl⟩
    | succ j =>
      obtain ⟨view', hview, hframe⟩ := ih h
      refine ⟨view', List.mem_cons_of_mem _ hview, ?_⟩
      rw [hframe, if_neg (Nat.succ_ne_zero j)]
      split <;> rfl

/-- What the frames of a watch are; `minted` is the session id, for a watch that gets one. -/
structure Identified (minted : Option String) (s : NotifyStream) : Prop where
  pending : s.place ≠ .ended → s.pendingId = if s.frames = [] then minted else none
  frames : ∀ i frame, s.frames[i]? = some frame → ∃ view : NotifyView,
    frame = stamped (if i = 0 then minted else none) view ∧ view.Asked s.mask ∧
      (view.Bare → i = 0 ∧ minted.isSome = true)
  out : s.place = .away ∨ s.place = .parked → s.pendingId = none

variable {minted : Option String}

/-- Frames that are ordinary, or the id alone. -/
theorem Identified.sends {views : List NotifyView} (hs : Identified minted s)
    (hplace : s.place ≠ .ended) (hsends : Sends s views t)
    (hviews : ∀ view ∈ views, view.Asked s.mask ∧ (view.Bare → s.pendingId.isSome = true))
    (hsingle : (∃ view ∈ views, view.Bare) → views.length = 1)
    (hout : t.place = .away ∨ t.place = .parked → t.pendingId = none) : Identified minted t := by
  have hpending := hs.pending hplace
  refine ⟨fun _ => ?_, fun i frame hframe => ?_, hout⟩
  · rw [hsends.pendingId, hsends.frames, hpending]
    cases hv : views with
    | nil => rw [stampAll, List.append_nil, if_pos rfl]
    | cons view views => rw [if_neg (List.cons_ne_nil _ _), stampAll, if_neg (by simp)]
  · rw [hsends.mask]
    rw [hsends.frames] at hframe
    by_cases hlt : i < s.frames.length
    · rw [List.getElem?_append_left hlt] at hframe
      exact hs.frames i frame hframe
    · -- one of the new frames: the first of all when nothing was sent before
      rw [List.getElem?_append_right (Nat.le_of_not_lt hlt)] at hframe
      obtain ⟨view, hview, rfl⟩ := getElem?_stampAll hframe
      have hbound := (List.getElem?_eq_some_iff.mp hframe).1
      rw [length_stampAll] at hbound
      obtain ⟨hasked, hbare⟩ := hviews view hview
      have hid : (if i - s.frames.length = 0 then s.pendingId else none) =
          if i = 0 then minted else none := by
        rw [hpending]
        by_cases hnil : s.frames = []
        · rw [hnil, if_pos rfl]
          rfl
        · have hpos := List.length_pos_iff.mpr hnil
          rw [if_neg hnil, ite_self, if_neg (by omega)]
      refine ⟨view, by rw [hid], hasked, fun hb => ?_⟩
      have hone := hsingle ⟨view, hview, hb⟩
      have hsome := hbare hb
      have hnil : s.frames = [] := by
        by_contra hne
        rw [hpending, if_neg hne] at hsome
        cases hsome
      rw [hpending, if_pos hnil] at hsome
      rw [hnil] at hbound
      exact ⟨by rw [List.length_nil] at hbound; omega, hsome⟩

theorem Identified.chunk {e : FeedEvent N} (hs : Identified minted s) (howes : Owes s)
    (h : s.chunk report e = some t) : Identified minted t := by
  have hplace := chunk_place h
  have hordinary : ∀ {views : List NotifyView}, (∀ view ∈ views, view.Asked s.mask ∧ ¬ view.Bare) →
      Sends s views t → (t.place = .away ∨ t.place = .parked → t.pendingId = none) →
      Identified minted t := fun hviews hsends hout =>
    hs.sends hplace hsends (fun view hview => ⟨(hviews view hview).1, fun hb =>
      absurd hb (hviews view hview).2⟩) (fun ⟨view, hview, hb⟩ => absurd hb (hviews view hview).2) hout
  obtain ⟨views, hcase⟩ := chunk_cases howes h
  cases hcase with
  | prefsFront prefs _ hsends hthere =>
    refine hordinary (fun view hview => ?_) hsends fun h => ?_
    · split at hview
      · rename_i hasks
        rw [List.mem_singleton.mp hview]
        exact asked_prefsFrame _ (Bool.and_eq_true_iff.mp hasks).1
      · cases hview
    · rw [hthere] at h
      rcases h with h | h <;> cases h
  | policyFront policy _ hsends hthere =>
    refine hordinary (fun view hview => ?_) hsends fun h => ?_
    · split at hview
      · rename_i hasks
        rw [List.mem_singleton.mp hview]
        exact asked_policyFrame _ (Bool.and_eq_true_iff.mp hasks).1
      · cases hview
    · rw [hthere] at h
      rcases h with h | h <;> cases h
  | opened _ _ _ _ hengine hrest hsends =>
    refine hordinary (fun view hview => ?_) hsends fun _ => ?_
    · rcases List.mem_append.mp hview with hview | hview
      · exact asked_statusFrontLoads hengine view hview
      · exact ⟨(hrest view hview).1, (hrest view hview).2.1⟩
    · rw [hsends.pendingId, if_neg]
      exact List.append_ne_nil_of_left_ne_nil (List.cons_ne_nil _ _) _
  | flushed _ hpending hsends =>
    refine hs.sends hplace hsends (fun view hview => ?_) (fun _ => rfl) fun _ => ?_
    · rw [List.mem_singleton.mp hview]
      exact ⟨⟨rfl, nofun, nofun, nofun, nofun⟩, fun _ => hpending⟩
    · rw [hsends.pendingId, if_neg (List.cons_ne_nil _ _)]
  | went _ hsends hviews _ _ _ hout =>
    exact hordinary (fun view hview => ⟨(hviews view hview).1, (hviews view hview).2.1⟩) hsends hout

/-- A write that fails leaves a part of the frames, and the stream ended. -/
theorem step_cases {e : FeedEvent N × Option Nat} (h : s.step report e = some t) :
    s.chunk report e.1 = some t ∨ ∃ u n, s.chunk report e.1 = some u ∧
      t = { u with frames := u.frames.take n, place := .ended } := by
  obtain ⟨u, hu, hcut⟩ := Option.map_eq_some_iff.mp h
  cases hwritten : e.2 with
  | none =>
    rw [hwritten] at hcut
    exact .inl (hcut ▸ hu)
  | some written =>
    rw [hwritten] at hcut
    dsimp only at hcut
    split at hcut
    · exact .inr ⟨u, _, hu, hcut.symm⟩
    · exact .inl (hcut ▸ hu)

/-- Nothing is owed any more once the stream has ended. -/
theorem Owes.ended {n : Nat} (hs : Owes s) :
    Owes { s with frames := s.frames.take n, place := .ended } :=
  ⟨hs.mask, nofun, fun h => by rcases h with h | h | h <;> cases h⟩

theorem Identified.ended {n : Nat} (hs : Identified minted s) :
    Identified minted { s with frames := s.frames.take n, place := .ended } := by
  refine ⟨fun h => absurd rfl h, fun i frame hframe => ?_, fun h => by rcases h with h | h <;> cases h⟩
  rw [List.getElem?_take] at hframe
  split at hframe
  · exact hs.frames i frame hframe
  · cases hframe

theorem owes_start (mask : WatchMask) (id : String) : Owes (start mask id) :=
  ⟨fun h => h, nofun, fun h => by rcases h with h | h | h <;> cases h⟩

theorem Owes.step {e : FeedEvent N × Option Nat} (hs : Owes s) (h : s.step report e = some t) :
    Owes t := by
  rcases step_cases h with h | ⟨u, n, hu, rfl⟩
  · exact hs.chunk h
  · exact (hs.chunk hu).ended

/-- The session id of a watch that asked for the initial state. -/
def mintedFor (mask : WatchMask) (id : String) : Option String :=
  if mask.initialState then some id else none

theorem identified_of_run {mask : WatchMask} {id : String} {es : List (FeedEvent N × Option Nat)}
    (hrun : Run (NotifyStream.step report) (fun _ _ => True) (start mask id) es s) :
    s.mask = mask ∧ Identified (mintedFor mask id) s := by
  obtain ⟨-, hmask, hs⟩ : Owes s ∧ s.mask = mask ∧ Identified (mintedFor mask id) s := by
    refine hrun.invariant
      (P := fun s => Owes s ∧ s.mask = mask ∧ Identified (mintedFor mask id) s) ?_ ?_
    · rintro s e t ⟨howes, hmask, hs⟩ - hstep
      refine ⟨howes.step hstep, ?_⟩
      rcases step_cases hstep with h | ⟨u, n, hu, rfl⟩
      · exact ⟨(chunk_mask howes h).trans hmask, hs.chunk howes h⟩
      · exact ⟨(chunk_mask howes hu).trans hmask, (hs.chunk howes hu).ended⟩
    · exact ⟨owes_start mask id, rfl, fun _ => rfl, fun i frame h => (by cases h),
        fun h => by rcases h with h | h <;> cases h⟩
  exact ⟨hmask, hs⟩

/-- A watch for the state, the prefs and the status. -/
def askingMask : WatchMask := { initialState := true, prefs := true, initialStatus := true }

/-- What a node that waits for its login answers to it: the engine's first notice has a netmap too,
    which was not asked for. -/
def openingEvents : List (FeedEvent StatusPeer × Option Nat) :=
  let reads : FeedReads := ⟨statusOf [], Prefs.default.view false, ⟨"Device", []⟩⟩
  let suggestion : SuggestionReads := ⟨none, ⟨0⟩, ⟨"", 0⟩⟩
  let login : EngineState := .needsLogin "https://login.example.com/a/1"
  [(.prefsFront reads.prefs, none), (.policyFront reads.policy, none), (.device suggestion, none),
    (.busWatched, none),
    (.first (some { state := some login, netMap := some [] }) (login, none) reads suggestion, none)]

theorem openingEvents_run : ∃ s, Run (NotifyStream.step id) (fun _ _ => True)
    (start askingMask "0f1e2d3c4b5a6978") openingEvents s ∧
      s.frames.map (fun frame => frame.sessionId) = [some "0f1e2d3c4b5a6978", none] ∧
      s.frames.map (fun frame => frame.state) = [some "NeedsLogin", none] ∧
      s.frames.map (fun frame => frame.initialStatus.isSome) = [true, false] :=
  ⟨_, run_of_follow (fun _ _ _ => trivial) rfl, rfl, rfl, rfl⟩

/-- **Every frame is identified.**  Each states the version; the session id is on the first frame
    and no other, for a watch that asked for the initial state and for no other; a frame without a
    payload is that first frame; and a stream that waits without an engine has its id out. -/
theorem notify_identity {mask : WatchMask} {id : String} {es : List (FeedEvent N × Option Nat)}
    (hrun : Run (NotifyStream.step report) (fun _ _ => True) (start mask id) es s) :
    (∀ i frame, s.frames[i]? = some frame → frame.version = some notifyVersion ∧
      frame.sessionId = (if i = 0 then mintedFor mask id else none) ∧
      (frame.Bare → i = 0 ∧ mask.initialState = true)) ∧
    (s.place = .away ∨ s.place = .parked → mask.initialState = true → s.frames ≠ []) := by
  obtain ⟨-, hs⟩ := identified_of_run hrun
  refine ⟨fun i frame hframe => ?_, fun hout hstate hnil => ?_⟩
  · obtain ⟨view, rfl, hasked, hbare⟩ := hs.frames i frame hframe
    refine ⟨?_, rfl, fun hb => ?_⟩
    · rw [stamped, hasked.version]
      rfl
    · obtain ⟨hi, hminted⟩ := hbare hb
      unfold mintedFor at hminted
      split at hminted
      · exact ⟨hi, by assumption⟩
      · cases hminted
  · have hpending := hs.pending (by rcases hout with h | h <;> rw [h] <;> nofun)
    rw [hs.out hout, hnil, if_pos rfl, mintedFor, if_pos hstate] at hpending
    cases hpending

/-- The first frame of the watch has the id. -/
theorem notify_identity_opening : ∃ s frame, Run (NotifyStream.step id) (fun _ _ => True)
    (start askingMask "0f1e2d3c4b5a6978") openingEvents s ∧ s.frames[0]? = some frame ∧
      frame.version = some "0.68.8" ∧ frame.sessionId = some "0f1e2d3c4b5a6978" := by
  obtain ⟨s, hrun, hids, -⟩ := openingEvents_run
  obtain ⟨frame, hframe⟩ : ∃ frame, s.frames[0]? = some frame := by
    rw [List.map_eq_cons_iff] at hids
    obtain ⟨frame, rest, hframes, -⟩ := hids
    exact ⟨frame, by rw [hframes]; rfl⟩
  obtain ⟨hversion, hid, -⟩ := (notify_identity hrun).1 0 frame hframe
  exact ⟨s, frame, hrun, hframe, hversion, hid⟩

/-- **Nothing that was not asked for.**  The prefs and the policy are sent to a watch that asked for
    them; the status is sent to one that asked for it, with the state and the netmap of the engine
    only as far as those were asked for; and this node goes out with the netmap alone. -/
theorem notify_unasked {mask : WatchMask} {id : String} {es : List (FeedEvent N × Option Nat)}
    (hrun : Run (NotifyStream.step report) (fun _ _ => True) (start mask id) es s) :
    ∀ frame ∈ s.frames, (frame.prefs.isSome = true → mask.prefs = true) ∧
      (frame.policy.isSome = true → mask.policy = true) ∧
      (frame.initialStatus.isSome = true → mask.initialStatus = true ∧
        (mask.initialState = false →
          frame.state = none ∧ frame.error = none ∧ frame.browseToUrl = none) ∧
        (mask.initialNetmap = false → frame.netMap = none)) ∧
      (frame.selfChange.isSome = true → frame.netMap.isSome = true) := by
  obtain ⟨rfl, hs⟩ := identified_of_run hrun
  intro frame hframe
  obtain ⟨i, hi⟩ := List.mem_iff_getElem?.mp hframe
  obtain ⟨view, rfl, hasked, -⟩ := hs.frames i frame hi
  exact ⟨hasked.prefs, hasked.policy, hasked.status, hasked.selfChange⟩

/-- The netmap was not asked for and is not on the first frame. -/
theorem notify_unasked_netmap : ∃ s frame, Run (NotifyStream.step id) (fun _ _ => True)
    (start askingMask "0f1e2d3c4b5a6978") openingEvents s ∧ frame ∈ s.frames ∧
      frame.initialStatus.isSome = true ∧ frame.netMap = none := by
  obtain ⟨s, hrun, -, -, hstatus⟩ := openingEvents_run
  obtain ⟨frame, hframe, hsome⟩ : ∃ frame ∈ s.frames, frame.initialStatus.isSome = true := by
    rw [List.map_eq_cons_iff] at hstatus
    obtain ⟨frame, rest, hframes, hsome, -⟩ := hstatus
    exact ⟨frame, by rw [hframes]; exact List.mem_cons_self, hsome⟩
  exact ⟨s, frame, hrun, hframe, hsome,
    ((notify_unasked hrun frame hframe).2.2.1 hsome).2.2 rfl⟩

end

end NotifyStream

/-! ## The opening -/

/-- Which feed a frame is from. -/
inductive Feed where
  | status
  | prefs
  | policy
  | suggestion
  | engine
  | identity
  deriving DecidableEq, Repr

/-- The status is also what a frame with the engine's front-load beside it counts as. -/
def NotifyView.feed (view : NotifyView) : Feed :=
  if view.initialStatus.isSome then .status
  else if view.prefs.isSome then .prefs
  else if view.policy.isSome then .policy
  else if view.suggestedExitNode.isSome then .suggestion
  else if view.state.isSome || view.browseToUrl.isSome || view.netMap.isSome then .engine
  else .identity

/-- The front-loads a watch asks for, in their order. -/
def WatchMask.opening (mask : WatchMask) : List Feed :=
  (if mask.initialStatus then [.status] else []) ++
    ((if mask.prefs then [.prefs] else []) ++ if mask.policy then [.policy] else [])

/-- Frames that begin with the front-loads asked for, as far as they go, and have no other
    status. -/
def WatchMask.OpensWith (mask : WatchMask) (feeds : List Feed) : Prop :=
  feeds <+: mask.opening ∨ ∃ rest, feeds = mask.opening ++ rest ∧ .status ∉ rest

theorem WatchMask.OpensWith.take {mask : WatchMask} {feeds : List Feed} (h : mask.OpensWith feeds)
    (n : Nat) : mask.OpensWith (feeds.take n) := by
  rcases h with h | ⟨rest, rfl, hrest⟩
  · exact .inl ((List.take_prefix n feeds).trans h)
  · by_cases hn : n ≤ mask.opening.length
    · rw [List.take_append_of_le_length hn]
      exact .inl (List.take_prefix n _)
    · refine .inr ⟨rest.take (n - mask.opening.length), ?_, fun h => hrest (List.mem_of_mem_take h)⟩
      rw [List.take_append, List.take_of_length_le (Nat.le_of_not_le hn)]

namespace NotifyStream

/-- The feeds of the frames sent. -/
def feeds (s : NotifyStream) : List Feed := s.frames.map NotifyView.feed

variable {s t : NotifyStream}

theorem feeds_stampAll (pendingId : Option String) (views : List NotifyView) :
    (stampAll pendingId views).map NotifyView.feed = views.map NotifyView.feed := by
  induction views generalizing pendingId with
  | nil => rfl
  | cons view views ih =>
    rw [stampAll, List.map_cons, List.map_cons, ih]
    rfl

theorem Sends.feeds {views : List NotifyView} (h : Sends s views t) :
    t.feeds = s.feeds ++ views.map NotifyView.feed := by
  rw [NotifyStream.feeds, h.frames, List.map_append, feeds_stampAll]
  rfl

theorem feeds_statusFrontLoads {mask : WatchMask} (h : mask.initialStatus = true)
    (engineInitial : Option NotifyView) (reads : FeedReads) :
    (statusFrontLoads mask engineInitial reads).map NotifyView.feed = mask.opening := by
  unfold statusFrontLoads WatchMask.opening
  rw [if_pos h]
  cases mask.prefs <;> cases mask.policy <;> rfl

/-- What a frame that is no status is from. -/
theorem feed_ne_status {view : NotifyView} (h : view.initialStatus = none) :
    view.feed ≠ .status := by
  unfold NotifyView.feed
  rw [h]
  simp only [Option.isSome_none, Bool.false_eq_true, if_false]
  repeat' split
  all_goals nofun

/-- How far a stream has opened. -/
structure Opened (s : NotifyStream) : Prop where
  told : s.mask.OpensWith s.feeds
  owed : s.statusPending = true → s.place ≠ .ended → s.feeds = []
  atPrefs : s.place = .prefsFront → s.feeds = [] ∧ s.statusPending = s.mask.initialStatus
  atPolicy : s.place = .policyFront → s.statusPending = s.mask.initialStatus ∧
    s.feeds = if s.mask.prefs && !s.mask.initialStatus then [.prefs] else []
  opened : s.place.pastFronts = true → s.place ≠ .ended → s.statusPending = false →
    ∃ rest, s.feeds = s.mask.opening ++ rest ∧ .status ∉ rest

section

variable {N : Type} {report : N → StatusPeer}

/-- A stream past its fronts. -/
theorem Opened.past (rest : List Feed) (hplace : t.place.pastFronts = true)
    (hfeeds : t.feeds = t.mask.opening ++ rest) (hrest : .status ∉ rest)
    (hstatus : t.statusPending = false) : Opened t := by
  refine ⟨.inr ⟨rest, hfeeds, hrest⟩, fun howed => ?_, fun h => ?_, fun h => ?_,
    fun _ _ _ => ⟨rest, hfeeds, hrest⟩⟩
  · rw [hstatus] at howed
    cases howed
  · rw [h] at hplace
    cases hplace
  · rw [h] at hplace
    cases hplace

/-- A stream that has sent nothing and owes the status. -/
theorem Opened.waiting (hplace : t.place.pastFronts = true) (hfeeds : t.feeds = [])
    (hstatus : t.statusPending = true) : Opened t := by
  refine ⟨.inl (hfeeds ▸ List.nil_prefix), fun _ _ => hfeeds, fun h => ?_, fun h => ?_,
    fun _ _ h => ?_⟩
  · rw [h] at hplace
    cases hplace
  · rw [h] at hplace
    cases hplace
  · rw [hstatus] at h
    cases h

theorem Opened.chunk {e : FeedEvent N} (hs : Opened s) (howes : Owes s)
    (h : s.chunk report e = some t) : Opened t := by
  have hplace := chunk_place h
  obtain ⟨views, hcase⟩ := chunk_cases howes h
  cases hcase with
  | prefsFront prefs hfront hsends hthere hstatus =>
    obtain ⟨hnone, howed⟩ := hs.atPrefs hfront
    have hfeeds : t.feeds = if t.mask.prefs && !t.mask.initialStatus then [.prefs] else [] := by
      rw [hsends.feeds, hnone, hsends.mask, howed]
      split <;> rfl
    refine ⟨.inl ?_, fun hpending _ => ?_, fun h => ?_, fun _ => ⟨?_, hfeeds⟩, fun h => ?_⟩
    · rw [hfeeds]
      unfold WatchMask.opening
      cases t.mask.initialStatus <;> cases t.mask.prefs <;> cases t.mask.policy <;> decide
    · rw [hfeeds, hsends.mask, ← howed, ← hstatus, hpending, Bool.not_true, Bool.and_false]
      rfl
    · rw [hthere] at h
      cases h
    · rw [hstatus, howed, hsends.mask]
    · rw [hthere] at h
      cases h
  | policyFront policy hfront hsends hthere hstatus =>
    obtain ⟨howed, hbefore⟩ := hs.atPolicy hfront
    have hpast : t.place.pastFronts = true := by rw [hthere]; rfl
    have hfeeds := hsends.feeds
    rw [hbefore, ← hsends.mask, howed, ← hsends.mask] at hfeeds
    cases hinitial : t.mask.initialStatus with
    | true =>
      refine .waiting hpast ?_ (by rw [hstatus, howed, ← hsends.mask, hinitial])
      rw [hfeeds, hinitial, Bool.not_true, Bool.and_false, Bool.and_false]
      rfl
    | false =>
      refine .past [] hpast ?_ List.not_mem_nil
        (by rw [hstatus, howed, ← hsends.mask, hinitial])
      rw [hfeeds, hinitial, WatchMask.opening, hinitial]
      cases t.mask.prefs <;> cases t.mask.policy <;> rfl
  | opened reads rest hpast howed hengine hrest hsends hthere hstatus =>
    refine .past (rest.map NotifyView.feed) hthere ?_ (fun hmem => ?_) hstatus
    · rw [hsends.feeds, hs.owed howed hplace, List.map_append,
        feeds_statusFrontLoads (howes.mask howed), hsends.mask]
      rfl
    · obtain ⟨view, hview, hfeed⟩ := List.mem_map.mp hmem
      exact feed_ne_status (hrest view hview).2.2 hfeed
  | flushed hpast _ hsends hthere howed hstatus =>
    obtain ⟨rest, hrest, hnone⟩ := hs.opened hpast hplace howed
    refine .past (rest ++ [.identity]) hthere ?_ (fun hmem => ?_) hstatus
    · rw [hsends.feeds, hrest, hsends.mask, List.append_assoc]
      rfl
    · rcases List.mem_append.mp hmem with hmem | hmem
      · exact hnone hmem
      · cases List.mem_singleton.mp hmem
  | @went _ _ hfront hsends hviews howed hthere hstatus =>
    have hstatusless : .status ∉ views.map NotifyView.feed := fun hmem => by
      obtain ⟨view, hview, hfeed⟩ := List.mem_map.mp hmem
      exact feed_ne_status (hviews view hview).2.2 hfeed
    rcases hfront with hpast | ⟨hended, rfl⟩
    · cases hpending : s.statusPending with
      | true =>
        obtain rfl := howed hpending
        refine .waiting hthere ?_ (hstatus.trans hpending)
        rw [hsends.feeds, hs.owed hpending hplace]
        rfl
      | false =>
        obtain ⟨rest, hrest, hnone⟩ := hs.opened hpast hplace hpending
        refine .past (rest ++ views.map NotifyView.feed) hthere ?_ (fun hmem => ?_)
          (hstatus.trans hpending)
        · rw [hsends.feeds, hrest, hsends.mask, List.append_assoc]
        · rcases List.mem_append.mp hmem with hmem | hmem
          · exact hnone hmem
          · exact hstatusless hmem
    · refine ⟨?_, fun _ h => absurd hended h, fun h => ?_, fun h => ?_, fun _ h => absurd hended h⟩
      · rw [hsends.feeds, hsends.mask, List.map_nil, List.append_nil]
        exact hs.told
      · rw [hended] at h
        cases h
      · rw [hended] at h
        cases h

theorem Opened.ended {n : Nat} (hs : Opened s) :
    Opened { s with frames := s.frames.take n, place := .ended } := by
  refine ⟨?_, fun _ h => absurd rfl h, nofun, nofun, fun _ h => absurd rfl h⟩
  show s.mask.OpensWith ((s.frames.take n).map NotifyView.feed)
  rw [List.map_take]
  exact hs.told.take n

/-- **A watch opens with what it asked for.**  The first frames are the status, the prefs and the
    policy, each if it was asked for and in this order, whatever else happens and wherever the
    stream breaks off; no other frame carries a status. -/
theorem notify_opening {mask : WatchMask} {id : String} {es : List (FeedEvent N × Option Nat)}
    (hrun : Run (NotifyStream.step report) (fun _ _ => True) (start mask id) es s) :
    s.feeds <+: mask.opening ∨ ∃ rest, s.feeds = mask.opening ++ rest ∧ .status ∉ rest := by
  obtain ⟨hmask, -⟩ := identified_of_run hrun
  obtain ⟨-, hs⟩ : Owes s ∧ Opened s := by
    refine hrun.invariant (P := fun s => Owes s ∧ Opened s) ?_ ?_
    · rintro s e t ⟨howes, hs⟩ - hstep
      refine ⟨howes.step hstep, ?_⟩
      rcases step_cases hstep with h | ⟨u, n, hu, rfl⟩
      · exact hs.chunk howes h
      · exact (hs.chunk howes hu).ended
    · exact ⟨owes_start mask id, .inl List.nil_prefix, fun _ _ => rfl, fun _ => ⟨rfl, rfl⟩, nofun,
        nofun⟩
  rw [← hmask]
  exact hs.told

/-- The watch opened with the status and the prefs. -/
theorem notify_opening_status : ∃ s, Run (NotifyStream.step id) (fun _ _ => True)
    (start askingMask "0f1e2d3c4b5a6978") openingEvents s ∧
      (s.feeds <+: [.status, .prefs] ∨
        ∃ rest, s.feeds = [.status, .prefs] ++ rest ∧ .status ∉ rest) := by
  obtain ⟨s, hrun, -⟩ := openingEvents_run
  exact ⟨s, hrun, notify_opening hrun⟩

end

end NotifyStream

end Tailnetd
