/-
  The exit-node suggestion on a watch (`ipn/mod.rs`, `ipn/diag.rs`, `stream_notify` of `server.rs`).

  Whoever computes a suggestion publishes it: the recompute task of the device, `exit-node suggest`,
  the front-load of a new watch.  They publish into one cell, by a compare-and-store under its lock,
  so the cell announces the picks with the repeats dropped.  A watch subscribes to the cell before
  anything else.  Its front-load sends the answer it computed itself and, if the cell has moved on
  in the meantime, the cell's value as a second frame; the cell is read and marked seen in one step.
  After that a change wakes the watch, which again reads and marks in one step.

  So at any time the announcements since the subscription are those the receiver has seen and those
  that are still to wake it, and the last id sent, or read and about to be sent, is the last one
  seen (`suggestion_watch_told`).  A watch whose front-load computed nothing has been sent nothing,
  whatever the cell holds, until the next change; and while a frame is being written the id before
  it is still the last one sent.
-/
import Tailnetd.Lib.Machine
import Tailnetd.Lib.WatchChannel

namespace Tailnetd

open Machine WatchChannel

/-! ## Computing a suggestion -/

/-- `ExitNodeSuggestionView`, and the engine's `ExitNodeSuggestion` it mirrors. -/
structure ExitNodeSuggestionView where
  id : String
  name : String
  deriving DecidableEq, Repr

/-- What a computation replies. -/
inductive SuggestionResponse where
  | exitNodeSuggestion (suggestion : Option ExitNodeSuggestionView) (withheldByPolicy : Bool)
  | error (message : String)
  deriving DecidableEq, Repr

/-- What the allow-list left of the engine's answer. -/
inductive PermittedSuggestion where
  | suggest (view : ExitNodeSuggestionView)
  | noCandidate
  | withheldByPolicy
  deriving DecidableEq, Repr

/-- `permitted_suggestion`: without an allow-list nothing is restricted, and an empty one permits
    nothing. -/
def permittedSuggestion (suggestion : Option ExitNodeSuggestionView)
    (allowList : Option (List String)) : PermittedSuggestion :=
  match suggestion with
  | none => .noCandidate
  | some s =>
    match allowList with
    | some allowed => if allowed.contains s.id then .suggest s else .withheldByPolicy
    | none => .suggest s

/-- `suggestion_response`. -/
def suggestionResponse (suggestion : Option ExitNodeSuggestionView)
    (allowList : Option (List String)) : SuggestionResponse :=
  match permittedSuggestion suggestion allowList with
  | .suggest view => .exitNodeSuggestion (some view) false
  | .noCandidate => .exitNodeSuggestion none false
  | .withheldByPolicy => .exitNodeSuggestion none true

/-- One computation: the engine's answer (an error by its debug text) and what
    `AllowedSuggestedExitNodes` resolved to. -/
structure Computation where
  answer : Except String (Option ExitNodeSuggestionView)
  allowList : Option (List String)

/-- `compute_suggestion`. -/
def Computation.response (c : Computation) : SuggestionResponse :=
  match c.answer with
  | .ok suggestion => suggestionResponse suggestion c.allowList
  | .error e => .error s!"exit-node suggest failed: {e}"

/-- `suggested_exit_node_id`: nothing to suggest is the empty id, and only an error is none. -/
def suggestedExitNodeId : SuggestionResponse → Option String
  | .exitNodeSuggestion suggestion _ => some ((suggestion.map fun s => s.id).getD "")
  | .error _ => none

/-- **A node the allow-list excludes is never put on the bus.** -/
theorem suggestedExitNodeId_permitted {c : Computation} {id : String} {allowed : List String}
    (hlist : c.allowList = some allowed) (h : suggestedExitNodeId c.response = some id) :
    id = "" ∨ id ∈ allowed := by
  unfold Computation.response suggestionResponse permittedSuggestion at h
  rw [hlist] at h
  cases hanswer : c.answer with
  | error e =>
    rw [hanswer] at h
    cases h
  | ok suggestion =>
    rw [hanswer] at h
    cases suggestion with
    | none => exact .inl (Option.some.inj h).symm
    | some s =>
      dsimp only at h
      by_cases hin : allowed.contains s.id = true
      · rw [if_pos hin] at h
        obtain rfl : s.id = id := Option.some.inj h
        exact .inr (List.contains_iff_mem.mp hin)
      · rw [if_neg hin] at h
        exact .inl (Option.some.inj h).symm

/-! ## Publishing it -/

/-- `publish_suggested_exit_node`: an error leaves the cell alone, an answer is stored and announced
    if the cell held another.  Returns whether it published. -/
def publishSuggestedExitNode (cell : Cell String) (response : SuggestionResponse) :
    Cell String × Bool :=
  match suggestedExitNodeId response with
  | none => (cell, false)
  | some id => cell.replaceIfNew id

/-- `forget_suggested_exit_node`: the value is cleared and no receiver hears of it. -/
def forgetSuggestedExitNode (cell : Cell String) : Cell String :=
  (cell.sendIfModified fun _ => ("", false)).1

/-- `bounded_front_load`: the engine is asked only in `Running`; `none` also when it did not answer
    in time. -/
def boundedFrontLoad (running : Bool) (answer : Option SuggestionResponse) :
    Option SuggestionResponse :=
  if running then answer else none

/-- `emit_suggestion_front_load`: the ids to send, in order, and the receiver behind them. -/
def emitSuggestionFrontLoad (response : SuggestionResponse) (rx : Receiver) (cell : Cell String) :
    List String × Receiver :=
  match suggestedExitNodeId response with
  | none => ([], rx)
  | some id =>
    let (current, rx) := rx.borrowAndUpdate cell
    (id :: if current = id then [] else [current], rx)

/-! ## The watch -/

/-- Where the stream is while it is not busy with a suggestion. -/
inductive Place where
  /-- The top of the outer loop: the device is about to be derived. -/
  | top
  /-- The select of an epoch without a device. -/
  | away
  /-- Attaching to the engine's bus. -/
  | attach
  /-- The bus could not be watched: only a lifecycle change is awaited. -/
  | parked
  /-- The select of an epoch with a device. -/
  | stream
  deriving DecidableEq, Repr

/-- What the stream is doing about suggestions, and where it goes on after that. -/
inductive Stage where
  | rests (place : Place)
  /-- The front-load has asked the engine, off the lock. -/
  | asks (next : Place)
  /-- It has the answer and waits for the lock to publish it. -/
  | publishes (response : SuggestionResponse) (next : Place)
  /-- It has published and has yet to read the cell. -/
  | reads (response : SuggestionResponse) (next : Place)
  /-- `changed` has returned, and the cell is yet to be read. -/
  | woken (next : Place)
  /-- Frames with these ids are still to be written. -/
  | writes (frames : List String) (next : Place)
  /-- The client hung up, or the daemon is gone. -/
  | ended
  deriving DecidableEq, Repr

namespace Stage

/-- The ids that were read and are still to be sent. -/
def inHand : Stage → List String
  | .writes frames _ => frames
  | _ => []

def isWoken : Stage → Bool
  | .woken _ => true
  | _ => false

/-- In the middle of the front-load, before it has read the cell. -/
def fronting : Stage → Bool
  | .asks _ => true
  | .publishes _ _ => true
  | .reads _ _ => true
  | _ => false

/-- With nothing left to write the stream goes on. -/
def sending (frames : List String) (next : Place) : Stage :=
  if frames = [] then .rests next else .writes frames next

theorem sending_cases (frames : List String) (next : Place) :
    (frames = [] ∧ sending frames next = .rests next) ∨
      sending frames next = .writes frames next := by
  unfold sending
  split
  · rename_i hnone
    exact .inl ⟨hnone, rfl⟩
  · exact .inr rfl

@[simp] theorem sending_inHand (frames : List String) (next : Place) :
    (sending frames next).inHand = frames := by
  rcases sending_cases frames next with ⟨rfl, h⟩ | h
  · rw [h]
    rfl
  · rw [h]
    rfl

@[simp] theorem sending_isWoken (frames : List String) (next : Place) :
    (sending frames next).isWoken = false := by
  rcases sending_cases frames next with ⟨-, h⟩ | h
  · rw [h]
    rfl
  · rw [h]
    rfl

@[simp] theorem sending_fronting (frames : List String) (next : Place) :
    (sending frames next).fronting = false := by
  rcases sending_cases frames next with ⟨-, h⟩ | h
  · rw [h]
    rfl
  · rw [h]
    rfl

@[simp] theorem sending_ne_reads (frames : List String) (next next' : Place)
    (response : SuggestionResponse) : sending frames next ≠ .reads response next' := by
  rcases sending_cases frames next with ⟨-, h⟩ | h
  · rw [h]
    simp
  · rw [h]
    simp

end Stage

/-- A masked watch, as far as suggestions go: its receiver, the front-loads it still owes, where it
    is, and the suggestion ids it has sent. -/
structure NotifyWatch where
  rx : Receiver
  statusPending : Bool
  suggestionPending : Bool
  stage : Stage
  sent : List String
  deriving DecidableEq, Repr

/-- The steps of a watch. -/
inductive NotifyEvent where
  /-- The top of the outer loop finds a device, or none. -/
  | derive (device : Bool)
  /-- The bus could not be watched, or was; its first frame may tell that it has closed. -/
  | attach (bus : Option Bool)
  /-- The front-load's engine call comes to an end. -/
  | answer (running : Bool) (computed : Option Computation)
  | publish
  | emitFrontLoad
  /-- A frame is written. -/
  | write
  /-- A change wakes the select. -/
  | changed
  | emitPush
  /-- The lifecycle changes, the bus closes, or an epoch without a device has sent another frame. -/
  | rederive
  | hangUp

namespace NotifyWatch

/-- `watch_suggested_exit_node`, at the start of `stream_notify`. -/
def subscribe (cell : Cell String) (suggestedExitNode initialStatus : Bool) : NotifyWatch where
  rx := cell.subscribe
  statusPending := initialStatus
  suggestionPending := suggestedExitNode
  stage := .rests .top
  sent := []

/-- The ids that were sent, and those that were read and are about to be. -/
def told (w : NotifyWatch) : List String := w.sent ++ w.stage.inHand

/-- With nothing in hand it was told what was sent. -/
theorem told_of_stage {w : NotifyWatch} {stage : Stage} (hat : w.stage = stage)
    (hnone : stage.inHand = []) : w.told = w.sent := by
  rw [told, hat, hnone, List.append_nil]

/-- The top of the outer loop. -/
def derived (w : NotifyWatch) (device : Bool) : NotifyWatch :=
  if device then
    -- behind the snapshot if that is owed, else before the bus is watched
    if w.suggestionPending && !w.statusPending then
      { w with suggestionPending := false, stage := .asks .attach }
    else { w with stage := .rests .attach }
  else { w with statusPending := false, suggestionPending := false, stage := .rests .away }

/-- The bus is watched, and the snapshot sent if it is owed. -/
def attached (w : NotifyWatch) (bus : Option Bool) : NotifyWatch :=
  let next := match bus with
    | none => Place.parked
    | some closed => if w.statusPending && closed then .top else .stream
  if w.statusPending && w.suggestionPending then
    { w with statusPending := false, suggestionPending := false, stage := .asks next }
  else { w with statusPending := false, stage := .rests next }

/-- One step of the watch, against the cell. -/
def step (cell : Cell String) (w : NotifyWatch) (e : NotifyEvent) :
    Option (Cell String × NotifyWatch) :=
  match e, w.stage with
  | .derive device, .rests .top => some (cell, w.derived device)
  | .attach bus, .rests .attach => some (cell, w.attached bus)
  | .rederive, .rests .away => some (cell, { w with stage := .rests .top })
  | .rederive, .rests .parked => some (cell, { w with stage := .rests .top })
  | .rederive, .rests .stream => some (cell, { w with stage := .rests .top })
  | .answer running computed, .asks next =>
    match boundedFrontLoad running (computed.map Computation.response) with
    | none => some (cell, { w with stage := .rests next })
    | some response => some (cell, { w with stage := .publishes response next })
  | .publish, .publishes response next =>
    some ((publishSuggestedExitNode cell response).1, { w with stage := .reads response next })
  | .emitFrontLoad, .reads response next =>
    let (frames, rx) := emitSuggestionFrontLoad response w.rx cell
    some (cell, { w with rx := rx, stage := .sending frames next })
  | .changed, .rests .away =>
    (w.rx.changed cell).map fun rx => (cell, { w with rx := rx, stage := .woken .top })
  | .changed, .rests .stream =>
    (w.rx.changed cell).map fun rx => (cell, { w with rx := rx, stage := .woken .stream })
  | .emitPush, .woken next =>
    let (id, rx) := w.rx.borrowAndUpdate cell
    some (cell, { w with rx := rx, stage := .sending [id] next })
  | .write, .writes (id :: rest) next =>
    some (cell, { w with sent := w.sent ++ [id], stage := .sending rest next })
  | .hangUp, .ended => none
  | .hangUp, _ => some (cell, { w with stage := .ended })
  | _, _ => none

end NotifyWatch

/-- The cell, and the watch once it has subscribed. -/
structure Suggesting where
  cell : Cell String
  watch : Option NotifyWatch
  deriving DecidableEq, Repr

inductive SuggestionEvent where
  /-- The recompute task, `exit-node suggest` or the front-load of another watch publishes. -/
  | publish (computed : Computation)
  /-- The node's identity changes. -/
  | forget
  | subscribe (suggestedExitNode initialStatus : Bool)
  | watch (e : NotifyEvent)

namespace Suggesting

/-- One event. -/
def step (s : Suggesting) : SuggestionEvent → Option Suggesting
  | .publish computed =>
    some { s with cell := (publishSuggestedExitNode s.cell computed.response).1 }
  | .forget => some { s with cell := forgetSuggestedExitNode s.cell }
  | .subscribe suggestedExitNode initialStatus =>
    match s.watch with
    | none =>
      some { s with watch := some (.subscribe s.cell suggestedExitNode initialStatus) }
    | some _ => none
  | .watch e =>
    (s.watch.bind fun w => w.step s.cell e).map fun r => ⟨r.1, some r.2⟩

end Suggesting

/-! ## What a step does -/

theorem publishSuggestedExitNode_none {response : SuggestionResponse} (cell : Cell String)
    (h : suggestedExitNodeId response = none) : publishSuggestedExitNode cell response =
      (cell, false) := by
  rw [publishSuggestedExitNode, h]

theorem publishSuggestedExitNode_some {response : SuggestionResponse} {id : String}
    (cell : Cell String) (h : suggestedExitNodeId response = some id) :
    publishSuggestedExitNode cell response = cell.replaceIfNew id := by
  rw [publishSuggestedExitNode, h]

/-- The steps of a watch, with what each finds and leaves. -/
inductive NotifyWatch.Does (cell : Cell String) (w : NotifyWatch) :
    NotifyEvent → Cell String → NotifyWatch → Prop
  | derive {device : Bool} (hat : w.stage = .rests .top) :
      Does cell w (.derive device) cell (w.derived device)
  | attach {bus : Option Bool} (hat : w.stage = .rests .attach) :
      Does cell w (.attach bus) cell (w.attached bus)
  | rederive {place : Place} (hat : w.stage = .rests place) (hplace : place ≠ .attach) :
      Does cell w .rederive cell { w with stage := .rests .top }
  | unanswered {running : Bool} {computed : Option Computation} {next : Place}
      (hat : w.stage = .asks next) :
      Does cell w (.answer running computed) cell { w with stage := .rests next }
  | answered {running : Bool} {computed : Option Computation} {response : SuggestionResponse}
      {next : Place} (hat : w.stage = .asks next) :
      Does cell w (.answer running computed) cell { w with stage := .publishes response next }
  | publish {response : SuggestionResponse} {next : Place}
      (hat : w.stage = .publishes response next) :
      Does cell w .publish (publishSuggestedExitNode cell response).1
        { w with stage := .reads response next }
  | frontLoad {response : SuggestionResponse} {next : Place}
      (hat : w.stage = .reads response next) :
      Does cell w .emitFrontLoad cell
        { w with
          rx := (emitSuggestionFrontLoad response w.rx cell).2
          stage := .sending (emitSuggestionFrontLoad response w.rx cell).1 next }
  | changed {place next : Place} (hat : w.stage = .rests place)
      (hplace : place = .away ∨ place = .stream) (hnew : w.rx.seen ≠ cell.version) :
      Does cell w .changed cell { w with rx := ⟨cell.version⟩, stage := .woken next }
  | push {next : Place} (hat : w.stage = .woken next) :
      Does cell w .emitPush cell
        { w with rx := ⟨cell.version⟩, stage := .sending [cell.value] next }
  | write {id : String} {rest : List String} {next : Place}
      (hat : w.stage = .writes (id :: rest) next) :
      Does cell w .write cell { w with sent := w.sent ++ [id], stage := .sending rest next }
  | hangUp : Does cell w .hangUp cell { w with stage := .ended }

namespace NotifyWatch

theorem step_does {cell cell' : Cell String} {w w' : NotifyWatch} {e : NotifyEvent}
    (h : w.step cell e = some (cell', w')) : w.Does cell e cell' w' := by
  unfold step at h
  split at h
  case h_1 hat =>
    cases h
    exact .derive hat
  case h_2 hat =>
    cases h
    exact .attach hat
  case h_3 hat =>
    cases h
    exact .rederive hat (by decide)
  case h_4 hat =>
    cases h
    exact .rederive hat (by decide)
  case h_5 hat =>
    cases h
    exact .rederive hat (by decide)
  case h_6 hat =>
    split at h
    · cases h
      exact .unanswered hat
    · cases h
      exact .answered hat
  case h_7 hat =>
    cases h
    exact .publish hat
  case h_8 hat =>
    cases h
    exact .frontLoad hat
  case h_9 hat =>
    obtain ⟨rx, hrx, heq⟩ := Option.map_eq_some_iff.mp h
    obtain ⟨hnew, rfl⟩ := Receiver.changed_eq_some.mp hrx
    cases heq
    exact .changed hat (.inl rfl) hnew
  case h_10 hat =>
    obtain ⟨rx, hrx, heq⟩ := Option.map_eq_some_iff.mp h
    obtain ⟨hnew, rfl⟩ := Receiver.changed_eq_some.mp hrx
    cases heq
    exact .changed hat (.inr rfl) hnew
  case h_11 hat =>
    cases h
    exact .push hat
  case h_12 hat =>
    cases h
    exact .write hat
  case h_13 => cases h
  case h_14 =>
    cases h
    exact .hangUp
  case h_15 => cases h

/-! ## The front-load comes first -/

/-- A front-load that is owed or under way comes before anything was sent. -/
structure Orderly (w : NotifyWatch) : Prop where
  owed : w.suggestionPending = true → w.told = [] ∧ (w.stage = .rests .top ∨
    (w.stage = .rests .attach ∧ w.statusPending = true) ∨ w.stage = .ended)
  fronting : w.stage.fronting = true → w.told = []

theorem Orderly.subscribe (cell : Cell String) (a b : Bool) :
    (NotifyWatch.subscribe cell a b).Orderly :=
  ⟨fun _ => ⟨rfl, .inl rfl⟩, fun h => by cases h⟩

/-- A watch that is past the top owes no front-load. -/
theorem Orderly.settled {w : NotifyWatch} (h : w.Orderly) {stage : Stage} (hat : w.stage = stage)
    (hpast : stage ≠ .rests .top ∧ stage ≠ .rests .attach ∧ stage ≠ .ended) :
    w.suggestionPending = false := by
  obtain ⟨htop, hattach, hlive⟩ := hpast
  subst hat
  cases hpending : w.suggestionPending with
  | false => rfl
  | true =>
    rcases (h.owed hpending).2 with hat | ⟨hat, -⟩ | hat
    · exact absurd hat htop
    · exact absurd hat hattach
    · exact absurd hat hlive

/-- With no front-load owed or under way there is nothing to keep. -/
theorem Orderly.of_settled {w : NotifyWatch} (hpending : w.suggestionPending = false)
    (hfronting : w.stage.fronting = false) : w.Orderly :=
  ⟨fun h => absurd (hpending.symm.trans h) (by decide),
    fun h => absurd (hfronting.symm.trans h) (by decide)⟩

theorem Orderly.derived {w : NotifyWatch} (h : w.Orderly) (hat : w.stage = .rests .top)
    (device : Bool) : (w.derived device).Orderly := by
  have htold := told_of_stage hat rfl
  unfold NotifyWatch.derived
  split
  · split
    · rename_i hflags
      have hpending : w.suggestionPending = true := by
        simp only [Bool.and_eq_true] at hflags
        exact hflags.1
      refine ⟨fun hcleared => (by cases hcleared), fun _ => ?_⟩
      have hnone := (h.owed hpending).1
      rw [htold] at hnone
      rw [told, hnone]
      rfl
    · rename_i hflags
      refine ⟨fun hpending => ⟨?_, .inr (.inl ⟨rfl, ?_⟩)⟩, fun hfronting => by cases hfronting⟩
      · have hnone := (h.owed hpending).1
        rw [htold] at hnone
        rw [told, hnone]
        rfl
      · have hpending' : w.suggestionPending = true := hpending
        simpa [hpending'] using hflags
  · exact .of_settled rfl rfl

theorem Orderly.attached {w : NotifyWatch} (h : w.Orderly) (hat : w.stage = .rests .attach)
    (bus : Option Bool) : (w.attached bus).Orderly := by
  have htold := told_of_stage hat rfl
  unfold NotifyWatch.attached
  dsimp only
  split
  · rename_i hflags
    have hpending : w.suggestionPending = true := by
      simp only [Bool.and_eq_true] at hflags
      exact hflags.2
    refine ⟨fun hcleared => (by cases hcleared), fun _ => ?_⟩
    have hnone := (h.owed hpending).1
    rw [htold] at hnone
    rw [told, hnone]
    rfl
  · rename_i hflags
    refine .of_settled ?_ rfl
    -- a front-load still owed here waits for the snapshot, and so is not past it
    show w.suggestionPending = false
    cases hpending : w.suggestionPending with
    | false => rfl
    | true =>
      rcases (h.owed hpending).2 with hother | ⟨-, hstatus⟩ | hother
      · rw [hat] at hother
        cases hother
      · simp [hpending, hstatus] at hflags
      · rw [hat] at hother
        cases hother

/-- **The step lemma of the order.** -/
theorem Orderly.step {cell cell' : Cell String} {w w' : NotifyWatch} {e : NotifyEvent}
    (h : w.Orderly) (hdoes : w.Does cell e cell' w') : w'.Orderly := by
  cases hdoes with
  | derive hat => exact h.derived hat _
  | attach hat => exact h.attached hat _
  | rederive hat hplace =>
    refine ⟨fun hpending => ⟨?_, .inl rfl⟩, fun hfronting => by cases hfronting⟩
    have hnone := (h.owed hpending).1
    rw [told, hat] at hnone
    exact hnone
  | unanswered hat => exact .of_settled (h.settled hat (by simp)) rfl
  | answered hat =>
    have hnone := h.fronting (by rw [hat]; rfl)
    rw [told, hat] at hnone
    have hsettled := h.settled hat (by simp)
    exact ⟨fun hpending => absurd (hsettled.symm.trans hpending) (by decide), fun _ => hnone⟩
  | publish hat =>
    have hnone := h.fronting (by rw [hat]; rfl)
    rw [told, hat] at hnone
    have hsettled := h.settled hat (by simp)
    exact ⟨fun hpending => absurd (hsettled.symm.trans hpending) (by decide), fun _ => hnone⟩
  | frontLoad hat =>
    exact .of_settled (h.settled hat (by simp)) (by simp)
  | changed hat hplace hnew =>
    rcases hplace with rfl | rfl
    · exact .of_settled (h.settled hat (by simp)) rfl
    · exact .of_settled (h.settled hat (by simp)) rfl
  | push hat =>
    exact .of_settled (h.settled hat (by simp)) (by simp)
  | write hat =>
    exact .of_settled (h.settled hat (by simp)) (by simp)
  | hangUp =>
    refine ⟨fun hpending => ⟨?_, .inr (.inr rfl)⟩, fun hfronting => by cases hfronting⟩
    have hnone := (h.owed hpending).1
    rw [told] at hnone ⊢
    rw [(List.append_eq_nil_iff.mp hnone).1]
    rfl

/-! ## What it has seen and what is still to wake it -/

/-- The values of the cell since the subscription are those the watch has seen, of which it was told
    some, the last one among them, and those it has not. -/
structure Caught (history seen unseen : List String) (cell : Cell String) (w : NotifyWatch) :
    Prop where
  split : history = seen ++ unseen
  last : history.getLast? = some cell.value
  follows : Follows w.told seen
  silent : w.told = [] → seen.length = 1
  unread : w.stage.isWoken = false → w.rx.seen + unseen.length = cell.version
  woken : w.stage.isWoken = true → unseen ≠ []
  own : ∀ response next id, w.stage = .reads response next →
    suggestedExitNodeId response = some id → id ∈ history

namespace Caught

variable {history seen unseen : List String} {cell : Cell String} {w : NotifyWatch}

theorem subscribe (cell : Cell String) (a b : Bool) :
    Caught [cell.value] [cell.value] [] cell (NotifyWatch.subscribe cell a b) where
  split := rfl
  last := rfl
  follows := .nothing _
  silent := fun _ => rfl
  unread := fun _ => rfl
  woken := fun h => by cases h
  own := fun _ _ _ h => by cases h

theorem hasChanged_iff (h : Caught history seen unseen cell w) (hread : w.stage.isWoken = false) :
    w.rx.hasChanged cell = true ↔ unseen ≠ [] := by
  have hversion := h.unread hread
  unfold Receiver.hasChanged
  rw [bne_iff_ne, ne_eq, ne_eq, ← List.length_eq_zero_iff]
  omega

/-- With nothing unseen the last id it was told is the one in the cell. -/
theorem current (h : Caught history seen unseen cell w) (hread : w.stage.isWoken = false)
    (hseen : w.rx.hasChanged cell = false) (htold : w.told ≠ []) :
    w.told.getLast? = some cell.value := by
  have hnone : unseen = [] := by
    by_contra hsome
    rw [(h.hasChanged_iff hread).mpr hsome] at hseen
    cases hseen
  have hlast := h.last
  rw [h.split, hnone, List.append_nil] at hlast
  exact h.follows.current hlast htold

/-- A publish adds to what is unseen. -/
theorem published (h : Caught history seen unseen cell w) (x : String) :
    Caught (history ++ announcements cell.value [x]) seen (unseen ++ announcements cell.value [x])
      (cell.replaceIfNew x).1 w := by
  by_cases hsame : cell.value = x
  · have hnone : announcements cell.value [x] = [] := by
      rw [hsame]
      exact announcements_same x []
    rw [Cell.replaceIfNew_same hsame, hnone, List.append_nil, List.append_nil]
    exact h
  · have hone : announcements cell.value [x] = [x] := announcements_new hsame []
    rw [Cell.replaceIfNew_new hsame, hone]
    refine ⟨?_, by simp, h.follows, h.silent, ?_, by simp, ?_⟩
    · rw [h.split, List.append_assoc]
    · intro hread
      have hversion := h.unread hread
      show w.rx.seen + (unseen ++ [x]).length = cell.version + 1
      rw [List.length_append, List.length_singleton]
      omega
    · intro response next id hat hid
      exact List.mem_append_left _ (h.own response next id hat hid)

/-- A step that neither reads nor tells, from a stage with nothing in hand. -/
theorem moved (h : Caught history seen unseen cell w) {w' : NotifyWatch} (hrx : w'.rx = w.rx)
    (htold : w'.told = w.told) (hread : w.stage.isWoken = false)
    (hread' : w'.stage.isWoken = false)
    (hreads : ∀ response next, w'.stage ≠ .reads response next) :
    Caught history seen unseen cell w' where
  split := h.split
  last := h.last
  follows := htold ▸ h.follows
  silent := htold ▸ h.silent
  unread := fun _ => hrx ▸ h.unread hread
  woken := fun hwoken => by
    rw [hread'] at hwoken
    cases hwoken
  own := fun response next _ hat => absurd hat (hreads response next)

/-- A step that reads the cell and marks it seen. -/
theorem marked (h : Caught history seen unseen cell w) {w' : NotifyWatch}
    (hrx : w'.rx.seen = cell.version) (hfollows : Follows w'.told history)
    (htold : w'.told ≠ []) (hread' : w'.stage.isWoken = false)
    (hreads : ∀ response next, w'.stage ≠ .reads response next) :
    Caught history history [] cell w' where
  split := (List.append_nil _).symm
  last := h.last
  follows := hfollows
  silent := fun hnone => absurd hnone htold
  unread := fun _ => hrx
  woken := fun hwoken => by
    rw [hread'] at hwoken
    cases hwoken
  own := fun response next _ hat => absurd hat (hreads response next)

theorem published_response (h : Caught history seen unseen cell w) (response : SuggestionResponse) :
    ∃ unseen', Caught
      (history ++ announcements cell.value (suggestedExitNodeId response).toList) seen unseen'
      (publishSuggestedExitNode cell response).1 w := by
  cases hid : suggestedExitNodeId response with
  | none =>
    rw [publishSuggestedExitNode_none cell hid, Option.toList_none, announcements_nil,
      List.append_nil]
    exact ⟨unseen, h⟩
  | some id =>
    rw [publishSuggestedExitNode_some cell hid, Option.toList_some]
    exact ⟨_, h.published id⟩

/-- The front-load has published before it reads, so its answer is in the history. -/
theorem own_published (h : Caught history seen unseen cell w) {response : SuggestionResponse}
    {next : Place} (hat : w.stage = .publishes response next) :
    ∃ unseen', Caught
      (history ++ announcements cell.value (suggestedExitNodeId response).toList) seen unseen'
      (publishSuggestedExitNode cell response).1 { w with stage := .reads response next } := by
  obtain ⟨unseen', hpublished⟩ := h.published_response response
  have hread : w.stage.isWoken = false := by
    rw [hat]
    rfl
  have htold : NotifyWatch.told { w with stage := .reads response next } = w.told := by
    rw [told, told, hat]
    rfl
  refine ⟨unseen', hpublished.split, hpublished.last, htold ▸ hpublished.follows,
    htold ▸ hpublished.silent, fun _ => hpublished.unread hread,
    (fun hwoken => by cases hwoken), ?_⟩
  intro response' next' id hstage hid
  cases hstage
  have hlast := hpublished.last
  have hvalue : (publishSuggestedExitNode cell response).1.value = id := by
    rw [publishSuggestedExitNode_some cell hid]
    by_cases hsame : cell.value = id
    · rw [Cell.replaceIfNew_same hsame]
      exact hsame
    · rw [Cell.replaceIfNew_new hsame]
  rw [hvalue] at hlast
  exact List.mem_of_getLast? hlast

/-- **The front-load** sends its own answer, and behind it the cell's value if that is another. -/
theorem front_loaded (h : Caught history seen unseen cell w) (horder : w.Orderly)
    {response : SuggestionResponse} {next : Place} (hat : w.stage = .reads response next) :
    ∃ seen' unseen', Caught history seen' unseen' cell
      { w with
        rx := (emitSuggestionFrontLoad response w.rx cell).2
        stage := .sending (emitSuggestionFrontLoad response w.rx cell).1 next } := by
  have hnone : w.told = [] := horder.fronting (by rw [hat]; rfl)
  have hsent : w.sent = [] := (List.append_eq_nil_iff.mp hnone).1
  have hread : w.stage.isWoken = false := by
    rw [hat]
    rfl
  cases hid : suggestedExitNodeId response with
  | none =>
    have hemit : emitSuggestionFrontLoad response w.rx cell = ([], w.rx) := by
      rw [emitSuggestionFrontLoad, hid]
    rw [hemit]
    refine ⟨seen, unseen, h.moved rfl ?_ hread (by simp) (by simp)⟩
    rw [hnone, told, hsent]
    rfl
  | some id =>
    have hemit : emitSuggestionFrontLoad response w.rx cell =
        (id :: if cell.value = id then [] else [cell.value], ⟨cell.version⟩) := by
      rw [emitSuggestionFrontLoad, hid]
      rfl
    rw [hemit]
    have htold : NotifyWatch.told
        { w with
          rx := ⟨cell.version⟩
          stage := .sending (id :: if cell.value = id then [] else [cell.value]) next } =
        id :: if cell.value = id then [] else [cell.value] := by
      rw [told, Stage.sending_inHand, hsent, List.nil_append]
    refine ⟨history, [], h.marked rfl ?_ ?_ (by simp) (by simp)⟩
    · rw [htold]
      by_cases hsame : cell.value = id
      · rw [if_pos hsame]
        exact .first (hsame ▸ h.last)
      · rw [if_neg hsame]
        exact .two (h.own response next id hat hid) h.last hsame
    · rw [htold]
      exact List.cons_ne_nil _ _

/-- **A wake-up** sends the newest of what was unseen. -/
theorem pushed (h : Caught history seen unseen cell w) {next : Place}
    (hat : w.stage = .woken next) : Caught history history [] cell
      { w with rx := ⟨cell.version⟩, stage := .sending [cell.value] next } := by
  have hunseen : unseen ≠ [] := h.woken (by rw [hat]; rfl)
  have hsent := told_of_stage hat rfl
  have htold : NotifyWatch.told
      { w with rx := ⟨cell.version⟩, stage := .sending [cell.value] next } =
      w.told ++ [cell.value] := by
    rw [told, Stage.sending_inHand, hsent]
  have hlast : unseen.getLast? = some cell.value := by
    have hboth := h.last
    rw [h.split, List.getLast?_append_of_ne_nil _ hunseen] at hboth
    exact hboth
  refine h.marked rfl ?_ ?_ (by simp) (by simp)
  · rw [htold, h.split]
    exact h.follows.read hlast
  · rw [htold]
    exact List.append_ne_nil_of_right_ne_nil _ (List.cons_ne_nil _ _)

end Caught

/-- What a step of the watch stores. -/
def picks (w : NotifyWatch) (e : NotifyEvent) : List String :=
  match e, w.stage with
  | .publish, .publishes response _ => (suggestedExitNodeId response).toList
  | _, _ => []

theorem picks_of_ne {w : NotifyWatch} {e : NotifyEvent} (h : e ≠ .publish) : w.picks e = [] := by
  unfold picks
  split
  · exact absurd rfl h
  · rfl

theorem picks_publish {w : NotifyWatch} {response : SuggestionResponse} {next : Place}
    (hat : w.stage = .publishes response next) :
    w.picks .publish = (suggestedExitNodeId response).toList := by
  unfold picks
  rw [hat]

theorem derived_keeps {w : NotifyWatch} (hat : w.stage = .rests .top) (device : Bool) :
    (w.derived device).rx = w.rx ∧ (w.derived device).told = w.told ∧
      (w.derived device).stage.isWoken = false ∧
      ∀ response next, (w.derived device).stage ≠ .reads response next := by
  unfold derived told
  rw [hat]
  split
  · split <;> exact ⟨rfl, rfl, rfl, fun _ _ => by simp⟩
  · exact ⟨rfl, rfl, rfl, fun _ _ => by simp⟩

theorem attached_keeps {w : NotifyWatch} (hat : w.stage = .rests .attach) (bus : Option Bool) :
    (w.attached bus).rx = w.rx ∧ (w.attached bus).told = w.told ∧
      (w.attached bus).stage.isWoken = false ∧
      ∀ response next, (w.attached bus).stage ≠ .reads response next := by
  unfold attached told
  rw [hat]
  dsimp only
  split <;> exact ⟨rfl, rfl, rfl, fun _ _ => by simp⟩

/-- **The step lemma** of what was seen. -/
theorem Caught.step {history seen unseen : List String} {cell cell' : Cell String}
    {w w' : NotifyWatch} {e : NotifyEvent} (h : Caught history seen unseen cell w)
    (horder : w.Orderly) (hdoes : w.Does cell e cell' w') (hlive : w'.stage ≠ .ended) :
    ∃ seen' unseen',
      Caught (history ++ announcements cell.value (w.picks e)) seen' unseen' cell' w' := by
  by_cases hpublish : e = .publish
  · subst hpublish
    cases hdoes with
    | publish hat =>
      obtain ⟨unseen', hpublished⟩ := h.own_published hat
      rw [picks_publish hat]
      exact ⟨seen, unseen', hpublished⟩
  rw [picks_of_ne hpublish, announcements_nil, List.append_nil]
  -- a stage in which no wake-up is pending
  have hidle {stage : Stage} (hat : w.stage = stage) (hread : stage.isWoken = false) :
      w.stage.isWoken = false := hat ▸ hread
  cases hdoes with
  | derive hat =>
    obtain ⟨hrx, htold, hread, hreads⟩ := derived_keeps hat _
    exact ⟨seen, unseen, h.moved hrx htold (hidle hat rfl) hread hreads⟩
  | attach hat =>
    obtain ⟨hrx, htold, hread, hreads⟩ := attached_keeps hat _
    exact ⟨seen, unseen, h.moved hrx htold (hidle hat rfl) hread hreads⟩
  | rederive hat | unanswered hat | answered hat =>
    refine ⟨seen, unseen, h.moved rfl ?_ (hidle hat rfl) rfl (by simp)⟩
    rw [told, told, hat]
    rfl
  | publish => exact absurd rfl hpublish
  | frontLoad hat => exact h.front_loaded horder hat
  | changed hat hplace hnew =>
    have htold (rx : Receiver) (next : Place) :
        NotifyWatch.told { w with rx := rx, stage := .woken next } = w.told := by
      rw [told, told, hat]
      rfl
    refine ⟨seen, unseen, h.split, h.last, htold _ _ ▸ h.follows, htold _ _ ▸ h.silent,
      (fun hread => by cases hread), fun _ => ?_, fun _ _ _ hstage => by cases hstage⟩
    rintro rfl
    have hversion := h.unread (hidle hat rfl)
    exact hnew hversion
  | push hat => exact ⟨history, [], h.pushed hat⟩
  | write hat =>
    refine ⟨seen, unseen, h.moved rfl ?_ (hidle hat rfl) (by simp) (by simp)⟩
    rw [told, told, hat, Stage.sending_inHand, List.append_assoc]
    rfl
  | hangUp => exact absurd rfl hlive

end NotifyWatch

/-! ## Runs -/

namespace Suggesting

/-- What a step stores in the cell. -/
def picks (s : Suggesting) (e : SuggestionEvent) (_ : Suggesting) : List String :=
  match e, s.watch with
  | .publish computed, _ => (suggestedExitNodeId computed.response).toList
  | .watch e, some w => w.picks e
  | _, _ => []

/-- What a step announces to the receivers: the new value, when the version moved. -/
def announced (s : Suggesting) (_ : SuggestionEvent) (t : Suggesting) : List String :=
  if t.cell.version = s.cell.version then [] else [t.cell.value]

/-- The answer of the watch's own front-load, when that has one. -/
def frontLoaded (_ : Suggesting) (e : SuggestionEvent) (t : Suggesting) : List String :=
  match e, t.watch.map NotifyWatch.stage with
  | .watch (.answer _ _), some (.publishes response _) => (suggestedExitNodeId response).toList
  | _, _ => []

/-- No teardown forgets the suggestion. -/
def NotForgotten (_ : Suggesting) (e : SuggestionEvent) : Prop := e ≠ .forget

theorem publish_cell (cell : Cell String) (response : SuggestionResponse) :
    (suggestedExitNodeId response).toList = [] ∧
        (publishSuggestedExitNode cell response).1 = cell ∨
      ∃ id, (suggestedExitNodeId response).toList = [id] ∧
        (publishSuggestedExitNode cell response).1 = (cell.replaceIfNew id).1 := by
  cases hid : suggestedExitNodeId response with
  | none => exact .inl ⟨rfl, by rw [publishSuggestedExitNode_none cell hid]⟩
  | some id => exact .inr ⟨id, rfl, by rw [publishSuggestedExitNode_some cell hid]⟩

/-- **What a step does to the cell**: nothing, or one compare-and-store of its pick. -/
theorem step_cell {s t : Suggesting} {e : SuggestionEvent} (h : s.step e = some t)
    (hkept : e ≠ .forget) : (s.picks e t = [] ∧ t.cell = s.cell) ∨
      ∃ id, s.picks e t = [id] ∧ t.cell = (s.cell.replaceIfNew id).1 := by
  cases e with
  | publish computed =>
    cases h
    exact publish_cell s.cell computed.response
  | forget => exact absurd rfl hkept
  | subscribe a b =>
    obtain ⟨cell, watch⟩ := s
    cases watch with
    | none =>
      cases h
      exact .inl ⟨rfl, rfl⟩
    | some w => cases h
  | watch e =>
    obtain ⟨⟨cell', w'⟩, hwatch, rfl⟩ := Option.map_eq_some_iff.mp h
    obtain ⟨w, hw, hstep⟩ := Option.bind_eq_some_iff.mp hwatch
    have hpicks : s.picks (.watch e) ⟨cell', some w'⟩ = w.picks e := by
      unfold picks
      rw [hw]
    rw [hpicks]
    cases NotifyWatch.step_does hstep with
    | publish hat =>
      rw [NotifyWatch.picks_publish hat]
      exact publish_cell s.cell _
    | _ => exact .inl ⟨NotifyWatch.picks_of_ne (by simp), rfl⟩

/-- A step announces what of its pick is new. -/
theorem step_announced {s t : Suggesting} {e : SuggestionEvent} (h : s.step e = some t)
    (hkept : e ≠ .forget) :
    s.announced e t = announcements s.cell.value (s.picks e t) ∧
      ∀ xs, announcements s.cell.value (s.picks e t ++ xs) =
        announcements s.cell.value (s.picks e t) ++ announcements t.cell.value xs := by
  rcases step_cell h hkept with ⟨hnone, hcell⟩ | ⟨id, hone, hcell⟩
  · rw [hnone, announced, hcell]
    exact ⟨if_pos rfl, fun xs => rfl⟩
  · rw [hone, announced, hcell]
    by_cases hsame : s.cell.value = id
    · subst hsame
      rw [Cell.replaceIfNew_same rfl, if_pos rfl, announcements_same]
      exact ⟨rfl, fun xs => announcements_same _ xs⟩
    · rw [Cell.replaceIfNew_new hsame, if_neg (by simp), announcements_new hsame]
      exact ⟨rfl, fun xs => announcements_new hsame xs⟩

/-- **Racing publishers.**  Whatever the order in which the publishers of a run get to the cell, it
    announces their picks with the repeats dropped. -/
theorem announced_eq {s t : Suggesting} {es : List SuggestionEvent}
    (h : Run step NotForgotten s es t) :
    emitted step announced s es = announcements s.cell.value (emitted step picks s es) := by
  induction h with
  | nil s => rfl
  | @cons s t u e es hkept hstep _ ih =>
    obtain ⟨hone, hrest⟩ := step_announced hstep hkept
    rw [emitted_cons es hstep, emitted_cons es hstep, hrest, ih, hone]

end Suggesting

namespace NotifyWatch

variable {cell cell' : Cell String} {w w' : NotifyWatch} {e : NotifyEvent}

/-- A watch that has ended does not come back. -/
theorem Does.live (hdoes : w.Does cell e cell' w') (hlive : w'.stage ≠ .ended) :
    w.stage ≠ .ended := by
  cases hdoes with
  | hangUp => exact absurd rfl hlive
  | _ hat =>
    rw [hat]
    simp

/-- The ids told are never taken back. -/
theorem Does.told_grows (hdoes : w.Does cell e cell' w') (hlive : w'.stage ≠ .ended) :
    ∃ more, w'.told = w.told ++ more := by
  cases hdoes with
  | derive hat => exact ⟨[], by rw [(derived_keeps hat _).2.1, List.append_nil]⟩
  | attach hat => exact ⟨[], by rw [(attached_keeps hat _).2.1, List.append_nil]⟩
  | @frontLoad response next hat =>
    refine ⟨(emitSuggestionFrontLoad response w.rx cell).1, ?_⟩
    rw [told_of_stage hat rfl, told, Stage.sending_inHand]
  | push hat =>
    refine ⟨[cell.value], ?_⟩
    rw [told_of_stage hat rfl, told, Stage.sending_inHand]
  | write hat =>
    refine ⟨[], ?_⟩
    rw [told, told, hat, Stage.sending_inHand, List.append_nil, List.append_assoc]
    rfl
  | hangUp => exact absurd rfl hlive
  | _ hat => exact ⟨[], by rw [told_of_stage hat rfl, List.append_nil]; exact List.append_nil _⟩

/-- The front-load has this answer and has yet to send it. -/
def Answering (w : NotifyWatch) (id : String) : Prop :=
  ∃ response next, (w.stage = .publishes response next ∨ w.stage = .reads response next) ∧
    suggestedExitNodeId response = some id

/-- An answer on its way is sent first. -/
theorem Answering.step {id : String} (h : w.Answering id) (horder : w.Orderly)
    (hdoes : w.Does cell e cell' w') (hlive : w'.stage ≠ .ended) :
    w'.Answering id ∨ w'.told.head? = some id := by
  obtain ⟨response, next, hat | hat, hid⟩ := h
  · cases hdoes with
    | publish hat' =>
      rw [hat] at hat'
      cases hat'
      exact .inl ⟨response, next, .inr rfl, hid⟩
    | hangUp => exact absurd rfl hlive
    | _ hat' =>
      rw [hat] at hat'
      cases hat'
  · cases hdoes with
    | frontLoad hat' =>
      rw [hat] at hat'
      cases hat'
      have hnone : w.told = [] := horder.fronting (by rw [hat]; rfl)
      have hsent : w.sent = [] := (List.append_eq_nil_iff.mp hnone).1
      refine .inr ?_
      rw [told, Stage.sending_inHand, hsent, emitSuggestionFrontLoad, hid]
      rfl
    | hangUp => exact absurd rfl hlive
    | _ hat' =>
      rw [hat] at hat'
      cases hat'

end NotifyWatch

namespace Suggesting

theorem watch_step {s t : Suggesting} {e : NotifyEvent} {w : NotifyWatch} (hw : s.watch = some w)
    (h : s.step (.watch e) = some t) :
    ∃ w', t.watch = some w' ∧ w.Does s.cell e t.cell w' := by
  obtain ⟨⟨cell', w'⟩, hwatch, rfl⟩ := Option.map_eq_some_iff.mp h
  rw [hw] at hwatch
  exact ⟨w', rfl, NotifyWatch.step_does hwatch⟩

/-- A watch that has not ended, in order, and caught up with a history of the cell. -/
def Watched (first : String) (later : List String) (s : Suggesting) : Prop :=
  ∃ w, s.watch = some w ∧ (w.stage ≠ .ended → w.Orderly ∧
    ∃ seen unseen, w.Caught (first :: later) seen unseen s.cell)

theorem Watched.step {first : String} {later : List String} {s t : Suggesting}
    {e : SuggestionEvent} (h : s.Watched first later) (hkept : e ≠ .forget)
    (hstep : s.step e = some t) : t.Watched first (later ++ s.announced e t) := by
  obtain ⟨w, hw, hinv⟩ := h
  rw [(step_announced hstep hkept).1]
  cases e with
  | publish computed =>
    cases hstep
    refine ⟨w, hw, fun hlive => ?_⟩
    obtain ⟨horder, seen, unseen, hcaught⟩ := hinv hlive
    obtain ⟨unseen', hpublished⟩ := hcaught.published_response computed.response
    exact ⟨horder, seen, unseen', hpublished⟩
  | forget => exact absurd rfl hkept
  | subscribe a b =>
    rw [Suggesting.step, hw] at hstep
    cases hstep
  | watch e =>
    obtain ⟨w', hw', hdoes⟩ := watch_step hw hstep
    refine ⟨w', hw', fun hlive => ?_⟩
    obtain ⟨horder, seen, unseen, hcaught⟩ := hinv (hdoes.live hlive)
    have hpicks : s.picks (.watch e) t = w.picks e := by
      unfold picks
      rw [hw]
    rw [hpicks]
    exact ⟨horder.step hdoes, hcaught.step horder hdoes hlive⟩

/-- **The run lemma.** -/
theorem Watched.run {first : String} {s t : Suggesting} {es : List SuggestionEvent}
    (h : Run Suggesting.step NotForgotten s es t) (h0 : s.Watched first []) :
    t.Watched first (emitted Suggesting.step announced s es) :=
  h.invariant_emitted (P := fun acc s => s.Watched first acc)
    (fun _ _ _ _ hinv hkept hstep => hinv.step hkept hstep) h0

/-- Every answer of the front-load is on its way, or the first id told. -/
def Answered (answers : List String) (s : Suggesting) : Prop :=
  ∃ w, s.watch = some w ∧ (w.stage ≠ .ended → w.Orderly ∧
    ∀ id ∈ answers, w.Answering id ∨ w.told.head? = some id)

theorem frontLoaded_answering {s t : Suggesting} {e : SuggestionEvent} {w : NotifyWatch}
    {id : String} (hw : t.watch = some w) (h : id ∈ s.frontLoaded e t) : w.Answering id := by
  unfold frontLoaded at h
  rw [hw] at h
  split at h
  · rename_i hstage
    exact ⟨_, _, .inl (Option.some.inj hstage), Option.mem_toList.mp h⟩
  · cases h

theorem Answered.step {answers : List String} {s t : Suggesting} {e : SuggestionEvent}
    (h : s.Answered answers) (hkept : e ≠ .forget) (hstep : s.step e = some t) :
    t.Answered (answers ++ s.frontLoaded e t) := by
  obtain ⟨w, hw, hinv⟩ := h
  cases e with
  | publish computed =>
    cases hstep
    refine ⟨w, hw, ?_⟩
    simpa [frontLoaded] using hinv
  | forget => exact absurd rfl hkept
  | subscribe a b =>
    rw [Suggesting.step, hw] at hstep
    cases hstep
  | watch e =>
    obtain ⟨w', hw', hdoes⟩ := watch_step hw hstep
    refine ⟨w', hw', fun hlive => ?_⟩
    obtain ⟨horder, hanswers⟩ := hinv (hdoes.live hlive)
    refine ⟨horder.step hdoes, ?_⟩
    intro id hin
    rcases List.mem_append.mp hin with hold | hnew
    · rcases hanswers id hold with hanswering | hhead
      · exact hanswering.step horder hdoes hlive
      · obtain ⟨more, hmore⟩ := hdoes.told_grows hlive
        rw [hmore, List.head?_append, hhead]
        exact .inr rfl
    · exact .inl (frontLoaded_answering hw' hnew)

theorem Answered.run {s t : Suggesting} {es : List SuggestionEvent}
    (h : Run Suggesting.step NotForgotten s es t) (h0 : s.Answered []) :
    t.Answered (emitted Suggesting.step frontLoaded s es) :=
  h.invariant_emitted (P := fun acc s => s.Answered acc)
    (fun _ _ _ _ hinv hkept hstep => hinv.step hkept hstep) h0

/-- A fresh watch has heard nothing and is in step with the cell. -/
theorem subscribed {s s' : Suggesting} {a b : Bool} (h : s.step (.subscribe a b) = some s') :
    s'.cell = s.cell ∧ s'.Watched s.cell.value [] ∧ s'.Answered [] := by
  obtain ⟨cell, watch⟩ := s
  cases watch with
  | none =>
    cases h
    have horder := NotifyWatch.Orderly.subscribe cell a b
    refine ⟨rfl, ⟨_, rfl, fun _ => ⟨horder, _, _, NotifyWatch.Caught.subscribe cell a b⟩⟩, ?_⟩
    exact ⟨_, rfl, fun _ => ⟨horder, fun _ hin => by cases hin⟩⟩
  | some w => cases h

/-- An unseen change wakes a watch that is at a select. -/
theorem unseen_wakes {s : Suggesting} {w : NotifyWatch} (hw : s.watch = some w)
    (hat : w.stage = .rests .away ∨ w.stage = .rests .stream)
    (hunseen : w.rx.hasChanged s.cell = true) : ∃ t, s.step (.watch .changed) = some t := by
  have hchanged : w.rx.changed s.cell = some ⟨s.cell.version⟩ := by
    rw [Receiver.changed, if_pos hunseen]
  unfold Suggesting.step NotifyWatch.step
  rcases hat with hat | hat
  · simp [hw, hat, hchanged]
  · simp [hw, hat, hchanged]

end Suggesting

open Suggesting in
/-- **What a watch is told of the suggestion**, in every run after its subscription in which no
    teardown forgets it.  The announcements since the subscription are those seen and those still to
    wake the watch; it was told some of what it has seen, in order, the last one among them, and
    nothing only if it has read nothing.  So with nothing unseen, and no cell yet to be read, the
    last id sent or in hand is the cell's.  An answer of its front-load is the first id it sends.
    Publishers announce their picks with the repeats dropped, and one pick among them once. -/
theorem suggestion_watch_told {s s' t : Suggesting} {suggestedExitNode initialStatus : Bool}
    {es : List SuggestionEvent} {w : NotifyWatch}
    (hsubscribe : s.step (.subscribe suggestedExitNode initialStatus) = some s')
    (h : Run Suggesting.step NotForgotten s' es t) (hw : t.watch = some w)
    (hlive : w.stage ≠ .ended) :
    (∃ seen unseen, s.cell.value :: emitted Suggesting.step announced s' es = seen ++ unseen ∧
      w.told.Sublist seen ∧ (w.told ≠ [] → w.told.getLast? = seen.getLast?) ∧
      (w.told = [] → seen = [s.cell.value]) ∧
      (w.stage.isWoken = false → (w.rx.hasChanged t.cell = true ↔ unseen ≠ [])) ∧
      (w.stage.isWoken = true → unseen ≠ []) ∧
      ((w.stage = .rests .away ∨ w.stage = .rests .stream) → unseen ≠ [] →
        ∃ t', t.step (.watch .changed) = some t')) ∧
    (w.stage.isWoken = false → w.rx.hasChanged t.cell = false →
      w.told = [] ∨ w.told.getLast? = some t.cell.value) ∧
    (w.stage.isWoken = false → w.stage.inHand = [] → w.rx.hasChanged t.cell = false →
      w.sent = [] ∨ w.sent.getLast? = some t.cell.value) ∧
    (∀ id ∈ emitted Suggesting.step frontLoaded s' es,
      w.stage.fronting = true ∨ w.told.head? = some id) ∧
    emitted Suggesting.step announced s' es =
      announcements s.cell.value (emitted Suggesting.step picks s' es) ∧
    ∀ id, (∀ x ∈ emitted Suggesting.step picks s' es, x = id) →
      emitted Suggesting.step announced s' es =
        if emitted Suggesting.step picks s' es = [] ∨ s.cell.value = id then [] else [id] := by
  obtain ⟨hcell, hwatched, hanswered⟩ := subscribed hsubscribe
  obtain ⟨w', hw', hinv⟩ := hwatched.run h
  obtain rfl : w' = w := Option.some.inj (hw'.symm.trans hw)
  obtain ⟨-, seen, unseen, hcaught⟩ := hinv hlive
  obtain ⟨w'', hw'', hanswers⟩ := hanswered.run h
  obtain rfl : w'' = w' := Option.some.inj (hw''.symm.trans hw)
  have hannounced := announced_eq h
  rw [hcell] at hannounced
  refine ⟨⟨seen, unseen, hcaught.split, hcaught.follows.sublist, hcaught.follows.latest, ?_,
    hcaught.hasChanged_iff, hcaught.woken, ?_⟩, ?_, ?_, ?_, hannounced, ?_⟩
  · intro hnone
    obtain ⟨x, rfl⟩ := List.length_eq_one_iff.mp (hcaught.silent hnone)
    have hsplit := hcaught.split
    rw [List.singleton_append] at hsplit
    rw [(List.cons.inj hsplit).1]
  · intro hat hunseen
    have hread : w''.stage.isWoken = false := by
      rcases hat with hat | hat
      · rw [hat]
        rfl
      · rw [hat]
        rfl
    exact unseen_wakes hw hat ((hcaught.hasChanged_iff hread).mpr hunseen)
  · intro hread hseen
    by_cases htold : w''.told = []
    · exact .inl htold
    · exact .inr (hcaught.current hread hseen htold)
  · intro hread hhand hseen
    have htold := NotifyWatch.told_of_stage rfl hhand
    by_cases hsent : w''.sent = []
    · exact .inl hsent
    · rw [← htold] at hsent ⊢
      exact .inr (hcaught.current hread hseen hsent)
  · intro id hin
    rcases (hanswers hlive).2 id hin with ⟨response, next, hat | hat, -⟩ | hhead
    · exact .inl (by rw [hat]; rfl)
    · exact .inl (by rw [hat]; rfl)
    · exact .inr hhead
  · intro id hsame
    rw [hannounced]
    exact announcements_of_same hsame

/-- The engine picks a node, and no allow-list restricts it. -/
def picked (id : String) : Computation := ⟨.ok (some ⟨id, "berlin"⟩), none⟩

/-- A daemon whose cell holds this id, before the watch subscribes. -/
def Suggesting.holding (id : String) : Suggesting := ⟨⟨id, 0⟩, none⟩

/-- A pick is published behind the front-load; then two publishers race with one pick, before and
    after the watch has noticed. -/
def racedEvents : List SuggestionEvent :=
  [.watch (.derive true), .watch (.answer true (some (picked "nodeid-a"))), .watch .publish,
    .publish (picked "nodeid-b"), .watch .emitFrontLoad, .watch .write, .watch .write,
    .watch (.attach (some false)), .publish (picked "nodeid-c"), .watch .changed,
    .publish (picked "nodeid-c"), .watch .emitPush, .watch .write]

/-- The watch hears of each pick once, and of the last one last. -/
theorem raced_watch_told : ∃ s' t w,
    (Suggesting.holding "").step (.subscribe true false) = some s' ∧
    follow Suggesting.step s' racedEvents = some t ∧ t.watch = some w ∧
    w.sent = ["nodeid-a", "nodeid-b", "nodeid-c"] ∧
    (w.sent = [] ∨ w.sent.getLast? = some t.cell.value) := by
  have hsubscribe : (Suggesting.holding "").step (.subscribe true false) =
      some ⟨⟨"", 0⟩, some (.subscribe ⟨"", 0⟩ true false)⟩ := rfl
  have hfollow : follow Suggesting.step ⟨⟨"", 0⟩, some (.subscribe ⟨"", 0⟩ true false)⟩
      racedEvents = some ⟨⟨"nodeid-c", 3⟩, some ⟨⟨3⟩, false, false, .rests .stream,
        ["nodeid-a", "nodeid-b", "nodeid-c"]⟩⟩ := rfl
  have hkept : ∀ e ∈ racedEvents, ∀ s, Suggesting.NotForgotten s e := by
    simp [racedEvents, Suggesting.NotForgotten]
  refine ⟨_, _, _, hsubscribe, hfollow, rfl, rfl, ?_⟩
  exact (suggestion_watch_told hsubscribe (run_of_follow hkept hfollow) rfl (by decide)).2.2.1 rfl
    rfl rfl

/-- With no device nothing is front-loaded: the watch has been sent no id, nothing is unseen, and
    the cell holds one.  And between the two frames of a front-load the id sent last is the answer,
    while the cell, read and marked seen, holds the newer pick. -/
theorem seen_cell_not_sent :
    (∃ t w, follow Suggesting.step (Suggesting.holding "nodeid-old")
        [.subscribe true false, .watch (.derive false)] = some t ∧
      t.watch = some w ∧ w.rx.hasChanged t.cell = false ∧ t.cell.value = "nodeid-old" ∧
      w.sent.getLast? = none) ∧
    ∃ t w, follow Suggesting.step (Suggesting.holding "")
        [.subscribe true false, .watch (.derive true),
          .watch (.answer true (some (picked "nodeid-a"))), .watch .publish,
          .publish (picked "nodeid-b"), .watch .emitFrontLoad, .watch .write] = some t ∧
      t.watch = some w ∧ w.rx.hasChanged t.cell = false ∧ t.cell.value = "nodeid-b" ∧
      w.sent.getLast? = some "nodeid-a" :=
  ⟨⟨_, _, rfl, rfl, rfl, rfl, rfl⟩, _, _, rfl, rfl, rfl, rfl, rfl⟩

end Tailnetd
