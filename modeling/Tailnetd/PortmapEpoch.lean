/-
  The epochs of the gateway's answers (`portmap.rs`).

  Every NAT-PMP and PCP answer carries the seconds since the gateway lost its state, and an epoch
  that went backwards says that it rebooted and forgot the mappings it had granted.  A probe's
  answer comes through `handle_pxp_response`, which drops the held mapping on such an answer before
  it records the epoch as the last one.  What it compares with, though, is the epoch the mapping was
  granted under, and the last one is written and never read:

    grant at 100,  answer at 50               the mapping is dropped
    grant at 100,  answers at 200 and at 150  the gateway rebooted in between, the mapping is kept

  `Listener` is the machine of the client's sections with the answers as they come off the wire; it
  remembers which epochs were recorded since the held mapping was stored.
-/
import Tailnetd.PortmapReceive

namespace Tailnetd

namespace Portmap

open Machine

/-! ## An answer to a probe -/

def pcpOpAnnounce : UInt8 := 0

def pcpNotAuthorized : UInt8 := 2

def pcpAddressMismatch : UInt8 := 12

/-- `ProbeResult`. -/
structure ProbeResult where
  pcp : Bool := false
  pmp : Bool := false
  upnp : Bool := false
  deriving DecidableEq, Repr

/-- What a probe has learned, and `pcp_heard`. -/
structure Probed where
  res : ProbeResult := {}
  pcpHeard : Bool := false
  deriving DecidableEq, Repr

/-- The NAT-PMP half of `handle_pxp_response`. -/
def handlePmpResponse (st : State) (probed : Probed) (pkt : List UInt8) (now : SystemTime) :
    State × Probed :=
  match parsePmpResponse pkt with
  | none => (st, probed)
  | some pres =>
    if pres.opCode ≠ pmpOpReply ||| pmpOpMapPublicAddr then (st, probed)
    else if pres.resultCode = 0 then
      (st.heardPmp pres.publicAddr pres.secondsSinceEpoch now,
        { probed with res := { probed.res with pmp := true } })
    else (st, probed)

/-- `handle_pxp_response`. -/
def handlePxpResponse (st : State) (probed : Probed) (pkt : List UInt8) (now : SystemTime) :
    State × Probed :=
  match parsePcpResponse pkt with
  | none => handlePmpResponse st probed pkt now
  | some pres =>
    if pres.opCode = pcpOpReply ||| pcpOpAnnounce then
      let st := st.heardPcp pres.epoch now
      let probed := { probed with pcpHeard := true }
      if pres.resultCode = 0 then (st, { probed with res := { probed.res with pcp := true } })
      else if pres.resultCode = pcpNotAuthorized ∨ pres.resultCode = pcpAddressMismatch then
        (st, { probed with res := { probed.res with pcp := false } })
      else handlePmpResponse st probed pkt now
    else handlePmpResponse st probed pkt now

/-- The epoch of a public-address answer that is no refusal. -/
def pmpEpoch (pkt : List UInt8) : Option UInt32 :=
  (parsePmpResponse pkt).bind fun pres =>
    if pres.opCode = pmpOpReply ||| pmpOpMapPublicAddr ∧ pres.resultCode = 0 then
      some pres.secondsSinceEpoch
    else none

/-- The epoch of an answer to an ANNOUNCE. -/
def pcpEpoch (pkt : List UInt8) : Option UInt32 :=
  (parsePcpResponse pkt).bind fun pres =>
    if pres.opCode = pcpOpReply ||| pcpOpAnnounce then some pres.epoch else none

/-- The epoch an answer has recorded for a service. -/
def recordedEpoch (pkt : List UInt8) : MappingKind → Option UInt32
  | .pmp => pmpEpoch pkt
  | .pcp => pcpEpoch pkt

/-- The epoch of an answer that is a success: a PCP refusal is recorded too. -/
def successEpoch (pkt : List UInt8) : MappingKind → Option UInt32
  | .pmp => pmpEpoch pkt
  | .pcp =>
    (parsePcpResponse pkt).bind fun pres =>
      if pres.opCode = pcpOpReply ||| pcpOpAnnounce ∧ pres.resultCode = 0 then some pres.epoch
      else none

/-- A success is recorded. -/
theorem recorded_of_success {pkt : List UInt8} {kind : MappingKind} {e : UInt32}
    (h : successEpoch pkt kind = some e) : recordedEpoch pkt kind = some e := by
  cases kind with
  | pmp => exact h
  | pcp =>
    obtain ⟨pres, hparse, hepoch⟩ := Option.bind_eq_some_iff.mp h
    show (parsePcpResponse pkt).bind _ = some e
    rw [hparse, Option.bind_some]
    split at hepoch
    · rename_i hok
      rw [if_pos hok.1]
      exact hepoch
    · cases hepoch

/-- A datagram that parses as PCP does not as NAT-PMP. -/
theorem parsePmpResponse_of_pcp {pkt : List UInt8} {pres : PcpResponse}
    (h : parsePcpResponse pkt = some pres) : parsePmpResponse pkt = none := by
  unfold parsePcpResponse at h
  split at h
  · cases h
  · rename_i hheader
    obtain ⟨-, hversion⟩ := not_or.mp hheader
    have hother : byteAt pkt 0 ≠ pmpVersion := by
      rw [not_not.mp hversion]
      decide
    unfold parsePmpResponse
    split
    · rfl
    · rfl

/-- A NAT-PMP answer leaves the state to its section, if it has an epoch to record. -/
theorem handlePmpResponse_state (st : State) (probed : Probed) (pkt : List UInt8)
    (now : SystemTime) :
    (pmpEpoch pkt = none ∧ (handlePmpResponse st probed pkt now).1 = st) ∨
      ∃ e publicAddr, pmpEpoch pkt = some e ∧
        (handlePmpResponse st probed pkt now).1 = st.heardPmp publicAddr e now := by
  unfold handlePmpResponse pmpEpoch
  cases parsePmpResponse pkt with
  | none => exact .inl ⟨rfl, rfl⟩
  | some pres =>
    rw [Option.bind_some]
    dsimp only
    by_cases hop : pres.opCode = pmpOpReply ||| pmpOpMapPublicAddr
    · rw [if_neg (not_not.mpr hop)]
      by_cases hok : pres.resultCode = 0
      · rw [if_pos hok, if_pos ⟨hop, hok⟩]
        exact .inr ⟨_, _, rfl, rfl⟩
      · rw [if_neg hok, if_neg fun h => hok h.2]
        exact .inl ⟨rfl, rfl⟩
    · rw [if_pos hop, if_neg fun h => hop h.1]
      exact .inl ⟨rfl, rfl⟩

/-- An answer leaves the state to the section of the service it comes from: a PCP one is recorded
    for PCP alone, whatever falls through. -/
theorem handlePxpResponse_state (st : State) (probed : Probed) (pkt : List UInt8)
    (now : SystemTime) :
    (∃ e, pcpEpoch pkt = some e ∧ pmpEpoch pkt = none ∧
      (handlePxpResponse st probed pkt now).1 = st.heardPcp e now) ∨
    (pcpEpoch pkt = none ∧ ((pmpEpoch pkt = none ∧ (handlePxpResponse st probed pkt now).1 = st) ∨
      ∃ e publicAddr, pmpEpoch pkt = some e ∧
        (handlePxpResponse st probed pkt now).1 = st.heardPmp publicAddr e now)) := by
  cases hpcp : parsePcpResponse pkt with
  | none =>
    have hepoch : pcpEpoch pkt = none := by
      rw [pcpEpoch, hpcp, Option.bind_none]
    have hsame : handlePxpResponse st probed pkt now = handlePmpResponse st probed pkt now := by
      rw [handlePxpResponse, hpcp]
    rw [hsame]
    exact .inr ⟨hepoch, handlePmpResponse_state st probed pkt now⟩
  | some pres =>
    have hpmp : pmpEpoch pkt = none := by
      rw [pmpEpoch, parsePmpResponse_of_pcp hpcp, Option.bind_none]
    -- what falls through finds no NAT-PMP answer
    have hnothing : ∀ st probed, handlePmpResponse st probed pkt now = (st, probed) := by
      intro st probed
      rw [handlePmpResponse, parsePmpResponse_of_pcp hpcp]
    unfold handlePxpResponse pcpEpoch
    rw [hpcp, Option.bind_some]
    dsimp only
    by_cases hop : pres.opCode = pcpOpReply ||| pcpOpAnnounce
    · rw [if_pos hop, if_pos hop]
      refine .inl ⟨pres.epoch, rfl, hpmp, ?_⟩
      split
      · rfl
      · split
        · rfl
        · rw [hnothing]
    · rw [if_neg hop, if_neg hop, hnothing]
      exact .inr ⟨rfl, .inl ⟨hpmp, rfl⟩⟩

/-! ## What an answer drops -/

/-- The mapping that an epoch of this service drops: one of the same service, granted under a higher
    epoch. -/
def Mapping.outlived (m : Mapping) (kind : MappingKind) (epoch : UInt32) : Bool :=
  decide (epoch ≠ 0 ∧ m.kind = kind ∧ epoch < m.epoch)

/-- The comparison as the code makes it. -/
theorem outlived_eq_false_iff {m : Mapping} {kind : MappingKind} {epoch : UInt32}
    (hepoch : epoch ≠ 0) : m.outlived kind epoch = false ↔ m.kind ≠ kind ∨ m.epoch ≤ epoch := by
  unfold Mapping.outlived
  rw [decide_eq_false_iff_not, not_and, not_and_or, UInt32.not_lt]
  exact ⟨fun h => h hepoch, fun h _ => h⟩

theorem heardPmp_mapping (st : State) (publicAddr : Option (List Nat)) (epoch : UInt32)
    (now : SystemTime) :
    (st.heardPmp publicAddr epoch now).mapping =
      st.mapping.filter fun m => !m.outlived .pmp epoch := by
  show (st.maybeInvalidatePmpMapping epoch).mapping = _
  unfold State.maybeInvalidatePmpMapping
  cases hm : st.mapping with
  | none =>
    split
    · exact hm
    · exact hm
  | some m =>
    by_cases hepoch : epoch = 0
    · rw [if_pos hepoch, hm, hepoch]
      rfl
    · rw [if_neg hepoch]
      dsimp only
      by_cases hkept : m.kind ≠ .pmp ∨ m.epoch ≤ epoch
      · rw [if_pos hkept, hm, Option.filter_some_pos]
        rw [(outlived_eq_false_iff hepoch).mpr hkept]
        rfl
      · rw [if_neg hkept, Option.filter_some_neg]
        rw [Bool.eq_true_of_not_eq_false fun h => hkept ((outlived_eq_false_iff hepoch).mp h)]
        rfl

theorem heardPcp_mapping (st : State) (epoch : UInt32) (now : SystemTime) :
    (st.heardPcp epoch now).mapping = st.mapping.filter fun m => !m.outlived .pcp epoch := by
  show (st.maybeInvalidatePcpMapping epoch).mapping = _
  unfold State.maybeInvalidatePcpMapping
  cases hm : st.mapping with
  | none =>
    split
    · exact hm
    · exact hm
  | some m =>
    by_cases hepoch : epoch = 0
    · rw [if_pos hepoch, hm, hepoch]
      rfl
    · rw [if_neg hepoch]
      dsimp only
      by_cases hkept : m.kind ≠ .pcp ∨ m.epoch ≤ epoch
      · rw [if_pos hkept, hm, Option.filter_some_pos]
        rw [(outlived_eq_false_iff hepoch).mpr hkept]
        rfl
      · rw [if_neg hkept, Option.filter_some_neg]
        rw [Bool.eq_true_of_not_eq_false fun h => hkept ((outlived_eq_false_iff hepoch).mp h)]
        rfl

/-- **What an answer leaves of the mapping**: it drops one that its own service granted under a
    higher epoch, and nothing else. -/
theorem handlePxpResponse_mapping {st : State} (probed : Probed) {pkt : List UInt8}
    (now : SystemTime) {kind : MappingKind} {e : UInt32} (he : recordedEpoch pkt kind = some e) :
    (handlePxpResponse st probed pkt now).1.mapping =
      st.mapping.filter fun m => !m.outlived kind e := by
  rcases handlePxpResponse_state st probed pkt now with ⟨e', hpcp, hpmp, hstate⟩ |
    ⟨hpcp, ⟨hpmp, -⟩ | ⟨e', publicAddr, hpmp, hstate⟩⟩
  · cases kind with
    | pmp => cases hpmp.symm.trans he
    | pcp =>
      cases hpcp.symm.trans he
      rw [hstate, heardPcp_mapping]
  · cases kind with
    | pmp => cases hpmp.symm.trans he
    | pcp => cases hpcp.symm.trans he
  · cases kind with
    | pmp =>
      cases hpmp.symm.trans he
      rw [hstate, heardPmp_mapping]
    | pcp => cases hpcp.symm.trans he

/-! ## Every run -/

/-- The client, and the epochs that were recorded for each service since the mapping it holds was
    stored, newest first. -/
structure Listener where
  client : Client
  heard : MappingKind → List UInt32 := fun _ => []

/-- An answer to a probe, or any other section of the client. -/
inductive ListenerEvent where
  | response (probed : Probed) (pkt : List UInt8) (now : SystemTime)
  | lock (e : Event)

namespace Listener

/-- One event: what a probe hears comes off the wire, and a store begins the record anew. -/
def step (w : Listener) : ListenerEvent → Option Listener
  | .response probed pkt now =>
    some
      { client :=
          { w.client with state := (handlePxpResponse w.client.state probed pkt now).1 }
        heard := fun kind => (recordedEpoch pkt kind).toList ++ w.heard kind }
  | .lock (.heardPmp _ _ _) => none
  | .lock (.heardPcp _ _) => none
  | .lock (.storeMapping i g) =>
    (w.client.step (.storeMapping i g)).map fun c =>
      { client := c, heard := if w.client.state.closed then w.heard else fun _ => [] }
  | .lock e => (w.client.step e).map fun c => { w with client := c }

/-- A fall: the answer is a success of the service that granted the mapping, and its epoch is below
    that of the grant or below one recorded since. -/
structure Fall (w : Listener) (pkt : List UInt8) (m : Mapping) (e : UInt32) : Prop where
  held : w.client.state.mapping = some m
  success : successEpoch pkt m.kind = some e
  nonzero : e ≠ 0
  below : e < m.epoch ∨ ∃ e' ∈ w.heard m.kind, e < e'

/-- Every fall drops the mapping. -/
def Forgets (w : Listener) : ListenerEvent → Prop
  | .response probed pkt now =>
    ∀ m e, w.Fall pkt m e → (handlePxpResponse w.client.state probed pkt now).1.mapping = none
  | .lock _ => True

/-- Every fall is one below the epoch of the grant: the epochs did not rise above it before. -/
def FallsBelowGrant (w : Listener) : ListenerEvent → Prop
  | .response _ pkt _ => ∀ m e, w.Fall pkt m e → e < m.epoch
  | .lock _ => True

/-- **A fall drops the mapping exactly when it is below the grant.** -/
theorem fall_drops_iff {w : Listener} {pkt : List UInt8} {m : Mapping} {e : UInt32}
    (h : w.Fall pkt m e) (probed : Probed) (now : SystemTime) :
    (handlePxpResponse w.client.state probed pkt now).1.mapping = none ↔ e < m.epoch := by
  rw [handlePxpResponse_mapping probed now (recorded_of_success h.success), h.held]
  constructor
  · intro hnone
    cases houtlived : m.outlived m.kind e with
    | true => exact (of_decide_eq_true houtlived).2.2
    | false =>
      rw [Option.filter_some_pos (by rw [houtlived]; rfl)] at hnone
      cases hnone
  · intro hlt
    have houtlived : m.outlived m.kind e = true := decide_eq_true ⟨h.nonzero, rfl, hlt⟩
    exact Option.filter_some_neg (by rw [houtlived]; rfl)

/-- One step. -/
theorem forgets_iff (w : Listener) (e : ListenerEvent) : w.Forgets e ↔ w.FallsBelowGrant e := by
  cases e with
  | lock e => exact Iff.rfl
  | response probed pkt now =>
    constructor
    · intro hforgets m e hfall
      exact (fall_drops_iff hfall probed now).mp (hforgets m e hfall)
    · intro hbelow m e hfall
      exact (fall_drops_iff hfall probed now).mpr (hbelow m e hfall)

end Listener

/-- **Every answer whose epoch fell drops the mapping, in the runs where no epoch falls from above
    the grant's to one that is not below it**, and in no others. -/
theorem epoch_falls_forget_iff (knobs : Knobs) (es : List ListenerEvent) (w : Listener) :
    Run Listener.step Listener.Forgets { client := { knobs := knobs } } es w ↔
      Run Listener.step Listener.FallsBelowGrant { client := { knobs := knobs } } es w :=
  ⟨Run.mono fun w e => (w.forgets_iff e).mp, Run.mono fun w e => (w.forgets_iff e).mpr⟩

/-- A public-address answer under an epoch. -/
def epochAnswer (epoch : UInt8) : List UInt8 := [0, 0x80, 0, 0, 0, 0, 0, epoch, 203, 0, 113, 5]

/-- A mapping that was granted under epoch 100. -/
def grantedAtHundred : List ListenerEvent :=
  [.lock (.setLocalPort 41641), .lock .call, .lock (.enter 0), .lock (.locate 0 (some homeRouter)),
    .lock (.snapshot 0 0), .lock (.storeMapping 0 { pmpGrant with epoch := 100 })]

/-- **The epoch rises to 200 and falls to 150, and the mapping stays**: the router rebooted in
    between. -/
theorem reboot_unnoticed :
    ¬ ∀ (knobs : Knobs) (es : List ListenerEvent) (w : Listener),
      Run Listener.step (fun _ _ => True) { client := { knobs := knobs } } es w →
        Run Listener.step Listener.Forgets { client := { knobs := knobs } } es w := by
  intro hclaim
  obtain ⟨w, m, hrun, hfall, hkept⟩ : ∃ w m,
      follow Listener.step { client := { knobs := {} } }
        (grantedAtHundred ++ [.response {} (epochAnswer 200) 0]) = some w ∧
      w.Fall (epochAnswer 150) m 150 ∧
      (handlePxpResponse w.client.state {} (epochAnswer 150) 0).1.mapping ≠ none :=
    ⟨_, _, rfl, ⟨rfl, rfl, by decide, .inr ⟨200, List.mem_cons_self, by decide⟩⟩,
      fun hnone => (by cases hnone)⟩
  have hbefore : Run Listener.step (fun _ _ => True) _ _ w :=
    run_of_follow (fun _ _ _ => trivial) hrun
  have hstep : Run Listener.step (fun _ _ => True) w [.response {} (epochAnswer 150) 0] _ :=
    .single trivial rfl
  obtain ⟨t, hto, hlast⟩ := (hclaim {} _ _ (hbefore.append hstep)).split
  obtain rfl := hto.deterministic hbefore
  cases hlast with
  | cons hforgets => exact hkept (hforgets m 150 hfall)

end Portmap

end Tailnetd
