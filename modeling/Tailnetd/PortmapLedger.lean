/-
  What becomes of the mappings a client obtains.

  A mapping that a call obtains goes through `store_mapping`: an open client holds it, a closed one
  gives it back at once.  A held mapping ends in one of three ways.  It is released, when the port
  or the network changes or the client closes; it is dropped unreleased, when it is too late to
  release it or the gateway has forgotten it; or a later one takes its place.  The last is how a
  lease is renewed: a gateway knows one mapping for an internal endpoint, and the old value and the
  new one both stand for it.  The books kept here balance over any run, so no mapping is lost
  without a trace.
-/
import Tailnetd.PortmapCurrent
import Tailnetd.Lib.Ledger

namespace Tailnetd

namespace Portmap

open Machine

/-! ## The books -/

namespace Client

/-- The mapping a call passes to `store_mapping`. -/
def obtained (c : Client) : Event → Client → List Mapping
  | .storeMapping i g, _ =>
    match c.attempts[i]? with
    | some a =>
      match a.phase with
      | .asking ask => [ask.mapping g]
      | _ => []
    | none => []
  | _, _ => []

/-- The held mapping, where the section drops it and means not to release it: the network went down,
    or an epoch went backwards. -/
def dropped (c : Client) : Event → Client → List Mapping
  | .noteNetworkDown, _ => c.state.mapping.toList
  | .heardPmp _ _ _, c' => if c'.state.mapping.isNone then c.state.mapping.toList else []
  | .heardPcp _ _, c' => if c'.state.mapping.isNone then c.state.mapping.toList else []
  | _, _ => []

/-- The held mapping with the one that a store puts in its place. -/
def replaced (c : Client) : Event → Client → List (Mapping × Mapping)
  | .storeMapping _ _, c' =>
    if c.state.closed then []
    else c.state.mapping.toList.flatMap fun m => c'.state.mapping.toList.map fun m' => (m, m')
  | _, _ => []

/-- What a section does with the held mapping, and what it enters in the books. -/
inductive Moves (c c' : Client) : List Mapping → List Mapping → List (Mapping × Mapping) → Prop
  | kept (hmapping : c'.state.mapping = c.state.mapping) (hreleased : c'.released = c.released)
      (hclosed : c'.state.closed = c.state.closed) : Moves c c' [] [] []
  | released (hmapping : c'.state.mapping = none)
      (hreleased : c'.released = c.state.mapping.toList ++ c.released)
      (hclosed : c.state.closed = true → c'.state.closed = true) : Moves c c' [] [] []
  | dropped (hmapping : c'.state.mapping = none) (hreleased : c'.released = c.released)
      (hclosed : c'.state.closed = c.state.closed) : Moves c c' [] c.state.mapping.toList []
  | stored {m : Mapping} (hopen : c.state.closed = false) (hmapping : c'.state.mapping = some m)
      (hreleased : c'.released = c.released) (hclosed : c'.state.closed = c.state.closed) :
      Moves c c' [m] [] (c.state.mapping.toList.map fun old => (old, m))
  | refused {m : Mapping} (hmapping : c'.state.mapping = c.state.mapping)
      (hreleased : c'.released = m :: c.released) (hopen : c.state.closed = true)
      (hclosed : c'.state.closed = c.state.closed) : Moves c c' [m] [] []

/-- The calls in flight are not in the books. -/
theorem Moves.advance {c c' : Client} {taken gone : List Mapping}
    {pairs : List (Mapping × Mapping)} (h : Moves c c' taken gone pairs) (i : Nat) (a : Attempt)
    (phase : Phase) : Moves c (c'.advance i a phase) taken gone pairs := by
  cases h with
  | kept hmapping hreleased hclosed => exact .kept hmapping hreleased hclosed
  | released hmapping hreleased hclosed => exact .released hmapping hreleased hclosed
  | dropped hmapping hreleased hclosed => exact .dropped hmapping hreleased hclosed
  | stored hopen hmapping hreleased hclosed => exact .stored hopen hmapping hreleased hclosed
  | refused hmapping hreleased hopen hclosed => exact .refused hmapping hreleased hopen hclosed

/-- A setter that finds something changed gives the held mapping up, any other leaves all as it
    was. -/
theorem settle_moves {c : Client} {result : Option Mapping × State}
    (h : result = (none, c.state) ∨ (result.1 = c.state.mapping ∧ result.2.mapping = none ∧
      (c.state.closed = true → result.2.closed = true))) : Moves c (c.settle result) [] [] [] := by
  rcases h with rfl | ⟨h1, h2, h3⟩
  · exact .kept rfl rfl rfl
  · exact .released h2 (by rw [settle, h1]) h3

theorem setLocalPort_moves (c : Client) (port : UInt16) :
    Moves c (c.settle (c.state.setLocalPort port)) [] [] [] := by
  refine settle_moves ?_
  unfold State.setLocalPort
  split
  · exact .inl rfl
  · exact .inr ⟨rfl, rfl, fun h => h⟩

theorem close_moves (c : Client) : Moves c (c.settle c.state.close) [] [] [] := by
  refine settle_moves ?_
  unfold State.close
  split
  · exact .inl rfl
  · exact .inr ⟨rfl, rfl, fun _ => rfl⟩

theorem gatewayAndSelfIp_moves (c : Client) (found : Option (IpAddr × IpAddr)) :
    Moves c (c.settle (c.state.gatewayAndSelfIp found)) [] [] [] := by
  refine settle_moves ?_
  unfold State.gatewayAndSelfIp
  dsimp only
  split
  · exact .inr ⟨rfl, rfl, fun h => h⟩
  · exact .inl rfl

/-- An answer of the gateway drops the held mapping or leaves it. -/
theorem heard_moves {c : Client} {st : State} (hclosed : st.closed = c.state.closed)
    (h : st.mapping = none ∨ st.mapping = c.state.mapping) :
    Moves c { c with state := st } []
      (if st.mapping.isNone then c.state.mapping.toList else []) [] := by
  cases hmapping : st.mapping with
  | none => exact .dropped hmapping rfl hclosed
  | some m =>
    rw [hmapping] at h
    rcases h with h | h
    · cases h
    · exact .kept (hmapping.trans h) rfl hclosed

theorem heardPmp_cases (st : State) (publicAddr : Option (List Nat)) (epoch : UInt32)
    (now : SystemTime) :
    (st.heardPmp publicAddr epoch now).closed = st.closed ∧
      ((st.heardPmp publicAddr epoch now).mapping = none ∨
        (st.heardPmp publicAddr epoch now).mapping = st.mapping) := by
  unfold State.heardPmp State.maybeInvalidatePmpMapping
  dsimp only
  split
  · exact ⟨rfl, .inr rfl⟩
  · split
    · exact ⟨rfl, .inr rfl⟩
    · split
      · exact ⟨rfl, .inr rfl⟩
      · exact ⟨rfl, .inl rfl⟩

theorem heardPcp_cases (st : State) (epoch : UInt32) (now : SystemTime) :
    (st.heardPcp epoch now).closed = st.closed ∧
      ((st.heardPcp epoch now).mapping = none ∨ (st.heardPcp epoch now).mapping = st.mapping) := by
  unfold State.heardPcp State.maybeInvalidatePcpMapping
  dsimp only
  split
  · exact ⟨rfl, .inr rfl⟩
  · split
    · exact ⟨rfl, .inr rfl⟩
    · split
      · exact ⟨rfl, .inr rfl⟩
      · exact ⟨rfl, .inl rfl⟩

/-- **What a section can do with the mappings.** -/
theorem step_moves {c c' : Client} {e : Event} (h : c.step e = some c') :
    Moves c c' (c.obtained e c') (c.dropped e c') (c.replaced e c') := by
  cases step_does h with
  | setLocalPort port => exact setLocalPort_moves c port
  | noteNetworkDown => exact .dropped rfl rfl rfl
  | gatewayAndSelfIp found => exact gatewayAndSelfIp_moves c found
  | close => exact close_moves c
  | heardPmp publicAddr epoch now =>
    obtain ⟨hclosed, hmapping⟩ := heardPmp_cases c.state publicAddr epoch now
    exact heard_moves hclosed hmapping
  | heardPcp epoch now =>
    obtain ⟨hclosed, hmapping⟩ := heardPcp_cases c.state epoch now
    exact heard_moves hclosed hmapping
  | heardUpnp | probed | call | unstarted | started | refused | entered | asked | unasked =>
    exact .kept rfl rfl rfl
  -- the call moves on, whatever the lookup did
  | located gw myIp => exact (gatewayAndSelfIp_moves c _).advance _ _ _
  | unlocated found => exact (gatewayAndSelfIp_moves c found).advance _ _ _
  | @stored i g a ask hattempt hphase =>
    dsimp only [obtained, dropped, replaced]
    rw [hattempt]
    dsimp only
    rw [hphase]
    dsimp only [settle, advance]
    unfold State.storeMapping
    cases hclosed : c.state.closed with
    | true => exact .refused rfl rfl hclosed rfl
    | false =>
      have hpairs : c.state.mapping.toList.flatMap (fun m => [(m, ask.mapping g)]) =
          c.state.mapping.toList.map fun old => (old, ask.mapping g) := by
        cases c.state.mapping <;> rfl
      show Moves c _ [ask.mapping g] [] (c.state.mapping.toList.flatMap fun m =>
        [(m, ask.mapping g)])
      rw [hpairs]
      exact .stored hclosed rfl rfl hclosed.symm
  | returned =>
    refine .kept ?_ rfl ?_
    · dsimp only
      split <;> rfl
    · dsimp only
      split <;> rfl

/-! ## The balance -/

/-- **The books of a step balance**: what is held, was released or comes in is held, was released,
    is dropped or replaced. -/
theorem step_balanced {c c' : Client} {e : Event} (h : c.step e = some c') :
    (↑(c.state.mapping.toList ++ c.released) : Multiset Mapping) + ↑(c.obtained e c') =
      ↑(c'.state.mapping.toList ++ c'.released) +
        ↑(c.dropped e c' ++ (c.replaced e c').map Prod.fst) := by
  have hmoves := step_moves h
  generalize c.obtained e c' = taken at hmoves ⊢
  generalize c.dropped e c' = gone at hmoves ⊢
  generalize c.replaced e c' = pairs at hmoves ⊢
  -- each mapping is counted on its own
  refine Multiset.ext' fun k => ?_
  simp only [Multiset.count_add, Multiset.coe_count, List.count_append]
  cases hmoves with
  | kept hmapping hreleased hclosed =>
    rw [hmapping, hreleased]
    rfl
  | released hmapping hreleased hclosed =>
    rw [hmapping, hreleased, List.count_append]
    simp
  | dropped hmapping hreleased hclosed =>
    rw [hmapping, hreleased]
    simp [Nat.add_comm]
  | @stored m hopen hmapping hreleased hclosed =>
    have hfst : (c.state.mapping.toList.map fun old => (old, m)).map Prod.fst =
        c.state.mapping.toList := by
      cases c.state.mapping <;> rfl
    rw [hmapping, hreleased, hfst, Option.toList_some, List.count_nil]
    omega
  | @refused m hmapping hreleased hopen hclosed =>
    rw [hmapping, hreleased]
    simp only [List.count_cons, List.map_nil, List.count_nil]
    omega

/-- A closed client holds nothing. -/
def Released (c : Client) : Prop := c.state.closed = true → c.state.mapping = none

theorem Moves.keeps_released {c c' : Client} {taken gone : List Mapping}
    {pairs : List (Mapping × Mapping)} (h : Moves c c' taken gone pairs) (hc : c.Released) :
    c'.Released := by
  intro hclosed'
  cases h with
  | kept hmapping hreleased hclosed => rw [hmapping, hc (hclosed ▸ hclosed')]
  | released hmapping hreleased hclosed => exact hmapping
  | dropped hmapping hreleased hclosed => exact hmapping
  | stored hopen hmapping hreleased hclosed =>
    rw [hclosed, hopen] at hclosed'
    cases hclosed'
  | refused hmapping hreleased hopen hclosed => rw [hmapping, hc hopen]

/-- A closed client stays closed. -/
theorem Moves.keeps_closed {c c' : Client} {taken gone : List Mapping}
    {pairs : List (Mapping × Mapping)} (h : Moves c c' taken gone pairs)
    (hc : c.state.closed = true) : c'.state.closed = true := by
  cases h with
  | kept hmapping hreleased hclosed => rw [hclosed, hc]
  | released hmapping hreleased hclosed => exact hclosed hc
  | dropped hmapping hreleased hclosed => rw [hclosed, hc]
  | stored hopen hmapping hreleased hclosed => rw [hclosed, hc]
  | refused hmapping hreleased hopen hclosed => rw [hclosed, hc]

theorem close_closed (c : Client) : c.state.close.2.closed = true := by
  unfold State.close
  cases hclosed : c.state.closed with
  | true => exact hclosed
  | false => rfl

/-- **Once closed, a client stays closed and holds nothing.** -/
theorem closed_for_good {good : Client → Event → Prop} {c c' : Client} {es : List Event}
    (h : Run step good c es c') (hc : c.Released) (hclose : Event.close ∈ es) :
    c'.state.closed = true ∧ c'.state.mapping = none := by
  obtain ⟨es₁, es₂, rfl⟩ := List.append_of_mem hclose
  obtain ⟨c₁, -, hafter⟩ := h.split
  have hclosed : c'.state.closed = true := by
    cases hafter with
    | cons _ hstep rest =>
      cases hstep
      exact rest.invariant (P := fun c => c.state.closed = true)
        (fun _ _ _ hc _ hstep => (step_moves hstep).keeps_closed hc) (close_closed c₁)
  have hreleased : c'.Released := h.invariant (P := Released)
    (fun _ _ _ hc _ hstep => (step_moves hstep).keeps_released hc) hc
  exact ⟨hclosed, hreleased hclosed⟩

/-! ## Renewals -/

/-- The mapping in place of another is a later value of the same lease: its gateway and its internal
    endpoint are the same. -/
def SameLease (pair : Mapping × Mapping) : Prop :=
  pair.2.gw.ip = pair.1.gw.ip ∧ pair.2.internal = pair.1.internal

/-- What is current and what was asked for now belong to one endpoint. -/
theorem owns_same {st : State} {internal internal' : SocketAddr} {gw gw' : IpAddr}
    (h : st.Owns internal gw) (h' : st.Owns internal' gw') : gw' = gw ∧ internal' = internal := by
  obtain ⟨hport, hip, hgw⟩ := h
  obtain ⟨hport', hip', hgw'⟩ := h'
  refine ⟨Option.some.inj (hgw'.trans hgw.symm), ?_⟩
  cases internal
  cases internal'
  simp only [SocketAddr.mk.injEq]
  exact ⟨Option.some.inj (hip'.trans hip.symm), hport'.trans hport.symm⟩

theorem replaced_sameLease {c c' : Client} {e : Event} (hlawful : c.state.Lawful)
    (hgood : StoresOwn c e) (hstep : c.step e = some c') :
    ∀ pair ∈ c.replaced e c', SameLease pair := by
  rintro ⟨m, m'⟩ hpair
  cases e with
  | storeMapping i g =>
    dsimp only [replaced] at hpair
    split at hpair
    · cases hpair
    · rename_i hopen
      obtain ⟨m₁, hm, m₂, hm', heq⟩ : ∃ m₁, c.state.mapping = some m₁ ∧
          ∃ m₂, c'.state.mapping = some m₂ ∧ (m₁, m₂) = (m, m') := by
        simpa using hpair
      cases heq
      dsimp only [step] at hstep
      split at hstep
      · rename_i a hattempt
        split at hstep
        · rename_i ask hphase
          have howns := hgood a ask hattempt hphase (by simpa using hopen)
          cases hstep
          dsimp only [settle, advance] at hm'
          rw [State.storeMapping, if_neg hopen] at hm'
          cases hm'
          exact owns_same (hlawful m hm) howns
        · cases hstep
      · cases hstep
  | _ => cases hpair

end Client

open Client

/-- **Every mapping a call obtains is accounted for**, in every run from a new client.  Once closed
    the client holds nothing, for good; each mapping obtained is held, was released, was dropped on
    purpose or had another take its place; and where no call stores for an endpoint the client has
    left, the one that takes its place is the same lease renewed. -/
theorem mappings_accounted {knobs : Knobs} {es : List Event} {c : Client}
    (h : Run Client.step (fun _ _ => True) { knobs := knobs } es c) :
    (Event.close ∈ es → c.state.closed = true ∧ c.state.mapping = none) ∧
      (↑(emitted Client.step obtained { knobs := knobs } es) : Multiset Mapping) =
          ↑c.state.mapping.toList + ↑c.released +
            ↑(emitted Client.step dropped { knobs := knobs } es) +
            ↑((emitted Client.step replaced { knobs := knobs } es).map Prod.fst) ∧
      (Run Client.step StoresOwn { knobs := knobs } es c →
        ∀ pair ∈ emitted Client.step replaced { knobs := knobs } es, SameLease pair) := by
  have hnew : Released { knobs := knobs } := fun hclosed => by cases hclosed
  refine ⟨closed_for_good h hnew, ?_, ?_⟩
  · have hbalance := h.conserved
      (fun c => ((c.state.mapping.toList ++ c.released : List Mapping) : Multiset Mapping))
      obtained (fun c e c' => c.dropped e c' ++ (c.replaced e c').map Prod.fst)
      fun _ _ _ _ => step_balanced
    rw [emitted_append, emitted_map, ← Multiset.coe_add] at hbalance
    simpa [add_assoc] using hbalance
  · intro howns
    have hlawful := howns.carry (P := fun c => c.state.Lawful)
      (fun _ _ _ hc hgood hstep => (step_lawful_iff hc hstep).mpr hgood) (State.lawful_of_none rfl)
    exact hlawful.emitted_forall fun _ _ _ hgood => replaced_sameLease hgood.1 hgood.2

/-! ## A renewal -/

/-- Half of `pmpGrant`'s lease is over, and the gateway extends it. -/
def renewedGrant : Grant where
  kind := .pmp
  external := ⟨.v4 [203, 0, 113, 7], 41641⟩
  renewAfter := 600 * nanosPerSec
  goodUntil := 900 * nanosPerSec
  epoch := 301
  nonce := none

/-- A call that asks and stores, and a second one at half the lease. -/
def renewal : List Event :=
  [.setLocalPort 41641, .call, .enter 0, .locate 0 (some homeRouter), .snapshot 0 0,
    .storeMapping 0 pmpGrant, .returned 0, .call, .enter 0, .locate 0 (some homeRouter),
    .snapshot 0 (300 * nanosPerSec), .storeMapping 0 renewedGrant]

/-- The one call in flight asked for the endpoint that is current. -/
theorem storesOwn_sole {c : Client} {a : Attempt} {ask : Ask} (g : Grant)
    (hattempts : c.attempts = [a]) (hphase : a.phase = .asking ask)
    (howns : c.state.Owns ask.internal ask.gw) : StoresOwn c (.storeMapping 0 g) := by
  intro a' ask' hattempt hphase' _
  rw [hattempts] at hattempt
  cases hattempt
  rw [hphase] at hphase'
  cases hphase'
  exact howns

theorem renewal_owns : ∃ c, Run Client.step StoresOwn { knobs := {} } (renewal ++ [.close]) c :=
  ⟨_, .cons trivial rfl <| .cons trivial rfl <| .cons trivial rfl <| .cons trivial rfl <|
    .cons trivial rfl <| .cons (storesOwn_sole pmpGrant rfl rfl ⟨rfl, rfl, rfl⟩) rfl <|
    .cons trivial rfl <| .cons trivial rfl <| .cons trivial rfl <| .cons trivial rfl <|
    .cons trivial rfl <| .cons (storesOwn_sole renewedGrant rfl rfl ⟨rfl, rfl, rfl⟩) rfl <|
    .cons trivial rfl <| .nil _⟩

/-- The lease renewed and the client closed: one mapping was replaced, by a value of the same lease,
    and the other released. -/
theorem mappings_accounted_renewal : ∃ c : Client,
    (c.state.closed = true ∧ c.state.mapping = none) ∧
      (↑(emitted Client.step obtained { knobs := {} } (renewal ++ [.close])) : Multiset Mapping) =
          ↑c.state.mapping.toList + ↑c.released +
            ↑(emitted Client.step dropped { knobs := {} } (renewal ++ [.close])) +
            ↑((emitted Client.step replaced { knobs := {} } (renewal ++ [.close])).map Prod.fst) ∧
      ∀ pair ∈ emitted Client.step replaced { knobs := {} } (renewal ++ [.close]),
        SameLease pair := by
  obtain ⟨c, hrenewal⟩ := renewal_owns
  obtain ⟨hclosed, hbalance, hrenewed⟩ := mappings_accounted (hrenewal.mono fun _ _ _ => trivial)
  exact ⟨c, hclosed (by simp), hbalance, hrenewed hrenewal⟩

/-- **A renewal writes over a mapping with a live lease**, which is released by nobody. -/
theorem renewal_overwrites :
    ¬ ∀ (es : List Event) (c : Client), Run Client.step (fun _ _ => True) { knobs := {} } es c →
      ∀ m ∈ emitted Client.step obtained { knobs := {} } es,
        c.state.mapping = some m ∨ m ∈ c.released ∨
          m ∈ emitted Client.step dropped { knobs := {} } es := by
  intro hclaim
  obtain ⟨c, m, hfollow, hobtained, hheld, hreleased, hdropped⟩ : ∃ c m,
      follow Client.step { knobs := {} } renewal = some c ∧
      m ∈ emitted Client.step obtained { knobs := {} } renewal ∧ c.state.mapping ≠ some m ∧
      m ∉ c.released ∧ m ∉ emitted Client.step dropped { knobs := {} } renewal :=
    ⟨_, _, rfl, List.mem_cons_self, by decide, by decide, by decide⟩
  rcases hclaim renewal c (run_of_follow (fun _ _ _ => trivial) hfollow) m hobtained with h | h | h
  · exact hheld h
  · exact hreleased h
  · exact hdropped h

end Portmap

end Tailnetd
