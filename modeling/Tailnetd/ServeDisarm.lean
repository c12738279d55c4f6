/-
  What `off` leaves behind (`ipn/serve.rs`, `tnet.rs`).

  `tnet funnel … off` and `tnet serve … off` take a port out by its text: the key "443" of the TCP
  map, and every key of the two other maps that ends in ":443".  The daemon arms a port by parsing,
  and to it "0443" and "+443" are the same port.  So `off` clears the canonical spelling only; a
  port that is also written another way stays armed after `off` has reported success.  The other
  direction is safe: a key that is taken out always names the port, and no other port's keys are
  touched.
-/
import Tailnetd.PortText

namespace Tailnetd

/-! ## Off and on -/

/-- What is taken out with a port, and what stays. -/
theorem get?_retain_iff {ν : Type} {m : SortedMap String ν} {port : UInt16} {key : String} {v : ν} :
    (m.retain fun key => !endsWith (portSuffix port) key).get? key = some v ↔
      m.get? key = some v ∧ endsWith (portSuffix port) key = false := by
  rw [SortedMap.get?_retain]
  cases endsWith (portSuffix port) key with
  | true => simp
  | false => simp

/-- A port that a key does not name has another suffix. -/
theorem endsWith_false_of_keyPort {key : String} {port : UInt16} (h : keyPort key ≠ some port) :
    endsWith (portSuffix port) key = false := by
  by_contra hends
  exact h (keyPort_of_endsWith (by simpa using hends))

/-- What `off` leaves on the funnel: the ports of the keys that do not end in this one. -/
theorem mem_funnelPorts_off {cfg : ServeConfig} {host : String} {p port : UInt16} :
    p ∈ funnelPorts (setFunnel cfg host port false) ↔
      p ≠ 0 ∧ ∃ key, cfg.allowFunnel.get? key = some true ∧ keyPort key = some p ∧
        endsWith (portSuffix port) key = false := by
  have hoff : (setFunnel cfg host port false).allowFunnel =
      cfg.allowFunnel.retain fun key => !endsWith (portSuffix port) key := rfl
  rw [mem_funnelPorts, hoff]
  constructor
  · rintro ⟨hne, key, hget, hport⟩
    obtain ⟨hon, hkept⟩ := get?_retain_iff.mp hget
    exact ⟨hne, key, hon, hport, hkept⟩
  · rintro ⟨hne, key, hon, hport, hkept⟩
    exact ⟨hne, key, get?_retain_iff.mpr ⟨hon, hkept⟩, hport⟩

/-- `off` never takes another port off the funnel. -/
theorem mem_funnelPorts_off_other {cfg : ServeConfig} {host : String} {p port : UInt16}
    (h : p ≠ port) : p ∈ funnelPorts (setFunnel cfg host port false) ↔ p ∈ funnelPorts cfg := by
  rw [mem_funnelPorts_off, mem_funnelPorts]
  constructor
  · rintro ⟨hne, key, hon, hport, -⟩
    exact ⟨hne, key, hon, hport⟩
  · rintro ⟨hne, key, hon, hport⟩
    have hother : keyPort key ≠ some port := by
      rw [hport]
      intro heq
      exact h (Option.some.inj heq)
    exact ⟨hne, key, hon, hport, endsWith_false_of_keyPort hother⟩

/-- `on` puts its port on the funnel, and no other. -/
theorem funnelPorts_on (cfg : ServeConfig) (host : String) {port : UInt16} (hport : port ≠ 0) :
    funnelPorts (setFunnel cfg host port true) = funnelPorts cfg ∪ {port} := by
  have hget (key : String) : (setFunnel cfg host port true).allowFunnel.get? key =
      if key = hostPort (trimEndDots host) port then some true else cfg.allowFunnel.get? key :=
    SortedMap.get?_insert _ _ _ _
  ext p
  rw [Finset.mem_union, Finset.mem_singleton, mem_funnelPorts, mem_funnelPorts]
  constructor
  · rintro ⟨hne, key, hon, hkey⟩
    rw [hget] at hon
    split at hon
    · rename_i hown
      rw [hown, keyPort_hostPort] at hkey
      exact Or.inr (Option.some.inj hkey).symm
    · exact Or.inl ⟨hne, key, hon, hkey⟩
  · rintro (⟨hne, key, hon, hkey⟩ | rfl)
    · refine ⟨hne, key, ?_, hkey⟩
      rw [hget, hon]
      exact ite_self _
    · refine ⟨hport, hostPort (trimEndDots host) p, ?_, keyPort_hostPort _ _⟩
      rw [hget, if_pos rfl]

/-! ## The other spellings -/

/-- Every key of a port is spelled as `tnet` writes it: its key of the TCP map, its `Web` entries,
    and the funnel entries that are on. -/
structure CanonicalKeys (cfg : ServeConfig) (port : UInt16) : Prop where
  tcp : ∀ key h, cfg.tcp.get? key = some h → parseU16 key = some port → key = tcpKey port
  web : ∀ key wsc, cfg.web.get? key = some wsc → keyPort key = some port →
    endsWith (portSuffix port) key = true
  funnel : port ≠ 0 → ∀ key, cfg.allowFunnel.get? key = some true → keyPort key = some port →
    endsWith (portSuffix port) key = true

/-- The keys that do not name a port are the same in two configs. -/
structure SameElsewhere (port : UInt16) (cfg cfg' : ServeConfig) : Prop where
  tcp : ∀ key, parseU16 key ≠ some port → cfg'.tcp.get? key = cfg.tcp.get? key
  web : ∀ key, keyPort key ≠ some port → cfg'.web.get? key = cfg.web.get? key
  funnel : ∀ key, keyPort key ≠ some port → cfg'.allowFunnel.get? key = cfg.allowFunnel.get? key

/-- What `off` promises for a port: `funnel off` takes exactly this port off the funnel, as `funnel
    on` puts exactly this port on it; after `serve off` no key of any map names the port, and every
    other key is as it was. -/
structure OffDisarms (cfg : ServeConfig) (host : String) (port : UInt16) : Prop where
  funnelOff : funnelPorts (setFunnel cfg host port false) = funnelPorts cfg \ {port}
  funnelOn : port ≠ 0 → funnelPorts (setFunnel cfg host port true) = funnelPorts cfg ∪ {port}
  tcp : ∀ key h, (removeServePort cfg port).2.tcp.get? key = some h → parseU16 key ≠ some port
  web : ∀ key wsc, (removeServePort cfg port).2.web.get? key = some wsc → keyPort key ≠ some port
  funnel : port ∉ funnelPorts (removeServePort cfg port).2
  elsewhere : SameElsewhere port cfg (removeServePort cfg port).2

theorem removeServePort_sameElsewhere (cfg : ServeConfig) (port : UInt16) :
    SameElsewhere port cfg (removeServePort cfg port).2 where
  tcp key hkey := by
    refine (SortedMap.get?_remove _ _ _).trans (if_neg ?_)
    rintro rfl
    exact hkey (parseU16_portText port)
  web key hkey := by
    refine (SortedMap.get?_retain _ _ _).trans ?_
    rw [endsWith_false_of_keyPort hkey]
    rfl
  funnel key hkey := by
    refine (SortedMap.get?_retain _ _ _).trans ?_
    rw [endsWith_false_of_keyPort hkey]
    rfl

/-- The port is off the funnel exactly where all its funnel entries are spelled canonically. -/
theorem notMem_funnelPorts_off_iff {cfg : ServeConfig} {host : String} {port : UInt16} :
    port ∉ funnelPorts (setFunnel cfg host port false) ↔
      (port ≠ 0 → ∀ key, cfg.allowFunnel.get? key = some true → keyPort key = some port →
        endsWith (portSuffix port) key = true) := by
  rw [mem_funnelPorts_off]
  constructor
  · intro hoff hne key hon hkey
    by_contra hends
    exact hoff ⟨hne, key, hon, hkey, by simpa using hends⟩
  · rintro hcanonical ⟨hne, key, hon, hkey, hends⟩
    rw [hcanonical hne key hon hkey] at hends
    cases hends

/-- `funnel off` takes off exactly its port if it takes off its port. -/
theorem funnelPorts_off_eq_iff {cfg : ServeConfig} {host : String} {port : UInt16} :
    funnelPorts (setFunnel cfg host port false) = funnelPorts cfg \ {port} ↔
      port ∉ funnelPorts (setFunnel cfg host port false) := by
  constructor
  · intro heq
    rw [heq]
    simp
  · intro hoff
    ext p
    rw [Finset.mem_sdiff, Finset.mem_singleton]
    by_cases hp : p = port
    · subst hp
      simp [hoff]
    · rw [mem_funnelPorts_off_other hp]
      simp [hp]

/-- **`off` disarms a port exactly where every key of the port is spelled canonically.** -/
theorem off_disarms_iff (cfg : ServeConfig) (host : String) (port : UInt16) :
    OffDisarms cfg host port ↔ CanonicalKeys cfg port := by
  constructor
  · intro h
    refine ⟨?_, ?_, notMem_funnelPorts_off_iff.mp (funnelPorts_off_eq_iff.mp h.funnelOff)⟩
    · intro key handler hget hnames
      by_contra hne
      refine h.tcp key handler ?_ hnames
      exact ((SortedMap.get?_remove _ _ _).trans (if_neg hne)).trans hget
    · intro key wsc hget hnames
      by_contra hends
      refine h.web key wsc (get?_retain_iff.mpr ⟨hget, ?_⟩) hnames
      simpa using hends
  · intro h
    have hoff := (@notMem_funnelPorts_off_iff cfg host port).mpr h.funnel
    refine ⟨funnelPorts_off_eq_iff.mpr hoff, funnelPorts_on cfg host, ?_, ?_, hoff,
      removeServePort_sameElsewhere cfg port⟩
    · intro key handler hget hnames
      have hremoved := (SortedMap.get?_remove cfg.tcp (tcpKey port) key).symm.trans hget
      split at hremoved
      · cases hremoved
      · rename_i hne
        exact hne (h.tcp key handler hremoved hnames)
    · intro key wsc hget hnames
      obtain ⟨hheld, hkept⟩ := get?_retain_iff.mp hget
      rw [h.web key wsc hheld hnames] at hkept
      cases hkept

/-- A config that spells port 443 with a leading zero, for the funnel and for a forward. -/
def aliasedFunnel : ServeConfig where
  tcp := SortedMap.empty.insert "0443" { tcpForward := "127.0.0.1:3000" }
  allowFunnel := SortedMap.empty.insert "node.example.ts.net:0443" true

/-- **A port spelled another way stays published after `off`.** -/
theorem off_leaves_aliases :
    ¬ ∀ (cfg : ServeConfig) (host : String) (port : UInt16), OffDisarms cfg host port := by
  intro hclaim
  have hoff := (hclaim aliasedFunnel "node.example.ts.net" 443).funnel
  exact absurd (by decide : (443 : UInt16) ∈ funnelPorts (removeServePort aliasedFunnel 443).2) hoff

end Tailnetd
