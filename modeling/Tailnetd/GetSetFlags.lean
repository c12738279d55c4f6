/-
  `tnet get --set-flags` (`tnet.rs`).

  The settings are one list of names and values.  `get` prints it; with `--set-flags` it prints each
  row as `--name=value`, on one line, for `tnet set` to take back.  But `set` declares a preference
  that can be switched as a bare switch, which takes no value, and declares no `--tun`; so the line
  is refused whatever the settings are (`set_flags_never_reapply`).
-/
import Tailnetd.CliFlags
import Tailnetd.Operations
import Tailnetd.PrefsWatch

namespace Tailnetd

open CommandLine

/-! ## The settings -/

/-- A setting's value: a `serde_json::Value`. -/
inductive SettingValue where
  | null
  | bool (b : Bool)
  | text (s : String)
  deriving DecidableEq, Repr

/-- A text that may be unset. -/
def SettingValue.ofText (s : Option String) : SettingValue := (s.map .text).getD .null

/-- `get_settings`. -/
def getSettings (view : PrefsView) : List (String × SettingValue) :=
  [("hostname", .ofText view.hostname),
    ("exit-node", .ofText view.exitNode),
    ("advertise-exit-node", .bool view.advertiseExitNode),
    ("advertise-routes", .text (",".intercalate view.advertiseRoutes)),
    ("advertise-tags", .text (",".intercalate view.advertiseTags)),
    ("accept-routes", .bool view.acceptRoutes),
    ("accept-dns", .bool view.acceptDns),
    ("shields-up", .bool view.shieldsUp),
    ("ssh", .bool view.ssh),
    ("tun", .bool view.tun),
    ("advertise-connector", .bool view.advertiseConnector),
    ("auto-update", (view.autoUpdate.map .bool).getD .null),
    ("update-check", .bool view.updateCheck),
    ("operator", .ofText view.operator),
    ("nickname", .ofText view.nickname),
    ("report-posture", .bool view.reportPosture),
    ("webclient", .bool view.webclient),
    ("exit-node-allow-lan-access", .bool view.exitNodeAllowLanAccess)]

/-- `get_value_display`. -/
def getValueDisplay : SettingValue → String
  | .text s => s
  | .bool b => toString b
  | .null => ""

/-- A row as a flag. -/
def settingFlag (row : String × SettingValue) : String :=
  "--" ++ row.1 ++ "=" ++ getValueDisplay row.2

/-- `format_get_set_flags`. -/
def formatGetSetFlags (view : PrefsView) : String :=
  " ".intercalate ((getSettings view).map settingFlag)

/-- The words of a line. -/
def wordsOf (line : String) : List String := (line.toList.splitOn ' ').map String.ofList

/-- What a line should do that is printed to be applied again: `set` takes it, and when the daemon,
    under no policy, takes the request, it shows the same settings. -/
def Reapplies (v : PrefsView) (q : Prefs) : Prop :=
  ∃ o, setCommand (wordsOf (formatGetSetFlags v)) = some o ∧
    ∀ (E : Env) (b : Backend) (netmap : ExitNodeFacts) (io : Io) (out : Backend.SetOutcome) (b' : Backend),
      E.settings = [] → b.prefs = q → b.beginSet E o netmap io = (.ok out, b') →
        getSettings (b'.prefs.view v.sshRunning) = getSettings v

/-! ## The line is refused -/

/-- A word that holds no blank is found again. -/
theorem mem_wordsOf_intercalate {word : String} {parts : List String} (hword : word ∈ parts)
    (hblank : ' ' ∉ word.toList) : word ∈ wordsOf (" ".intercalate parts) := by
  have hself : word.toList.splitOn ' ' = [word.toList] := List.splitOn_eq_singleton hblank
  have hfound : word.toList ∈ (" ".intercalate parts).toList.splitOn ' ' := by
    induction parts with
    | nil => cases hword
    | cons part parts ih =>
      cases parts with
      | nil =>
        rw [String.intercalate_singleton, ← List.mem_singleton.mp hword, hself]
        exact List.mem_singleton_self _
      | cons next rest =>
        have hsplit : (" ".intercalate (part :: next :: rest)).toList.splitOn ' ' =
            part.toList.splitOn ' ' ++ (" ".intercalate (next :: rest)).toList.splitOn ' ' := by
          rw [String.intercalate_cons_cons, String.toList_append, String.toList_append,
            List.append_assoc]
          exact List.splitOn_append_cons_self _ _
        rw [hsplit, List.mem_append]
        obtain rfl | hword := List.mem_cons.mp hword
        · rw [hself]
          exact .inl (List.mem_singleton_self _)
        · exact .inr (ih hword)
  exact List.mem_map.mpr ⟨word.toList, hfound, String.ofList_toList⟩

/-- The row of the kernel TUN mode names a flag `set` does not have, whatever its value. -/
theorem tun_unknown (b : Bool) :
    readWord setFlags (settingFlag ("tun", .bool b)) =
      .error (.unknown (settingFlag ("tun", .bool b))) := by
  cases b <;> decide

/-- The preferences `set` switches, but for the automatic updates, which may be unset. -/
def switchedSettings (v : PrefsView) : List (String × Bool) :=
  [("advertise-exit-node", v.advertiseExitNode), ("accept-routes", v.acceptRoutes),
    ("accept-dns", v.acceptDns), ("shields-up", v.shieldsUp), ("ssh", v.ssh),
    ("advertise-connector", v.advertiseConnector), ("update-check", v.updateCheck),
    ("report-posture", v.reportPosture), ("webclient", v.webclient),
    ("exit-node-allow-lan-access", v.exitNodeAllowLanAccess)]

/-- A preference that can be switched is printed with a value, which its switch does not take. -/
theorem switch_takes_no_value {v : PrefsView} {name : String} {b : Bool}
    (h : (name, b) ∈ switchedSettings v) :
    (name, .bool b) ∈ getSettings v ∧
      readWord setFlags (settingFlag (name, .bool b)) = .error (.unexpectedValue name) := by
  have hrefused : ∀ name ∈ ["advertise-exit-node", "accept-routes", "accept-dns", "shields-up",
      "ssh", "advertise-connector", "update-check", "report-posture", "webclient",
      "exit-node-allow-lan-access"], ∀ b : Bool,
      readWord setFlags (settingFlag (name, .bool b)) = .error (.unexpectedValue name) := by
    decide +kernel
  have hname := List.mem_map_of_mem (f := Prod.fst) h
  refine ⟨?_, hrefused name hname b⟩
  simp only [switchedSettings, List.mem_cons, Prod.mk.injEq, List.not_mem_nil, or_false] at h
  obtain ⟨rfl, rfl⟩ | ⟨rfl, rfl⟩ | ⟨rfl, rfl⟩ | ⟨rfl, rfl⟩ | ⟨rfl, rfl⟩ | ⟨rfl, rfl⟩ | ⟨rfl, rfl⟩ |
    ⟨rfl, rfl⟩ | ⟨rfl, rfl⟩ | ⟨rfl, rfl⟩ := h <;> simp [getSettings]

theorem setCommand_of_set_flags (v : PrefsView) :
    setCommand (wordsOf (formatGetSetFlags v)) = none := by
  have hmem : settingFlag ("tun", .bool v.tun) ∈ wordsOf (formatGetSetFlags v) := by
    refine mem_wordsOf_intercalate (List.mem_map.mpr ⟨("tun", .bool v.tun), ?_, rfl⟩) ?_
    · simp [getSettings]
    · cases v.tun <;> decide
  obtain ⟨e, he⟩ := parse_error_of_mem hmem (tun_unknown v.tun)
  rw [setCommand, he]

/-- **No line of `get --set-flags` can be applied again.**  Each holds the word `--tun=…`, which
    `set` does not know, and eleven switches with a value. -/
theorem set_flags_never_reapply (v : PrefsView) (q : Prefs) : ¬ Reapplies v q := by
  rintro ⟨o, ho, -⟩
  rw [setCommand_of_set_flags] at ho
  cases ho

/-- The line of a fresh node. -/
theorem default_set_flags_refused : ¬ Reapplies (Prefs.default.view false) Prefs.default := by
  rintro ⟨o, ho, -⟩
  rw [setCommand_of_set_flags] at ho
  cases ho

end Tailnetd
