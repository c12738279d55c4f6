/-
  Writing the merged kubeconfig: `set_kubeconfig_for_peer` of `tnet.rs`, with what it calls, and
  `check_kubeconfig_writable` before it.

  1. **Program** — the directory is looked at and made, the old text is read and decoded, the
     cluster is merged into it, and the file is then opened with truncation, written and synced.
     How each call comes out is an argument (`KubeIo`): a write may stop after any number of
     bytes.  The file is what the function leaves of it.

  2. **Before the file is touched** — everything up to the merge only reads (`mergedText`), and an
     open that fails leaves the file alone.

  3. **After that** — the truncating open gives the old text up before the new one is there.  A
     write that fails leaves the front of the new text, a sync that fails all of it, and both are
     reported as failures.  So the file is as it was after every failure exactly when what is left
     happens to be what was there (`set_kubeconfig_atomic_iff`).

  The check before it opens the file for writing and gives up nothing; a disk that is full answers
  it like one that is not (`full_disk_loses_clusters`).
-/
import Tailnetd.Kubeconfig
import Tailnetd.Lib.Utf8Text
import Tailnetd.ServeStatus

namespace Tailnetd

/-! ## Errors and their texts -/

/-- `std::io::Error` of a call of the system: its `Display` and its `errno`. -/
structure OsError where
  display : String
  rawOsError : Option Nat

/-- `go_io_error_text`. -/
def goIoErrorText (e : OsError) : String :=
  match e.rawOsError with
  | none => e.display
  | some code =>
    -- without the number, and the first letter small
    let text := (stripSuffix (" (os error " ++ toString code ++ ")") e.display).getD e.display
    match text.toList with
    | first :: rest => String.ofList (first.toLower :: rest)
    | [] => ""

/-- `go_path_error`. -/
def goPathError (op path : String) (e : OsError) : String :=
  op ++ " " ++ sanitizeForTerminal path ++ ": " ++ goIoErrorText e

/-- `kubeconfig_access_err`. -/
def kubeconfigAccessErr (path detail : String) : String :=
  "cannot write kubeconfig at " ++ quoted (sanitizeForTerminal path) ++ ": " ++
    sanitizeForTerminal detail

/-- `io::Error::from_raw_os_error(ENOTDIR)`. -/
def notADirectory : OsError := ⟨"Not a directory (os error 20)", some 20⟩

/-! ## The check before the merge -/

/-- What a component of the kubeconfig's path answers: it is there, and can be written or not and
why; it is missing; its `metadata` fails otherwise. -/
inductive Probe where
  | found (refused : Option String)
  | missing
  | failed (e : OsError)

/-- `check_kubeconfig_writable`, over the target and its parents up to the root. -/
def checkKubeconfigWritable (path : String) : List (String × Probe) → Except String Unit
  | [] => .ok ()
  | (_, .found none) :: _ => .ok ()
  | (_, .found (some why)) :: _ => .error (kubeconfigAccessErr path why)
  | (probe, .failed e) :: _ =>
    .error (kubeconfigAccessErr path ("stat " ++ probe ++ ": " ++ goIoErrorText e))
  | (_, .missing) :: parents => checkKubeconfigWritable path parents

/-! ## Directories -/

/-- A directory that `go_mkdir_all` comes to: whether its `metadata` finds it, and finds a
directory, how creating it ends, and whether it is a directory after that failed. -/
structure DirLevel where
  path : String
  isDir : Option Bool
  create : Option OsError
  nowDir : Bool

/-- `go_mkdir_all`, over the directory and its parents up to the root. -/
def goMkdirAll : List DirLevel → Except String Unit
  | [] => .ok ()
  | level :: parents =>
    let failed (e : OsError) : String := "mkdir " ++ level.path ++ ": " ++ goIoErrorText e
    match level.isDir with
    | some true => .ok ()
    | some false => .error (failed notADirectory)
    -- an error of `metadata` is taken for a missing component
    | none =>
      match goMkdirAll parents with
      | .error why => .error why
      | .ok () =>
        match level.create with
        | none => .ok ()
        -- a directory that somebody else made meanwhile counts as made
        | some e => if level.nowDir then .ok () else .error (failed e)

/-! ## Bytes -/

/-- `as_chunks::<2>` with the units of either order; a byte left over is half a unit. -/
def utf16Units (unit : UInt8 → UInt8 → UInt16) : List UInt8 → Option (List UInt16)
  | [] => some []
  | [_] => none
  | a :: b :: rest => (utf16Units unit rest).map (unit a b :: ·)

/-- `String::from_utf16`: surrogates come in pairs, the high one first. -/
def fromUtf16 : List UInt16 → Option (List Char)
  | [] => some []
  | unit :: rest =>
    if unit < 0xD800 ∨ 0xE000 ≤ unit then (fromUtf16 rest).map (Char.ofNat unit.toNat :: ·)
    else if 0xDC00 ≤ unit then none
    else
      match rest with
      | [] => none
      | low :: rest =>
        if 0xDC00 ≤ low ∧ low < 0xE000 then
          (fromUtf16 rest).map (Char.ofNat
            (0x10000 + (unit.toNat - 0xD800) * 0x400 + (low.toNat - 0xDC00)) :: ·)
        else none

/-- `String::from_utf8`. -/
def fromUtf8 (bytes : List UInt8) : Option String := String.fromUTF8? bytes.toByteArray

/-- `decode_kubeconfig_bytes`. -/
def decodeKubeconfigBytes (bytes : List UInt8) : Except String String :=
  let utf16 (body : List UInt8) (unit : UInt8 → UInt8 → UInt16) : Option String :=
    ((utf16Units unit body).bind fromUtf16).map String.ofList
  -- a byte-order mark says UTF-16 and its order; everything else is UTF-8
  let text :=
    match bytes with
    | 0xFF :: 0xFE :: body => utf16 body fun low high => high.toUInt16 <<< 8 ||| low.toUInt16
    | 0xFE :: 0xFF :: body => utf16 body fun high low => high.toUInt16 <<< 8 ||| low.toUInt16
    | bytes => fromUtf8 bytes
  match text with
  | some text => .ok text
  | none => .error invalidKubeconfig

/-! ## The merge into the file -/

/-- What `metadata` says of the directory. -/
inductive DirStat where
  | found
  | notFound
  | failed (e : OsError)

/-- How the calls come out, each one that is made: `none` where it succeeds.

The open for reading fails besides where there is no file; a write stops with its error after so
many bytes, and does not where there are no more to be written. -/
structure KubeIo where
  stat : DirStat
  levels : List DirLevel
  openRead : Option OsError
  read : Option OsError
  create : Option OsError
  write : Option (Nat × OsError)
  sync : Option OsError

section Run
variable (Y : Yaml) (io : KubeIo) (scheme fqdn path : String)

/-- The parent directory is there, or made; `dir` is `Path::parent` where it is not empty. -/
def prepareDir (dir : Option String) : Except String Unit :=
  match dir with
  | none => .ok ()
  | some dir =>
    match io.stat with
    | .found => .ok ()
    | .notFound =>
      match goMkdirAll io.levels with
      | .ok () => .ok ()
      | .error why => .error (kubeconfigAccessErr path why)
    | .failed e => .error (goPathError "stat" dir e)

/-- The text that is merged into: a missing file is an empty one. -/
def readExisting (file : Option (List UInt8)) : Except String String :=
  let readErr (op : String) (e : OsError) : String :=
    "reading kubeconfig: " ++ op ++ " " ++ sanitizeForTerminal path ++ ": " ++ goIoErrorText e
  match io.openRead, file with
  | some e, _ => .error (readErr "open" e)
  | none, none => .ok ""
  | none, some bytes =>
    match io.read with
    | some e => .error (readErr "read" e)
    | none => decodeKubeconfigBytes bytes

/-- The text that is to be written. -/
def mergedText (dir : Option String) (file : Option (List UInt8)) : Except String String := do
  prepareDir io path dir
  let existing ← readExisting io path file
  updateKubeconfig Y existing scheme fqdn

/-- `OpenOptions` with truncation, `write_all` and `sync_all`: how they end, and the file after
them. -/
def writeBack (merged : String) (file : Option (List UInt8)) :
    Except String Unit × Option (List UInt8) :=
  let bytes := Utf8Text.bytes merged.toList
  match io.create with
  | some e => (.error (goPathError "open" path e), file)
  | none =>
    -- from here on the old text is gone
    let written := match io.write with
      | some (n, e) => if n < bytes.length then some (n, e) else none
      | none => none
    match written with
    | some (n, e) => (.error (goPathError "write" path e), some (bytes.take n))
    | none =>
      match io.sync with
      | some e => (.error (goPathError "sync" path e), some bytes)
      | none => (.ok (), some bytes)

/-- `set_kubeconfig_for_peer`: how it ends, and the file after it. -/
def setKubeconfigForPeer (dir : Option String) (file : Option (List UInt8)) :
    Except String Unit × Option (List UInt8) :=
  match mergedText Y io scheme fqdn path dir file with
  | .error e => (.error e, file)
  | .ok merged => writeBack io path merged file

/-- The arm of `configure kubeconfig` that merges: the check first, and the merge where it has
nothing against it. -/
def configureKubeconfig (probes : List (String × Probe)) (dir : Option String)
    (file : Option (List UInt8)) : Except String Unit × Option (List UInt8) :=
  match checkKubeconfigWritable path probes with
  | .error e => (.error e, file)
  | .ok () => setKubeconfigForPeer Y io scheme fqdn path dir file

end Run

/-! ## Before the file is touched -/

/-- What the file holds, as a text; a missing file holds the empty one. -/
def existingText : Option (List UInt8) → Except String String
  | none => .ok ""
  | some bytes => decodeKubeconfigBytes bytes

section Law
variable {Y : Yaml} {io : KubeIo} {scheme fqdn path : String} {dir : Option String}
  {file : Option (List UInt8)}

theorem readExisting_ok_iff (existing : String) :
    readExisting io path file = .ok existing ↔
      io.openRead = none ∧ (file = none ∨ io.read = none) ∧ existingText file = .ok existing := by
  unfold readExisting
  cases io.openRead with
  | some e => exact ⟨fun h => (nomatch h), fun h => nomatch h.1⟩
  | none =>
    cases file with
    | none => exact ⟨fun h => ⟨rfl, .inl rfl, h⟩, fun h => h.2.2⟩
    | some bytes =>
      cases io.read with
      | some e =>
        refine ⟨fun h => (nomatch h), fun h => ?_⟩
        rcases h.2.1 with h | h <;> cases h
      | none => exact ⟨fun h => ⟨rfl, .inr rfl, h⟩, fun h => h.2.2⟩

variable (Y io scheme fqdn path dir file) in
/-- The calls come out so that the file is truncated, and `merged` is what is to be written. -/
structure Truncates (merged : String) : Prop where
  prepared : prepareDir io path dir = .ok ()
  opened : io.openRead = none
  read : file = none ∨ io.read = none
  merge : ∃ existing, existingText file = .ok existing ∧
    updateKubeconfig Y existing scheme fqdn = .ok merged
  created : io.create = none

theorem mergedText_ok_iff (merged : String) :
    mergedText Y io scheme fqdn path dir file = .ok merged ↔
      prepareDir io path dir = .ok () ∧ ∃ existing, readExisting io path file = .ok existing ∧
        updateKubeconfig Y existing scheme fqdn = .ok merged := by
  have hruns : mergedText Y io scheme fqdn path dir file =
      (prepareDir io path dir).bind fun _ => (readExisting io path file).bind fun existing =>
        updateKubeconfig Y existing scheme fqdn := rfl
  rw [hruns]
  cases prepareDir io path dir with
  | error e => exact ⟨fun h => (nomatch h), fun h => nomatch h.1⟩
  | ok =>
    cases readExisting io path file with
    | error e =>
      refine ⟨fun h => (nomatch h), fun h => ?_⟩
      obtain ⟨-, existing, hread, -⟩ := h
      cases hread
    | ok existing =>
      refine ⟨fun h => ⟨rfl, existing, rfl, h⟩, fun h => ?_⟩
      obtain ⟨-, existing', hread, hmerge⟩ := h
      cases hread
      exact hmerge

/-- The file is truncated exactly where there is something to write and the open succeeds. -/
theorem truncates_iff (merged : String) :
    Truncates Y io scheme fqdn path dir file merged ↔
      mergedText Y io scheme fqdn path dir file = .ok merged ∧ io.create = none := by
  rw [mergedText_ok_iff]
  constructor
  · rintro ⟨hprepared, hopened, hread, ⟨existing, hexisting, hmerge⟩, hcreated⟩
    exact ⟨⟨hprepared, existing, (readExisting_ok_iff existing).mpr ⟨hopened, hread, hexisting⟩,
      hmerge⟩, hcreated⟩
  · rintro ⟨⟨hprepared, existing, hread, hmerge⟩, hcreated⟩
    obtain ⟨hopened, hread, hexisting⟩ := (readExisting_ok_iff existing).mp hread
    exact ⟨hprepared, hopened, hread, ⟨existing, hexisting, hmerge⟩, hcreated⟩

/-! ## After the file was truncated -/

section WriteBack
variable (hcreate : io.create = none) (merged : String)
include hcreate

/-- A write that stops short leaves the front of the new text. -/
theorem writeBack_short {n : Nat} {e : OsError} (hwrite : io.write = some (n, e))
    (hn : n < (Utf8Text.bytes merged.toList).length) :
    writeBack io path merged file =
      (.error (goPathError "write" path e), some ((Utf8Text.bytes merged.toList).take n)) := by
  unfold writeBack
  rw [hcreate, hwrite]
  dsimp only
  rw [if_pos hn]

/-- A write that comes to its end leaves the new text, and the sync answers for the call. -/
theorem writeBack_whole
    (hwrite : ∀ n e, io.write = some (n, e) → (Utf8Text.bytes merged.toList).length ≤ n) :
    writeBack io path merged file =
      (match io.sync with
        | some e => .error (goPathError "sync" path e)
        | none => .ok (), some (Utf8Text.bytes merged.toList)) := by
  unfold writeBack
  rw [hcreate]
  dsimp only
  cases hcall : io.write with
  | none => cases io.sync <;> rfl
  | some stopped =>
    have hlong := hwrite stopped.1 stopped.2 hcall
    dsimp only
    rw [if_neg (Nat.not_lt_of_le hlong)]
    cases io.sync <;> rfl

end WriteBack

variable (Y io scheme fqdn path dir file) in
/-- What is asked of the function: after a failure the file is what it was, and otherwise it is the
merge of what it was. -/
def AtomicMerge : Prop :=
  let ending := setKubeconfigForPeer Y io scheme fqdn path dir file
  (∀ e, ending.1 = .error e → ending.2 = file) ∧
    (ending.1 = .ok () → ∃ existing merged, existingText file = .ok existing ∧
      updateKubeconfig Y existing scheme fqdn = .ok merged ∧
      ending.2 = some (Utf8Text.bytes merged.toList))

variable (Y io scheme fqdn path dir file) in
/-- Where the file is truncated: a write that stops short stops where the old text ends as a part
of the new one, and where the write is whole a sync that fails finds the old text to be the new
one. -/
def NothingLost : Prop :=
  ∀ merged, Truncates Y io scheme fqdn path dir file merged →
    (∀ n e, io.write = some (n, e) → n < (Utf8Text.bytes merged.toList).length →
      file = some ((Utf8Text.bytes merged.toList).take n)) ∧
    ((∀ n e, io.write = some (n, e) → (Utf8Text.bytes merged.toList).length ≤ n) →
      io.sync ≠ none → file = some (Utf8Text.bytes merged.toList))

/-- A file that is not truncated is what it was, and the call has failed. -/
theorem untouched_of_not_truncated
    (h : ∀ merged, ¬Truncates Y io scheme fqdn path dir file merged) :
    ∃ e, setKubeconfigForPeer Y io scheme fqdn path dir file = (.error e, file) := by
  cases hmerged : mergedText Y io scheme fqdn path dir file with
  | error e =>
    refine ⟨e, ?_⟩
    rw [setKubeconfigForPeer, hmerged]
  | ok merged =>
    cases hcreate : io.create with
    | none => exact absurd ((truncates_iff merged).mpr ⟨hmerged, hcreate⟩) (h merged)
    | some e =>
      refine ⟨goPathError "open" path e, ?_⟩
      rw [setKubeconfigForPeer, hmerged]
      dsimp only
      rw [writeBack, hcreate]

theorem setKubeconfigForPeer_of_truncated {merged : String}
    (h : Truncates Y io scheme fqdn path dir file merged) :
    setKubeconfigForPeer Y io scheme fqdn path dir file = writeBack io path merged file := by
  rw [setKubeconfigForPeer, ((truncates_iff merged).mp h).1]

/-- What is to be written is one text, so that what could be lost is said of it alone. -/
theorem nothingLost_iff {merged : String} (h : Truncates Y io scheme fqdn path dir file merged) :
    NothingLost Y io scheme fqdn path dir file ↔
      (∀ n e, io.write = some (n, e) → n < (Utf8Text.bytes merged.toList).length →
        file = some ((Utf8Text.bytes merged.toList).take n)) ∧
      ((∀ n e, io.write = some (n, e) → (Utf8Text.bytes merged.toList).length ≤ n) →
        io.sync ≠ none → file = some (Utf8Text.bytes merged.toList)) := by
  refine ⟨fun hkeeps => hkeeps merged h, fun hkeeps merged' h' => ?_⟩
  have hmerged := ((truncates_iff merged).mp h).1
  have hmerged' := ((truncates_iff merged').mp h').1
  rw [← Except.ok.inj (hmerged.symm.trans hmerged')]
  exact hkeeps

/-- After a write that stops short the file is the front of the new text. -/
theorem atomicMerge_short_iff {merged : String} {n : Nat} {e : OsError}
    (h : Truncates Y io scheme fqdn path dir file merged) (hwrite : io.write = some (n, e))
    (hn : n < (Utf8Text.bytes merged.toList).length) :
    AtomicMerge Y io scheme fqdn path dir file ↔
      file = some ((Utf8Text.bytes merged.toList).take n) := by
  rw [AtomicMerge, setKubeconfigForPeer_of_truncated h, writeBack_short h.created merged hwrite hn]
  constructor
  · rintro ⟨hkept, -⟩
    exact (hkept _ rfl).symm
  · intro hfile
    exact ⟨fun _ _ => hfile.symm, fun hok => nomatch hok⟩

/-- After a whole write the file is the new text, whether the sync fails or not. -/
theorem atomicMerge_whole_iff {merged : String}
    (h : Truncates Y io scheme fqdn path dir file merged)
    (hwhole : ∀ n e, io.write = some (n, e) → (Utf8Text.bytes merged.toList).length ≤ n) :
    AtomicMerge Y io scheme fqdn path dir file ↔
      (io.sync ≠ none → file = some (Utf8Text.bytes merged.toList)) := by
  obtain ⟨existing, hexisting, hmerge⟩ := h.merge
  rw [AtomicMerge, setKubeconfigForPeer_of_truncated h, writeBack_whole h.created merged hwhole]
  cases io.sync with
  | none =>
    refine ⟨fun _ hfails => absurd rfl hfails, fun _ => ⟨fun e herror => (nomatch herror), ?_⟩⟩
    exact fun _ => ⟨existing, merged, hexisting, hmerge, rfl⟩
  | some e =>
    constructor
    · rintro ⟨hkept, -⟩ -
      exact (hkept _ rfl).symm
    · intro hfile
      exact ⟨fun _ _ => (hfile nofun).symm, fun hok => nomatch hok⟩

end Law

/-- A failed merge leaves the file as it was unless the file is truncated and what the failed write
or sync then leaves is another text than the old one. -/
theorem atomicMerge_iff (Y : Yaml) (io : KubeIo) (scheme fqdn path : String)
    (dir : Option String) (file : Option (List UInt8)) :
    AtomicMerge Y io scheme fqdn path dir file ↔ NothingLost Y io scheme fqdn path dir file := by
  by_cases htruncated : ∃ merged, Truncates Y io scheme fqdn path dir file merged
  · obtain ⟨merged, h⟩ := htruncated
    rw [nothingLost_iff h]
    -- where the write ends decides which of the two failures there can be
    by_cases hshort : ∃ n e, io.write = some (n, e) ∧ n < (Utf8Text.bytes merged.toList).length
    · obtain ⟨n, e, hwrite, hn⟩ := hshort
      rw [atomicMerge_short_iff h hwrite hn]
      constructor
      · intro hfile
        refine ⟨fun n' e' hwrite' _ => ?_, fun hwhole => ?_⟩
        · cases hwrite.symm.trans hwrite'
          exact hfile
        · exact absurd (hwhole n e hwrite) (Nat.not_le_of_lt hn)
      · intro hkeeps
        exact hkeeps.1 n e hwrite hn
    · have hwhole : ∀ n e, io.write = some (n, e) →
          (Utf8Text.bytes merged.toList).length ≤ n :=
        fun n e hwrite => Nat.le_of_not_lt fun hn => hshort ⟨n, e, hwrite, hn⟩
      rw [atomicMerge_whole_iff h hwhole]
      constructor
      · intro hfile
        exact ⟨fun n e hwrite hn => absurd ⟨n, e, hwrite, hn⟩ hshort, fun _ => hfile⟩
      · intro hkeeps
        exact hkeeps.2 hwhole
  · have hnone : ∀ merged, ¬Truncates Y io scheme fqdn path dir file merged :=
      fun merged h => htruncated ⟨merged, h⟩
    obtain ⟨e, hending⟩ := untouched_of_not_truncated hnone
    rw [AtomicMerge, hending]
    refine ⟨fun _ merged h => absurd h (hnone merged), fun _ => ⟨fun _ _ => rfl, fun hok => ?_⟩⟩
    cases hok

/-! ## One call after the other -/

/-- What was written as UTF-8 is read as it. -/
theorem fromUtf8_bytes (text : String) : fromUtf8 (Utf8Text.bytes text.toList) = some text := by
  have hbytes : (Utf8Text.bytes text.toList).toByteArray = text.toByteArray := by
    rw [← String.utf8Encode_toList]
    rfl
  rw [fromUtf8, hbytes, String.fromUTF8?, dif_pos text.isValidUTF8]
  rfl

/-- A written text is the next call's old one: it never starts as UTF-16 would. -/
theorem existingText_bytes (text : String) :
    existingText (some (Utf8Text.bytes text.toList)) = .ok text := by
  have hbound : ∀ b ∈ Utf8Text.bytes text.toList, b.toNat < 0xF8 := by
    intro b hb
    obtain ⟨c, -, hc⟩ := List.mem_flatMap.mp hb
    exact Utf8Text.byte_lt c b hc
  have hdecoded := fromUtf8_bytes text
  revert hbound hdecoded
  generalize Utf8Text.bytes text.toList = bytes
  intro hbound hdecoded
  have hfirst (b : UInt8) (body : List UInt8) (h : bytes = b :: body) : b.toNat < 0xF8 :=
    hbound b (h ▸ List.mem_cons_self)
  rw [existingText, decodeKubeconfigBytes, hdecoded]
  · exact fun body hbytes => absurd (hfirst _ _ hbytes) (by decide)
  · exact fun body hbytes => absurd (hfirst _ _ hbytes) (by decide)

/-- A call of the command on the one kubeconfig: its cluster and how its own calls come out. -/
structure MergeCall where
  io : KubeIo
  scheme : String
  fqdn : String

section Runs
variable (Y : Yaml) (path : String) (dir : Option String)

/-- One call after the other: the file after them, and the clusters of those that succeeded. -/
def runCalls : List MergeCall → Option (List UInt8) →
    Option (List UInt8) × List (String × String)
  | [], file => (file, [])
  | call :: calls, file =>
    let (ending, file) := setKubeconfigForPeer Y call.io call.scheme call.fqdn path dir file
    let (last, clusters) := runCalls calls file
    match ending with
    | .ok () => (last, (call.scheme, call.fqdn) :: clusters)
    | .error _ => (last, clusters)

/-- No call of a run loses anything of the file that it comes upon. -/
def NothingLostIn : List MergeCall → Option (List UInt8) → Prop
  | [], _ => True
  | call :: calls, file =>
    NothingLost Y call.io call.scheme call.fqdn path dir file ∧
      NothingLostIn calls
        (setKubeconfigForPeer Y call.io call.scheme call.fqdn path dir file).2

/-- **In a run without losses the file is the merge of the clusters whose calls succeeded**, into
what it held at first; a failed call is as if it had not been made. -/
theorem existingText_runCalls {calls : List MergeCall} {file : Option (List UInt8)}
    {text : String} (hlost : NothingLostIn Y path dir calls file)
    (htext : existingText file = .ok text) :
    existingText (runCalls Y path dir calls file).1 =
      mergeAll Y text (runCalls Y path dir calls file).2 := by
  induction calls generalizing file text with
  | nil => exact htext
  | cons call calls ih =>
    obtain ⟨hcall, hcalls⟩ := hlost
    obtain ⟨hfailed, hmerged⟩ :=
      (atomicMerge_iff Y call.io call.scheme call.fqdn path dir file).mpr hcall
    rw [runCalls]
    cases hending : setKubeconfigForPeer Y call.io call.scheme call.fqdn path dir file with
    | mk ending file' =>
      rw [hending] at hfailed hmerged hcalls
      dsimp only at hfailed hmerged hcalls ⊢
      cases ending with
      | error e =>
        rw [hfailed e rfl] at hcalls ⊢
        exact ih hcalls htext
      | ok =>
        obtain ⟨existing, merged, hexisting, hmerge, hfile⟩ := hmerged rfl
        cases hexisting.symm.trans htext
        rw [hfile] at hcalls ⊢
        have hrest := ih hcalls (existingText_bytes merged)
        have hstep (clusters : List (String × String)) :
            mergeAll Y text ((call.scheme, call.fqdn) :: clusters) =
              (updateKubeconfig Y text call.scheme call.fqdn).bind fun text =>
                mergeAll Y text clusters := rfl
        rw [hrest, hstep, hmerge]
        rfl

end Runs

/-- **When a failed merge leaves the kubeconfig as it was.**

Whatever goes wrong before the truncating open, and in it, is reported with the file untouched, and
a call that succeeds has written the merge of the old text.  After the open a write that stops short
and a sync that fails are reported with the front of the new text, or all of it, in the file: the
old text is lost unless it was just that.  Where no call of a run loses anything, the file holds the
merge of the clusters whose calls succeeded. -/
theorem set_kubeconfig_atomic_iff (Y : Yaml) (io : KubeIo) (scheme fqdn path : String)
    (dir : Option String) (file : Option (List UInt8)) :
    (AtomicMerge Y io scheme fqdn path dir file ↔ NothingLost Y io scheme fqdn path dir file) ∧
      ∀ calls text, NothingLostIn Y path dir calls file → existingText file = .ok text →
        existingText (runCalls Y path dir calls file).1 =
          mergeAll Y text (runCalls Y path dir calls file).2 :=
  ⟨atomicMerge_iff Y io scheme fqdn path dir file,
    fun _ _ hlost htext => existingText_runCalls Y path dir hlost htext⟩

/-! ## A full disk -/

/-- `ENOSPC`. -/
def noSpaceLeft : OsError := ⟨"No space left on device (os error 28)", some 28⟩

/-- Everything succeeds but the write, which finds no room for its first byte. -/
def noRoom : KubeIo where
  stat := .found
  levels := []
  openRead := none
  read := none
  create := none
  write := some (0, noSpaceLeft)
  sync := none

/-- The kubeconfig of a user with one cluster. -/
def oneCluster : Option (List UInt8) :=
  some (Utf8Text.bytes (configText (updateConfig freshConfig "https://" "a.ts.net")).toList)

/-- The check has nothing against the file, and the failed merge leaves none of it. -/
theorem full_disk_loses_clusters :
    configureKubeconfig twoClusters noRoom "http://" "b.ts.net" "/root/.kube/config"
        [("/root/.kube/config", .found none)] (some "/root/.kube") oneCluster =
      (.error "write /root/.kube/config: no space left on device", some []) ∧
    ¬AtomicMerge twoClusters noRoom "http://" "b.ts.net" "/root/.kube/config"
      (some "/root/.kube") oneCluster := by
  have hdocuments := roundTrips_twoClusters
  simp only [List.forall_mem_cons] at hdocuments
  obtain ⟨ha, -, hab, -⟩ := hdocuments
  -- the file holds the first merge, and the second one would be written
  obtain ⟨first, hfirst, -, hread⟩ :=
    updateKubeconfig_ok (show readKubeconfig twoClusters "" = .ok freshConfig from rfl) ha
  obtain ⟨merged, hmerged, hmerge, -⟩ := updateKubeconfig_ok hread hab
  cases hfirst
  cases hmerged
  have hne : configText (updateConfig freshConfig "https://" "a.ts.net") ≠ "" ∧
      configText aThenB ≠ "" := by decide +kernel
  have hpos (text : String) (h : text ≠ "") : 0 < (Utf8Text.bytes text.toList).length := by
    refine Nat.pos_of_ne_zero fun hzero => h ?_
    exact String.toList_inj.mp (Utf8Text.bytes_eq_nil hzero)
  have htruncates : Truncates twoClusters noRoom "http://" "b.ts.net" "/root/.kube/config"
      (some "/root/.kube") oneCluster (configText aThenB) :=
    ⟨rfl, rfl, .inr rfl, ⟨_, existingText_bytes _, hmerge⟩, rfl⟩
  have hending := setKubeconfigForPeer_of_truncated htruncates
  rw [writeBack_short rfl _ rfl (hpos _ hne.2), List.take_zero] at hending
  have herror : goPathError "write" "/root/.kube/config" noSpaceLeft =
      "write /root/.kube/config: no space left on device" := by decide +kernel
  rw [herror] at hending
  refine ⟨hending, fun hatomic => ?_⟩
  have hkept : some [] = oneCluster := by
    have hfile := hatomic.1 _ (congrArg Prod.fst hending)
    rwa [hending] at hfile
  have hlost := congrArg List.length (Option.some.inj hkept)
  exact absurd hlost (Nat.ne_of_lt (hpos _ hne.1))

end Tailnetd
