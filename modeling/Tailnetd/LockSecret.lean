/-
  The disablement secret of Tailnet Lock, and the two readers of its hexadecimal text.

  The command line reads a secret to refuse a malformed one before it asks for a confirmation, and
  to derive the disablement value of one; it sends the text on as it was given, and the daemon reads
  it again.  Both readers are written by hand.  The command line takes whitespace off and reads
  bytes with a table of digits; the daemon cuts the text into slices of two bytes and hands each to
  the integer parser, which allows a plus sign.

  1. **Program** — `decodeHex` and `encodeHex` of the daemon with `lockInit` and `lockDisable`;
     `hexDecodeLower` and `hexEncodeUpper` of the command line with `planLockInit` and
     `disablementKdfLine`.

  2. **Specification** — `HexText s b`: the text is an even number of hexadecimal digits that spell
     the bytes.  `LooseHex s b` also allows a plus sign for the first digit of a byte.

  3. **Results** — the daemon reads exactly the loose texts (`decodeHex_iff`), the command line
     exactly the texts that are hexadecimal between their whitespace (`hexDecodeLower_iff`).  The
     two agree with the specification, and so with each other, on every text that is neither a loose
     one with a sign nor a hexadecimal one with whitespace around it, and on no other.
-/
import Tailnetd.EnvFile
import Tailnetd.HttpProxy
import Tailnetd.ProfileFiles

namespace Tailnetd

open Utf8Text

/-! ## The daemon's reader and writer -/

/-- `u8::from_str_radix(s.get(i..i + 2)?, 16).ok()`, where `i` is `2 * k`. -/
def sliceByte (s : List Char) (k : Nat) : Option UInt8 :=
  (slice? (2 * k) (2 * k + 2) s).bind fun pair => (Radix.fromStrRadix 16 256 pair).map UInt8.ofNat

/-- `decode_hex`. -/
def decodeHex (s : List Char) : Option (List UInt8) :=
  if (bytes s).length % 2 ≠ 0 then none
  else (List.range ((bytes s).length / 2)).mapM (sliceByte s)

/-- `encode_hex`: two digits for each byte. -/
def encodeHex (bs : List UInt8) : List Char :=
  bs.flatMap fun b => [(b.toNat / 16).digitChar, (b.toNat % 16).digitChar]

/-- `Response`, as far as the two requests answer it. -/
inductive LockResponse where
  | ok (message : String)
  | error (message : String)
deriving DecidableEq, Repr

/-- The device: what its engine answers to a secret, and the secrets it was handed. -/
structure TkaDevice where
  tkaInit : List UInt8 → Except String Unit
  tkaDisable : List UInt8 → Except String Unit
  handed : List (List UInt8)

/-- A request that hands the secret to the engine, or refuses it before. -/
def handSecret (answer : List UInt8 → Except String Unit) (done failed : String) (dev : TkaDevice)
    (secretHex : String) : TkaDevice × LockResponse :=
  match decodeHex secretHex.toList with
  | none =>
    (dev, .error "invalid disablement secret: expected a hex-encoded value")
  | some secret =>
    ({ dev with handed := dev.handed ++ [secret] },
      match answer secret with
      | .ok () => .ok done
      | .error e => .error (failed ++ e))

/-- `lock_init`. -/
def lockInit (dev : TkaDevice) (secretHex : String) : TkaDevice × LockResponse :=
  handSecret dev.tkaInit
    ("Tailnet Lock initialized with this node as the sole trusted key (applies on the next " ++
      "netmap sync; keep the disablement secret safe)")
    "tailnet lock init failed: " dev secretHex

/-- `lock_disable`. -/
def lockDisable (dev : TkaDevice) (secretHex : String) : TkaDevice × LockResponse :=
  handSecret dev.tkaDisable
    "Tailnet Lock disabled for the tailnet (applies on the next netmap sync)"
    "tailnet lock disable failed: " dev secretHex

/-! ## The command line's reader and writer -/

/-- An error of the command line with its causes, the outermost first. -/
abbrev ErrorChain := List String

/-- `hex_nibble`. -/
def hexNibble (b : UInt8) : Option UInt8 :=
  if '0'.toUInt8 ≤ b ∧ b ≤ '9'.toUInt8 then some (b - '0'.toUInt8)
  else if 'a'.toUInt8 ≤ b ∧ b ≤ 'f'.toUInt8 then some (b - 'a'.toUInt8 + 10)
  else if 'A'.toUInt8 ≤ b ∧ b ≤ 'F'.toUInt8 then some (b - 'A'.toUInt8 + 10)
  else none

/-- The bytes of the pairs of digits; `refusal` is what is said of the first pair that is none. -/
def decodePairs (refusal : UInt8 → UInt8 → String) :
    List UInt8 → Except ErrorChain (List UInt8)
  | a :: b :: rest =>
    match hexNibble a, hexNibble b with
    | some hi, some lo => (decodePairs refusal rest).map fun bs => (hi <<< 4 ||| lo) :: bs
    | _, _ => .error [refusal a b]
  | _ => .ok []

/-- `hex_decode_lower`. -/
def hexDecodeLower (s : String) : Except ErrorChain (List UInt8) :=
  if (bytes (trim s).toList).length % 2 ≠ 0 then .error ["odd-length hex string"]
  else
    decodePairs (fun a b => "invalid hex byte " ++ quoted (String.ofList (fromUtf8Lossy [a, b])))
      (bytes (trim s).toList)

/-- `hex_encode_upper`. -/
def hexEncodeUpper (bs : List UInt8) : List Char :=
  bs.flatMap fun b => [(b.toNat / 16).digitChar.toUpper, (b.toNat % 16).digitChar.toUpper]

/-! ## `lock init` -/

/-- `LockTrustedKey`. -/
structure LockTrustedKey where
  publicKey : List UInt8
  votes : Nat
deriving DecidableEq, Repr

/-- `parse_lock_public_key`. -/
def parseLockPublicKey (s : String) : Except ErrorChain (List UInt8) :=
  let hex :=
    match stripPrefix "nlpub:" s with
    | some rest => some rest
    | none => stripPrefix "tlpub:" s
  match hex with
  | none => .error ["key hex string doesn't have expected type prefix tlpub:"]
  | some hex =>
    let raw := bytes hex.toList
    if raw.length ≠ 64 then .error [s!"key hex has the wrong size, got {raw.length} want 64"]
    else decodePairs (fun _ _ => "invalid hex character in key") raw

/-- The loop of `str::parse::<u64>`: a digit is asked for before the overflow is. -/
def parseVotesLoop : Nat → List Char → Except String Nat
  | value, [] => .ok value
  | value, c :: rest =>
    match Radix.digit? 10 c with
    | none => .error "invalid digit found in string"
    | some d =>
      if 2 ^ 64 ≤ value * 10 + d then .error "number too large to fit in target type"
      else parseVotesLoop (value * 10 + d) rest

/-- `str::parse::<u64>`. -/
def parseVotes (text : List Char) : Except String Nat :=
  match text with
  | [] => .error "cannot parse integer from empty string"
  | [c] => parseVotesLoop 0 [c]
  | c :: rest => parseVotesLoop 0 (if c = '+' then rest else c :: rest)

/-- The error of a positional argument, which keeps its cause in its text. -/
def argumentError {α : Type} (what : String) (n : Nat) :
    Except ErrorChain α → Except ErrorChain α
  | .ok a => .ok a
  | .error e => .error [s!"parsing {what} {n}: " ++ e.headD ""]

/-- One argument of `parse_lock_args`: a trusted key, or a disablement value. -/
def parseLockArg (parseKeys parseDisablements : Bool) (n : Nat) (a : String) :
    Except ErrorChain (LockTrustedKey ⊕ List UInt8) :=
  if parseDisablements && (startsWith "disablement:" a || startsWith "disablement-secret:" a) then
    let hex := ((splitOnce ':' a).map (·.2)).getD ""
    (argumentError "disablement" n (hexDecodeLower hex)).map .inr
  else if !parseKeys then
    .error [s!"parsing argument {n}: expected value with \"disablement:\" or " ++
      "\"disablement-secret:\" prefix, got " ++ quoted a]
  else
    let halves := splitOnce '?' a
    let keyText := (halves.map (·.1)).getD a
    match argumentError "key" n (parseLockPublicKey keyText) with
    | .error e => .error e
    | .ok publicKey =>
      match halves with
      | none => .ok (.inl ⟨publicKey, 1⟩)
      | some (_, votes) =>
        match parseVotes votes.toList with
        | .ok votes => .ok (.inl ⟨publicKey, votes⟩)
        | .error e => .error [s!"parsing key {n} votes: {e}"]

/-- `parse_lock_args`, from the argument of number `n` on. -/
def parseLockArgs (parseKeys parseDisablements : Bool) :
    Nat → List String → Except ErrorChain (List LockTrustedKey × List (List UInt8))
  | _, [] => .ok ([], [])
  | n, a :: rest =>
    match parseLockArg parseKeys parseDisablements n a with
    | .error e => .error e
    | .ok (.inl key) =>
      (parseLockArgs parseKeys parseDisablements (n + 1) rest).map fun r => (key :: r.1, r.2)
    | .ok (.inr value) =>
      (parseLockArgs parseKeys parseDisablements (n + 1) rest).map fun r => (r.1, value :: r.2)

/-- `LockInitArgs`. -/
structure LockInitArgs where
  positionals : List String
  genDisablements : Option Nat
  genDisablementForSupport : Bool
  confirm : Bool
  suppliedSecret : Option String
deriving DecidableEq, Repr

/-- `LockInitPlan`. -/
inductive LockInitPlan where
  | confirm (text : String)
  | init (secretHex preamble notice : String)
deriving DecidableEq, Repr

/-- `SUPPORT_DISABLEMENT_NOTE`. -/
def supportDisablementNote : String :=
  "Note: this daemon's engine also transmits the disablement secret to the coordination server " ++
    "as the support disablement, so its operator can disable the lock. Upstream does that only " ++
    "for --gen-disablement-for-support."

/-- The refusals of `plan_lock_init` before it looks at the secret, in its order. -/
def lockInitRefusal (args : LockInitArgs) (keys : List LockTrustedKey)
    (disablements : List (List UInt8)) : Option String :=
  let genDisablements := args.genDisablements.getD 1
  if !keys.isEmpty then
    some ("this daemon cannot initialize tailnet lock with a chosen trusted-key set. Upstream's " ++
      "rule is that \"the tailnet lock key of the current node must be one of the trusted keys " ++
      "during initialization\"; here the engine's `tka_init` takes no key set at all — it always " ++
      "initializes trusting this node's own tailnet lock key alone, with one vote — and exposes " ++
      "no way to read that key back, so a key set can neither be honoured nor checked. Re-run " ++
      "with no <trusted-key> arguments to initialize with this node as the sole trusted key " ++
      "(docs/ENGINE_ASKS.md #36)")
  else if !disablements.isEmpty then
    some ("this daemon cannot initialize tailnet lock with a pre-computed disablement value. The " ++
      "engine's `tka_init` takes a disablement SECRET and derives the value from it itself, so a " ++
      "value computed offline with `tnet lock disablement-kdf` has nowhere to go. Supply the " ++
      "secret with --disablement-secret instead, or let this command mint one " ++
      "(docs/ENGINE_ASKS.md #36)")
  else if args.genDisablementForSupport then
    some ("this daemon cannot honour --gen-disablement-for-support: it asks for an ADDITIONAL " ++
      "disablement secret, minted separately and transmitted to the coordination server, and the " ++
      "engine's `tka_init` carries exactly one secret — which it already transmits as the support " ++
      "disablement. The secret this command uses is known to the coordination server either way, " ++
      "with or without this flag (docs/ENGINE_ASKS.md #36)")
  else if args.genDisablements.isSome && args.suppliedSecret.isSome then
    some ("--gen-disablements can only be used without --disablement-secret: " ++
      "--disablement-secret supplies the one disablement secret, --gen-disablements asks this " ++
      "command to mint it")
  else if args.suppliedSecret.isNone && genDisablements == 0 then
    some ("initializing tailnet lock requires at least one disablement, so --gen-disablements 0 " ++
      "cannot be used: a lock with no disablement value could never be disabled")
  else if args.suppliedSecret.isNone && genDisablements != 1 then
    some (s!"this daemon cannot honour --gen-disablements {genDisablements}: the engine's " ++
      "`tka_init` stores exactly one disablement value, so only --gen-disablements 1 (the " ++
      "default) can be initialized (docs/ENGINE_ASKS.md #36)")
  else none

/-- The check that a supplied secret can be read. -/
def checkSuppliedSecret : Option String → Except ErrorChain Unit
  | none => .ok ()
  | some secret =>
    match hexDecodeLower secret with
    | .ok _ => .ok ()
    | .error e => .error ("--disablement-secret must be hex-encoded" :: e)

/-- The trusted keys, which are printed on either path. -/
def lockInitPreamble : String :=
  "You are initializing tailnet lock with the following trusted signing keys:\n" ++
    " - the tailnet lock key of this node (the only key this daemon can trust; it cannot print " ++
    "it)\n\n"

/-- What is printed without `--confirm`. -/
def lockInitConfirmation (program : String) (args : LockInitArgs) : String :=
  let genDisablements := args.genDisablements.getD 1
  lockInitPreamble ++
    match args.suppliedSecret with
    | some secret =>
      "The disablement secret supplied with --disablement-secret will be used; none will be " ++
        "generated.\n" ++ supportDisablementNote ++
        "\n\nIf this is correct, please re-run this command with the --confirm flag:\n" ++
        s!"\t{program} lock init --confirm --disablement-secret {secret}\n"
    | none =>
      s!"{genDisablements} disablement secrets will be generated.\n" ++ supportDisablementNote ++
        "\n\nIf this is correct, please re-run this command with the --confirm flag:\n" ++
        s!"\t{program} lock init --confirm --gen-disablements {genDisablements}\n"

/-- `plan_lock_init`; `mint` is what the entropy source answers. -/
def planLockInit (program : String) (args : LockInitArgs) (lockEnabled : Bool)
    (mint : Except ErrorChain (List UInt8)) : Except ErrorChain LockInitPlan := do
  if lockEnabled then .error ["tailnet lock is already enabled"]
  else
    let (keys, disablements) ← parseLockArgs true true 1 args.positionals
    match lockInitRefusal args keys disablements with
    | some refusal => .error [refusal]
    | none =>
      checkSuppliedSecret args.suppliedSecret
      if !args.confirm then .ok (.confirm (lockInitConfirmation program args))
      else
        match args.suppliedSecret with
        | some secret => .ok (.init secret lockInitPreamble (supportDisablementNote ++ "\n"))
        | none =>
          let secret ← mint
          let hex := String.ofList (hexEncodeUpper secret)
          .ok (.init hex lockInitPreamble
            (s!"{args.genDisablements.getD 1} disablement secrets have been generated and are " ++
              "printed below. Take note of them now, they WILL NOT be shown again.\n" ++
              s!"\tdisablement-secret:{hex}\n" ++ supportDisablementNote ++ "\n"))

/-- `disablement_kdf_line`; `kdf` is the Argon2i derivation. -/
def disablementKdfLine (kdf : List UInt8 → Except String (List UInt8)) (secretHex : String) :
    Except ErrorChain String :=
  match hexDecodeLower secretHex with
  | .error e => .error ("disablement secret must be hex-encoded" :: e)
  | .ok secret =>
    match kdf secret with
    | .error e => .error ["argon2 derivation failed: " ++ e]
    | .ok out => .ok ("disablement:" ++ String.ofList (encodeHex out))

/-! ## Hexadecimal texts -/

/-- An even number of hexadecimal digits, and the bytes they spell. -/
inductive HexText : List Char → List UInt8 → Prop
  | nil : HexText [] []
  | cons {hi lo : Char} {h l : Nat} {s : List Char} {b : List UInt8}
      (hhi : Radix.digit? 16 hi = some h) (hlo : Radix.digit? 16 lo = some l)
      (hrest : HexText s b) : HexText (hi :: lo :: s) (UInt8.ofNat (16 * h + l) :: b)

/-- The same with a plus sign, for once or oftener, where the first digit of a byte would be. -/
inductive LooseHex : List Char → List UInt8 → Prop
  | nil : LooseHex [] []
  | digits {hi lo : Char} {h l : Nat} {s : List Char} {b : List UInt8}
      (hhi : Radix.digit? 16 hi = some h) (hlo : Radix.digit? 16 lo = some l)
      (hrest : LooseHex s b) : LooseHex (hi :: lo :: s) (UInt8.ofNat (16 * h + l) :: b)
  | signed {lo : Char} {l : Nat} {s : List Char} {b : List UInt8}
      (hlo : Radix.digit? 16 lo = some l) (hrest : LooseHex s b) :
      LooseHex ('+' :: lo :: s) (UInt8.ofNat l :: b)

theorem HexText.loose {s : List Char} {b : List UInt8} (h : HexText s b) : LooseHex s b := by
  induction h with
  | nil => exact .nil
  | cons hhi hlo _ ih => exact .digits hhi hlo ih

/-- Every character of a hexadecimal text is a digit. -/
theorem HexText.digits {s : List Char} {b : List UInt8} (h : HexText s b) :
    ∀ c ∈ s, (Radix.digit? 16 c).isSome := by
  induction h with
  | nil => exact fun c hc => absurd hc List.not_mem_nil
  | cons hhi hlo _ ih =>
    exact List.forall_mem_cons.mpr ⟨Option.isSome_of_eq_some hhi,
      List.forall_mem_cons.mpr ⟨Option.isSome_of_eq_some hlo, ih⟩⟩

theorem HexText.even {s : List Char} {b : List UInt8} (h : HexText s b) :
    (bytes s).length % 2 = 0 := by
  have hlen : (bytes s).length = s.length :=
    bytes_length_of_ascii fun c hc => Radix.ascii_of_digit (h.digits c hc)
  rw [hlen]
  clear hlen
  induction h with
  | nil => rfl
  | cons _ _ _ ih =>
    rw [List.length_cons, List.length_cons]
    omega

theorem HexText.no_sign {s : List Char} {b : List UInt8} (h : HexText s b) : '+' ∉ s := by
  intro hmem
  have hdigit := h.digits '+' hmem
  rw [Radix.digit?_plus] at hdigit
  cases hdigit

/-- Without a sign a loose text is a hexadecimal one. -/
theorem LooseHex.strict {s : List Char} {b : List UInt8} (h : LooseHex s b) (hsign : '+' ∉ s) :
    HexText s b := by
  induction h with
  | nil => exact .nil
  | digits hhi hlo _ ih =>
    exact .cons hhi hlo
      (ih fun hmem => hsign (List.mem_cons_of_mem _ (List.mem_cons_of_mem _ hmem)))
  | signed _ _ _ => exact absurd List.mem_cons_self hsign

/-! ## What the command line reads -/

theorem hexNibble_low :
    ∀ n < 128, hexNibble (UInt8.ofNat n) = (Radix.digit? 16 (Char.ofNat n)).map UInt8.ofNat := by
  decide

theorem hexNibble_high {b : UInt8} (h : 128 ≤ b.toNat) : hexNibble b = none := by
  have h9 : '9'.toUInt8.toNat = 57 := rfl
  have hf : 'f'.toUInt8.toNat = 102 := rfl
  have hF : 'F'.toUInt8.toNat = 70 := rfl
  unfold hexNibble
  simp only [UInt8.le_iff_toNat_le]
  rw [if_neg (by omega), if_neg (by omega), if_neg (by omega)]

/-- The table of digits reads the first byte of a character as the digit it is. -/
theorem hexNibble_first {c : Char} {b : UInt8} {after : List UInt8}
    (hb : String.utf8EncodeChar c = b :: after) :
    hexNibble b = (Radix.digit? 16 c).map UInt8.ofNat := by
  rcases ascii_or_high c with ⟨hlow, henc⟩ | ⟨hhigh, henc⟩
  · obtain ⟨rfl, -⟩ := List.cons.inj (hb.symm.trans henc)
    rw [hexNibble_low _ hlow, Char.ofNat_toNat]
  · rw [hexNibble_high (henc b (hb ▸ List.mem_cons_self))]
    have hnone := @digit_none_high 16 c hhigh
    rw [Option.isSome_eq_false_iff, Option.isNone_iff_eq_none] at hnone
    rw [hnone, Option.map_none]

/-- A digit is one byte. -/
theorem digit_encoded {c : Char} {d : Nat} (h : Radix.digit? 16 c = some d) :
    ∃ b, String.utf8EncodeChar c = [b] ∧ hexNibble b = some (UInt8.ofNat d) := by
  have hsome : (Radix.digit? 16 c).isSome = true := Option.isSome_of_eq_some h
  obtain ⟨-, b, henc, -⟩ := isAsciiHexdigit_tests.pass hsome
  exact ⟨b, henc, by rw [hexNibble_first henc, h, Option.map_some]⟩

theorem nibbles_byte :
    ∀ h < 16, ∀ l < 16, (UInt8.ofNat h <<< 4 ||| UInt8.ofNat l) = UInt8.ofNat (16 * h + l) := by
  decide

section DecodePairs
variable {refusal : UInt8 → UInt8 → String} {s : List Char}

/-- A character that is no digit is in the way where a byte begins. -/
theorem decodePairs_bad_first {x : Char} (hx : Radix.digit? 16 x = none)
    (heven : (bytes (x :: s)).length % 2 = 0) (b : List UInt8) :
    decodePairs refusal (bytes (x :: s)) ≠ .ok b := by
  obtain ⟨first, after, hfirst, -⟩ := first_byte x
  have hnibble : hexNibble first = none := by rw [hexNibble_first hfirst, hx, Option.map_none]
  have hbytes : bytes (x :: s) = first :: (after ++ bytes s) := by
    rw [bytes_cons, hfirst, List.cons_append]
  rw [hbytes] at heven ⊢
  intro h
  cases hafter : after ++ bytes s with
  | nil =>
    rw [hafter] at heven
    simp at heven
  | cons second rest =>
    rw [hafter, decodePairs, hnibble] at h
    cases h

/-- And it is where a byte ends. -/
theorem decodePairs_bad_second {x y : Char} {h : Nat} (hx : Radix.digit? 16 x = some h)
    (hy : Radix.digit? 16 y = none) (b : List UInt8) :
    decodePairs refusal (bytes (x :: y :: s)) ≠ .ok b := by
  obtain ⟨high, hencx, hnibblex⟩ := digit_encoded hx
  obtain ⟨second, after, hsecond, -⟩ := first_byte y
  have hnibbley : hexNibble second = none := by
    rw [hexNibble_first hsecond, hy, Option.map_none]
  have hbytes : bytes (x :: y :: s) = high :: second :: (after ++ bytes s) := by
    rw [bytes_cons, hencx, bytes_cons, hsecond]
    rfl
  rw [hbytes, decodePairs, hnibblex, hnibbley]
  exact nofun

/-- Two digits are one byte. -/
theorem decodePairs_pair {x y : Char} {h l : Nat} (hx : Radix.digit? 16 x = some h)
    (hy : Radix.digit? 16 y = some l) :
    bytes (x :: y :: s) = bytes [x, y] ++ bytes s ∧ (bytes [x, y]).length = 2 ∧
      decodePairs refusal (bytes (x :: y :: s)) =
        (decodePairs refusal (bytes s)).map fun b => UInt8.ofNat (16 * h + l) :: b := by
  obtain ⟨high, hencx, hnibblex⟩ := digit_encoded hx
  obtain ⟨low, hency, hnibbley⟩ := digit_encoded hy
  have hpair : bytes [x, y] = [high, low] := by
    rw [bytes_cons, bytes_cons, hencx, hency]
    rfl
  have hbytes : bytes (x :: y :: s) = high :: low :: bytes s := by
    rw [bytes_cons, hencx, bytes_cons, hency]
    rfl
  have hbyte := nibbles_byte h (Radix.digit?_lt hx) l (Radix.digit?_lt hy)
  rw [hpair, hbytes, decodePairs, hnibblex, hnibbley, ← hbyte]
  exact ⟨rfl, rfl, rfl⟩

end DecodePairs

/-- **The command line's pairs** are read exactly when the text they are the bytes of is
    hexadecimal. -/
theorem decodePairs_ok_iff {refusal : UInt8 → UInt8 → String} {s : List Char}
    (heven : (bytes s).length % 2 = 0) {b : List UInt8} :
    decodePairs refusal (bytes s) = .ok b ↔ HexText s b := by
  constructor
  · -- by what is left of the text after each pair
    induction hlen : s.length using Nat.strongRecOn generalizing s b with
    | _ n ih =>
      intro hread
      cases s with
      | nil =>
        obtain rfl := Except.ok.inj hread
        exact .nil
      | cons x s =>
        cases hx : Radix.digit? 16 x with
        | none => exact absurd hread (decodePairs_bad_first hx heven b)
        | some h =>
          cases s with
          | nil =>
            obtain ⟨high, henc, -⟩ := digit_encoded hx
            rw [bytes_cons, henc, bytes_nil] at heven
            simp at heven
          | cons y s =>
            cases hy : Radix.digit? 16 y with
            | none => exact absurd hread (decodePairs_bad_second hx hy b)
            | some l =>
              obtain ⟨hbytes, hlength, hpair⟩ := @decodePairs_pair refusal s x y h l hx hy
              have heven' : (bytes s).length % 2 = 0 := by
                rw [hbytes, List.length_append, hlength] at heven
                omega
              have hshorter : s.length < n := by
                rw [← hlen, List.length_cons, List.length_cons]
                omega
              rw [hpair] at hread
              cases htail : decodePairs refusal (bytes s) with
              | error e =>
                rw [htail] at hread
                cases hread
              | ok tail =>
                rw [htail] at hread
                obtain rfl := Except.ok.inj hread
                exact .cons hx hy (ih s.length hshorter heven' rfl htail)
  · intro hhex
    clear heven
    induction hhex with
    | nil => rfl
    | @cons hi lo h l s b hhi hlo _ ih =>
      rw [(@decodePairs_pair refusal s hi lo h l hhi hlo).2.2, ih]
      rfl

/-- **The command line reads** exactly the texts that are hexadecimal between their whitespace. -/
theorem hexDecodeLower_iff {s : String} {b : List UInt8} :
    hexDecodeLower s = .ok b ↔ HexText (trim s).toList b := by
  unfold hexDecodeLower
  by_cases heven : (bytes (trim s).toList).length % 2 = 0
  · rw [if_neg (not_not.mpr heven)]
    exact decodePairs_ok_iff heven
  · rw [if_pos heven]
    constructor
    · intro h
      cases h
    · intro h
      exact absurd h.even heven

/-! ## What the daemon reads -/

/-- The slices behind the first two bytes are those of the rest. -/
theorem mapM_slices_succ (x y : Char) (s : List Char) (n : Nat)
    (hlen : (bytes [x, y]).length = 2) :
    (List.range (n + 1)).mapM (sliceByte (x :: y :: s)) =
      (sliceByte (x :: y :: s) 0).bind fun v =>
        ((List.range n).mapM (sliceByte s)).map (v :: ·) := by
  have hshift : sliceByte (x :: y :: s) ∘ Nat.succ = sliceByte s := by
    funext k
    have hadd := slice?_add [x, y] s (2 * k) (2 * k + 2)
    rw [hlen] at hadd
    have hlow : 2 * Nat.succ k = 2 + 2 * k := by omega
    have hhigh : 2 * Nat.succ k + 2 = 2 + (2 * k + 2) := by omega
    rw [Function.comp_apply, sliceByte, hhigh, hlow]
    exact congrArg
      (Option.bind · fun pair => (Radix.fromStrRadix 16 256 pair).map UInt8.ofNat) hadd
  rw [List.range_succ_eq_map, List.mapM_cons, List.mapM_map, hshift]
  cases sliceByte (x :: y :: s) 0 with
  | none => rfl
  | some v =>
    cases (List.range n).mapM (sliceByte s) with
    | none => rfl
    | some bs => rfl

/-- A byte is read from a pair of digits, or of a plus sign and a digit. -/
theorem fromStrRadix_pair {x y : Char} {v : Nat} :
    Radix.fromStrRadix 16 256 [x, y] = some v ↔
      (x = '+' ∧ Radix.digit? 16 y = some v) ∨
        ∃ h l, Radix.digit? 16 x = some h ∧ Radix.digit? 16 y = some l ∧ v = 16 * h + l := by
  have hread : Radix.fromStrRadix 16 256 [x, y] =
      (Radix.value? 16 0 (if x = '+' then [y] else [x, y])).filter (· < 256) := rfl
  have hone {d : Nat} : Radix.value? 16 0 [y] = some d ↔ Radix.digit? 16 y = some d := by
    simp [Radix.value?]
  rw [hread, Option.filter_eq_some_iff, decide_eq_true_eq]
  by_cases hx : x = '+'
  · subst hx
    rw [if_pos rfl, hone, Radix.digit?_plus]
    constructor
    · rintro ⟨hy, -⟩
      exact .inl ⟨rfl, hy⟩
    · rintro (⟨-, hy⟩ | ⟨h, l, hnone, -⟩)
      · have hlt := Radix.digit?_lt hy
        exact ⟨hy, by omega⟩
      · cases hnone
  · rw [if_neg hx]
    constructor
    · rintro ⟨hvalue, -⟩
      obtain ⟨h, hh, htail⟩ := Option.bind_eq_some_iff.mp hvalue
      obtain ⟨l, hl, hv⟩ := Option.bind_eq_some_iff.mp htail
      have hsum := Option.some.inj hv
      exact .inr ⟨h, l, hh, hl, by omega⟩
    · rintro (⟨hplus, -⟩ | ⟨h, l, hh, hl, rfl⟩)
      · exact absurd hplus hx
      · have hlth := Radix.digit?_lt hh
        have hltl := Radix.digit?_lt hl
        refine ⟨?_, by omega⟩
        rw [Radix.value?_cons hh, Radix.value?_cons hl, Radix.value?_nil]
        congr 1
        omega

/-- The first slice of a text that is read is two characters of one byte each. -/
theorem sliceByte_zero {s : List Char} {v : UInt8} (h : sliceByte s 0 = some v) :
    ∃ x y rest n, s = x :: y :: rest ∧ (bytes [x, y]).length = 2 ∧
      Radix.fromStrRadix 16 256 [x, y] = some n ∧ v = UInt8.ofNat n := by
  obtain ⟨pair, hslice, hbyte⟩ := Option.bind_eq_some_iff.mp h
  obtain ⟨n, hn, rfl⟩ := Option.map_eq_some_iff.mp hbyte
  obtain ⟨rest, rfl, hlen⟩ := (@slice?_append_eq_some_iff [] s pair 2).mp hslice
  match pair with
  | [] => cases hn
  | [c] =>
    -- a digit is one byte, and this character two
    obtain ⟨hvalue, -⟩ := Option.filter_eq_some_iff.mp hn
    have hdigit := Radix.value?_isSome_iff.mp (Option.isSome_of_eq_some hvalue) c
      List.mem_cons_self
    obtain ⟨d, hd⟩ := Option.isSome_iff_exists.mp hdigit
    obtain ⟨b, henc, -⟩ := digit_encoded hd
    rw [bytes_cons, henc, bytes_nil] at hlen
    cases hlen
  | [x, y] => exact ⟨x, y, rest, n, rfl, hlen, hn, rfl⟩
  | x :: y :: z :: more =>
    have hx := x.utf8Size_pos
    have hy := y.utf8Size_pos
    have hz := z.utf8Size_pos
    rw [bytes_length_cons, bytes_length_cons, bytes_length_cons] at hlen
    omega

/-- A pair that is read stands for one byte of a loose text. -/
theorem LooseHex.of_pair {x y : Char} {n : Nat} (h : Radix.fromStrRadix 16 256 [x, y] = some n)
    {s : List Char} {b : List UInt8} (hrest : LooseHex s b) :
    LooseHex (x :: y :: s) (UInt8.ofNat n :: b) := by
  rcases fromStrRadix_pair.mp h with ⟨rfl, hy⟩ | ⟨hi, lo, hx, hy, rfl⟩
  · exact .signed hy hrest
  · exact .digits hx hy hrest

theorem LooseHex.pair {x : Char} {s : List Char} {b : List UInt8} (h : LooseHex (x :: s) b) :
    ∃ y rest n more, s = y :: rest ∧ (bytes [x, y]).length = 2 ∧
      Radix.fromStrRadix 16 256 [x, y] = some n ∧ b = UInt8.ofNat n :: more ∧
      LooseHex rest more := by
  cases h with
  | @digits hi lo h l s b hhi hlo hrest =>
    refine ⟨lo, s, _, b, rfl, ?_, fromStrRadix_pair.mpr (.inr ⟨h, l, hhi, hlo, rfl⟩), rfl, hrest⟩
    obtain ⟨high, hench, -⟩ := digit_encoded hhi
    obtain ⟨low, hencl, -⟩ := digit_encoded hlo
    rw [bytes_cons, bytes_cons, hench, hencl]
    rfl
  | @signed lo l s b hlo hrest =>
    refine ⟨lo, s, l, b, rfl, ?_, fromStrRadix_pair.mpr (.inl ⟨rfl, hlo⟩), rfl, hrest⟩
    obtain ⟨low, hencl, -⟩ := digit_encoded hlo
    rw [bytes_cons, bytes_cons, hencl]
    rfl

/-- Two characters of one byte each are read on their own. -/
theorem decodeHex_pair {x y : Char} (hlen : (bytes [x, y]).length = 2) (s : List Char) :
    decodeHex (x :: y :: s) =
      (sliceByte (x :: y :: s) 0).bind fun v => (decodeHex s).map (v :: ·) := by
  have hbytes : (bytes (x :: y :: s)).length = (bytes s).length + 2 := by
    have happend := congrArg List.length (bytes_append [x, y] s)
    rw [List.length_append, hlen, Nat.add_comm] at happend
    exact happend
  unfold decodeHex
  rw [hbytes, Nat.add_mod_right, Nat.add_div_right _ (by decide), mapM_slices_succ x y s _ hlen]
  split
  · cases sliceByte (x :: y :: s) 0 <;> rfl
  · rfl

/-- A text that is read and not empty has a first slice. -/
theorem sliceByte_of_decodeHex {x : Char} {s : List Char} {b : List UInt8}
    (h : decodeHex (x :: s) = some b) : ∃ v, sliceByte (x :: s) 0 = some v := by
  have hpos := x.utf8Size_pos
  have hbytes := bytes_length_cons x s
  unfold decodeHex at h
  split at h
  · cases h
  next heven =>
  obtain ⟨n, hn⟩ : ∃ n, (bytes (x :: s)).length / 2 = n + 1 :=
    Nat.exists_eq_add_one.mpr (by omega)
  rw [hn, List.range_succ_eq_map, List.mapM_cons] at h
  obtain ⟨v, hv, -⟩ := Option.bind_eq_some_iff.mp h
  exact ⟨v, hv⟩

/-- **The daemon reads** exactly the loose texts. -/
theorem decodeHex_iff {s : List Char} {b : List UInt8} : decodeHex s = some b ↔ LooseHex s b := by
  induction hlen : s.length using Nat.strongRecOn generalizing s b with
  | _ n ih =>
    constructor
    · intro h
      cases s with
      | nil =>
        obtain rfl := Option.some.inj h
        exact .nil
      | cons x s =>
        obtain ⟨v, hv⟩ := sliceByte_of_decodeHex h
        obtain ⟨x', y, rest, value, hsplit, htwo, hvalue, rfl⟩ := sliceByte_zero hv
        rw [hsplit] at h hv hlen ⊢
        rw [decodeHex_pair htwo, hv, Option.bind_some] at h
        obtain ⟨more, hmore, rfl⟩ := Option.map_eq_some_iff.mp h
        have hshorter : rest.length < n := by
          rw [← hlen, List.length_cons, List.length_cons]
          omega
        exact .of_pair hvalue ((ih _ hshorter rfl).mp hmore)
    · intro h
      cases s with
      | nil =>
        cases h
        rfl
      | cons x s =>
        obtain ⟨y, rest, value, more, rfl, htwo, hvalue, rfl, hrest⟩ := h.pair
        have hfirst : sliceByte (x :: y :: rest) 0 = some (UInt8.ofNat value) := by
          have hslice : slice? (2 * 0) (2 * 0 + 2) (x :: y :: rest) = some [x, y] :=
            (@slice?_append_eq_some_iff [] (x :: y :: rest) [x, y] 2).mpr ⟨rest, rfl, htwo⟩
          rw [sliceByte, hslice, Option.bind_some, hvalue, Option.map_some]
        have hshorter : rest.length < n := by
          rw [← hlen, List.length_cons, List.length_cons]
          omega
        rw [decodeHex_pair htwo, hfirst, Option.bind_some, (ih _ hshorter rfl).mpr hrest,
          Option.map_some]

/-! ## The writers -/

/-- A writer of two digits for each byte writes a hexadecimal text of the bytes. -/
theorem hexText_flatMap {digit : Nat → Char}
    (hdigit : ∀ n < 16, Radix.digit? 16 (digit n) = some n) (bs : List UInt8) :
    HexText (bs.flatMap fun b => [digit (b.toNat / 16), digit (b.toNat % 16)]) bs := by
  induction bs with
  | nil => exact .nil
  | cons b bs ih =>
    have hlt : b.toNat < 256 := b.toNat_lt
    have hbyte : UInt8.ofNat (16 * (b.toNat / 16) + b.toNat % 16) = b := by
      rw [Nat.div_add_mod, UInt8.ofNat_toNat]
    have hcons := HexText.cons (hdigit (b.toNat / 16) (by omega))
      (hdigit (b.toNat % 16) (by omega)) ih
    rw [hbyte] at hcons
    exact hcons

theorem hexText_encodeHex (bs : List UInt8) : HexText (encodeHex bs) bs :=
  hexText_flatMap (by decide) bs

theorem hexText_hexEncodeUpper (bs : List UInt8) : HexText (hexEncodeUpper bs) bs :=
  @hexText_flatMap (fun n => n.digitChar.toUpper) (by decide) bs

theorem not_isWhitespace_of_digit {c : Char} (h : (Radix.digit? 16 c).isSome) :
    isWhitespace c = false := by
  have hlow : ∀ n < 128, (Radix.digit? 16 (Char.ofNat n)).isSome = true →
      isWhitespace (Char.ofNat n) = false := by decide
  have hdigit := hlow c.toNat (Radix.ascii_of_digit h)
  rw [Char.ofNat_toNat] at hdigit
  exact hdigit h

/-- Nothing is trimmed from a hexadecimal text. -/
theorem HexText.trim_eq {s : String} {b : List UInt8} (h : HexText s.toList b) : trim s = s :=
  trim_eq_self fun c hc => not_isWhitespace_of_digit (h.digits c hc)

/-- Both readers read a hexadecimal text as its bytes. -/
theorem HexText.read {text : List Char} {b : List UInt8} (h : HexText text b) :
    decodeHex text = some b ∧ hexDecodeLower (String.ofList text) = .ok b := by
  refine ⟨decodeHex_iff.mpr h.loose, hexDecodeLower_iff.mpr ?_⟩
  have htext : HexText (String.ofList text).toList b := by rwa [String.toList_ofList]
  rw [htext.trim_eq]
  exact htext

/-! ## One secret, read twice -/

/-- A loose text with a sign in it: to the daemon `+f` is the byte `0x0f`. -/
def SignedHex (s : String) : Prop := '+' ∈ s.toList ∧ ∃ b, LooseHex s.toList b

/-- A hexadecimal text with whitespace around it. -/
def PaddedHex (s : String) : Prop := trim s ≠ s ∧ ∃ b, HexText (trim s).toList b

/-- Both requests hand these bytes to the engine. -/
def HandsOver (s : String) (b : List UInt8) : Prop :=
  ∀ dev : TkaDevice, (lockInit dev s).1.handed = dev.handed ++ [b] ∧
    (lockDisable dev s).1.handed = dev.handed ++ [b]

/-- The readers agree on this secret: each reads it exactly when it is hexadecimal, a plan that was
    made with it sends it as it is, and what was planned with or derived from it is what the daemon
    presents. -/
structure SecretAgrees (s : String) : Prop where
  daemon : ∀ b, decodeHex s.toList = some b ↔ HexText s.toList b
  commandLine : ∀ b, hexDecodeLower s = .ok b ↔ HexText s.toList b
  planned : ∀ program args lockEnabled mint plan, args.suppliedSecret = some s →
    planLockInit program args lockEnabled mint = .ok plan →
      (∀ secretHex preamble notice, plan = .init secretHex preamble notice → secretHex = s) ∧
        ∃ b, hexDecodeLower s = .ok b ∧ HandsOver s b
  derived : ∀ kdf line, disablementKdfLine kdf s = .ok line →
    ∃ b out, kdf b = .ok out ∧ line = "disablement:" ++ String.ofList (encodeHex out) ∧
      HandsOver s b

theorem handsOver_of_decodeHex {s : String} {b : List UInt8} (h : decodeHex s.toList = some b) :
    HandsOver s b := by
  intro dev
  unfold lockInit lockDisable handSecret
  rw [h]
  exact ⟨rfl, rfl⟩

/-- A plan with a supplied secret was made because the command line could read it. -/
theorem planLockInit_supplied {program s : String} {args : LockInitArgs} {lockEnabled : Bool}
    {mint : Except ErrorChain (List UInt8)} {plan : LockInitPlan}
    (hs : args.suppliedSecret = some s)
    (h : planLockInit program args lockEnabled mint = .ok plan) :
    (∃ b, hexDecodeLower s = .ok b) ∧
      ∀ secretHex preamble notice, plan = .init secretHex preamble notice → secretHex = s := by
  unfold planLockInit at h
  split at h
  · cases h
  cases hargs : parseLockArgs true true 1 args.positionals with
  | error e =>
    rw [hargs] at h
    cases h
  | ok parsed =>
    rw [hargs] at h
    simp only [bind, Except.bind] at h
    split at h
    · cases h
    rw [hs] at h
    cases hread : hexDecodeLower s with
    | error e =>
      simp only [checkSuppliedSecret, hread] at h
      cases h
    | ok b =>
      refine ⟨⟨b, rfl⟩, ?_⟩
      rintro secretHex preamble notice rfl
      simp only [checkSuppliedSecret, hread] at h
      split at h
      · cases h
      · exact (LockInitPlan.init.inj (Except.ok.inj h)).1.symm

/-- **The daemon reads a secret as it should** exactly when the text is not one with signs. -/
theorem daemon_reads_iff {s : String} :
    (∀ b, decodeHex s.toList = some b ↔ HexText s.toList b) ↔ ¬ SignedHex s := by
  constructor
  · rintro h ⟨hsign, b, hloose⟩
    exact ((h b).mp (decodeHex_iff.mpr hloose)).no_sign hsign
  · intro h b
    rw [decodeHex_iff]
    refine ⟨fun hloose => ?_, HexText.loose⟩
    exact hloose.strict fun hsign => h ⟨hsign, b, hloose⟩

/-- **The command line reads a secret as it should** exactly when no whitespace is around it. -/
theorem commandLine_reads_iff {s : String} :
    (∀ b, hexDecodeLower s = .ok b ↔ HexText s.toList b) ↔ ¬ PaddedHex s := by
  constructor
  · rintro h ⟨htrim, b, hhex⟩
    exact htrim ((h b).mp (hexDecodeLower_iff.mpr hhex)).trim_eq
  · intro h b
    rw [hexDecodeLower_iff]
    constructor
    · intro hhex
      have htrim : trim s = s := by
        by_contra hne
        exact h ⟨hne, b, hhex⟩
      rwa [htrim] at hhex
    · intro hhex
      rwa [hhex.trim_eq]

/-- **The two readers of a disablement secret agree** with the specification, and with each other,
    exactly on the texts that are neither signed nor padded; and each reads back what either writer
    writes. -/
theorem secretAgrees_iff (s : String) :
    (SecretAgrees s ↔ ¬ SignedHex s ∧ ¬ PaddedHex s) ∧
      ∀ bs, decodeHex (encodeHex bs) = some bs ∧ decodeHex (hexEncodeUpper bs) = some bs ∧
        hexDecodeLower (String.ofList (encodeHex bs)) = .ok bs ∧
        hexDecodeLower (String.ofList (hexEncodeUpper bs)) = .ok bs := by
  refine ⟨⟨fun h => ?_, ?_⟩, fun bs => ?_⟩
  · exact ⟨daemon_reads_iff.mp h.daemon, commandLine_reads_iff.mp h.commandLine⟩
  · rintro ⟨hsigned, hpadded⟩
    have hdaemon := daemon_reads_iff.mpr hsigned
    have hcommand := commandLine_reads_iff.mpr hpadded
    -- what the command line reads, the daemon reads
    have hover : ∀ b, hexDecodeLower s = .ok b → HandsOver s b := fun b hread =>
      handsOver_of_decodeHex ((hdaemon b).mpr ((hcommand b).mp hread))
    refine ⟨hdaemon, hcommand, ?_, ?_⟩
    · intro program args lockEnabled mint plan hs hplan
      obtain ⟨⟨b, hread⟩, hsent⟩ := planLockInit_supplied hs hplan
      exact ⟨hsent, b, hread, hover b hread⟩
    · intro kdf line hline
      unfold disablementKdfLine at hline
      cases hread : hexDecodeLower s with
      | error e =>
        rw [hread] at hline
        cases hline
      | ok b =>
        rw [hread] at hline
        cases hkdf : kdf b with
        | error e =>
          simp only [hkdf] at hline
          cases hline
        | ok out =>
          simp only [hkdf] at hline
          exact ⟨b, out, hkdf, (Except.ok.inj hline).symm, hover b hread⟩
  · obtain ⟨hlower, hlower'⟩ := (hexText_encodeHex bs).read
    obtain ⟨hupper, hupper'⟩ := (hexText_hexEncodeUpper bs).read
    exact ⟨hlower, hupper, hlower', hupper'⟩

/-- To the daemon a sign and a digit are a byte; to the command line they are none.  Whitespace is
    the other way about: the command line plans with the padded secret, and the daemon refuses
    it. -/
theorem secret_read_apart :
    ¬ SecretAgrees "+f" ∧ ¬ SecretAgrees " ab " ∧ decodeHex "+f".toList = some [0x0f] ∧
      hexDecodeLower "+f" = .error ["invalid hex byte \"+f\""] ∧
      hexDecodeLower " ab " = .ok [0xab] ∧ decodeHex " ab ".toList = none := by
  have hsigned : decodeHex "+f".toList = some [0x0f] := by decide +kernel
  have hpadded : hexDecodeLower " ab " = .ok [0xab] := by decide +kernel
  refine ⟨fun h => ?_, fun h => ?_, hsigned, by decide +kernel, hpadded, by decide +kernel⟩
  · exact ((h.daemon _).mp hsigned).no_sign (by decide)
  · have hdigit := ((h.commandLine _).mp hpadded).digits ' ' (by decide)
    exact absurd hdigit (by decide)

/-- A secret that `lock init` mints is handed to the engine as it was minted. -/
theorem minted_handed {program secretHex preamble notice : String} {args : LockInitArgs}
    {lockEnabled : Bool} {mint : Except ErrorChain (List UInt8)}
    (hs : args.suppliedSecret = none)
    (h : planLockInit program args lockEnabled mint = .ok (.init secretHex preamble notice)) :
    ∃ secret, mint = .ok secret ∧ HandsOver secretHex secret := by
  unfold planLockInit at h
  split at h
  · cases h
  cases hargs : parseLockArgs true true 1 args.positionals with
  | error e =>
    rw [hargs] at h
    cases h
  | ok parsed =>
    rw [hargs] at h
    simp only [bind, Except.bind, hs, checkSuppliedSecret] at h
    split at h
    · cases h
    split at h
    · cases h
    cases mint with
    | error e => cases h
    | ok secret =>
      obtain ⟨rfl, -, -⟩ := LockInitPlan.init.inj (Except.ok.inj h)
      refine ⟨secret, rfl, handsOver_of_decodeHex ?_⟩
      rw [String.toList_ofList]
      exact (hexText_hexEncodeUpper secret).read.1

end Tailnetd
