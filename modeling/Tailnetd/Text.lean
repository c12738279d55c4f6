/-
  The string operations of the standard library that the daemon's checks and messages use.

  They are written over the list of characters of a string.  Where the source works on UTF-8
  bytes it only ever looks at ASCII ones, so the two readings agree.
-/
import Tailnetd.Lib.Delimited

namespace Tailnetd

/-- One character as `{:?}` prints it inside a string: quotes, backslashes and the usual control
    characters by their escapes, any other control character by its code point. -/
def escapeDebug (c : Char) : List Char :=
  if c = '"' then ['\\', '"']
  else if c = '\\' then ['\\', '\\']
  else if c = '\n' then ['\\', 'n']
  else if c = '\r' then ['\\', 'r']
  else if c = '\t' then ['\\', 't']
  else if c.toNat = 0 then ['\\', '0']
  else if c.toNat < 32 ∨ (127 ≤ c.toNat ∧ c.toNat < 160) then
    "\\u\x7b".toList ++ Nat.toDigits 16 c.toNat ++ "\x7d".toList
  else [c]

/-- `quoted`: a string as `{:?}` prints it. -/
def quoted (s : String) : String :=
  String.ofList ('"' :: s.toList.flatMap escapeDebug ++ ['"'])

/-- `char::is_whitespace`. -/
def isWhitespace (c : Char) : Bool :=
  let n := c.toNat
  (9 ≤ n && n ≤ 13) || n == 32 || n == 0x85 || n == 0xA0 || n == 0x1680 ||
  (0x2000 ≤ n && n ≤ 0x200A) || n == 0x2028 || n == 0x2029 || n == 0x202F || n == 0x205F ||
  n == 0x3000

/-- `str::trim`. -/
def trim (s : String) : String :=
  String.ofList ((s.toList.dropWhile isWhitespace).reverse.dropWhile isWhitespace).reverse

/-- `str::trim_end`, on characters. -/
def trimEnd (text : List Char) : List Char := (text.reverse.dropWhile isWhitespace).reverse

/-- `split_whitespace().next()`, empty when there is no word, and what stands behind the word. -/
def nextWord (text : List Char) : List Char × List Char :=
  ((text.dropWhile isWhitespace).takeWhile fun c => !isWhitespace c,
    (text.dropWhile isWhitespace).dropWhile fun c => !isWhitespace c)

/-- `str::split` at a character: the pieces between the separators, empty ones included. -/
def pieces (sep : Char) (text : List Char) : List (List Char) :=
  (Delimited.split sep text).1 ++ [(Delimited.split sep text).2]

/-- A line without the carriage return that stands before its newline. -/
def stripCarriageReturn (line : List Char) : List Char :=
  if line.getLast? = some '\r' then line.dropLast else line

/-- `str::lines`: what follows the last newline is a line when there is something. -/
def textLines (text : String) : List (List Char) :=
  (Delimited.split '\n' text.toList).1.map stripCarriageReturn ++
    if (Delimited.split '\n' text.toList).2 = [] then []
    else [(Delimited.split '\n' text.toList).2]

/-- `str::strip_prefix`. -/
def stripPrefix (pre s : String) : Option String :=
  if pre.toList.isPrefixOf s.toList then some (String.ofList (s.toList.drop pre.length)) else none

/-- `str::starts_with`. -/
def startsWith (pre s : String) : Bool := pre.toList.isPrefixOf s.toList

/-- `str::ends_with`. -/
def endsWith (suffix s : String) : Bool := suffix.toList.isSuffixOf s.toList

/-- `strip_suffix('.')`, or the string itself when no dot ends it. -/
def dropRootDot (s : String) : String :=
  if s.toList.getLast? = some '.' then String.ofList s.toList.dropLast else s

/-- An ASCII letter in lower case; every other character unchanged. -/
def toAsciiLower (c : Char) : Char :=
  if 'A' ≤ c ∧ c ≤ 'Z' then Char.ofNat (c.toNat + 32) else c

/-- `eq_ignore_ascii_case`, on characters. -/
def eqIgnoreAsciiCase (a b : List Char) : Bool := a.map toAsciiLower == b.map toAsciiLower

/-- `u8::is_ascii_alphabetic`. -/
def isAsciiAlphabetic (c : Char) : Bool := ('a' ≤ c && c ≤ 'z') || ('A' ≤ c && c ≤ 'Z')

/-- `u8::is_ascii_alphanumeric`. -/
def isAsciiAlphanumeric (c : Char) : Bool := isAsciiAlphabetic c || ('0' ≤ c && c ≤ '9')

/-- `Vec::join`. -/
def joinLines (lines : List String) : String := "\n".intercalate lines

example : quoted "a\"b\n" = "\"a\\\"b\\n\"" := by decide
example : trim "\t key \n" = "key" := by decide

end Tailnetd
