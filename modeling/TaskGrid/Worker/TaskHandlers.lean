/-
  TaskGrid.Worker.TaskHandlers — worker/task_handlers and the dict HANDLERS.

  A handler is a function of the payload that returns the result or the text
  of its ValueError.  `parseInt` is Python's `int(s)` on a string of fewer
  characters than its limit on digits; a payload PostTask accepts is far below
  it.  `str.upper` and SHA-256 are parameters of the dict.
-/
import TaskGrid.Worker.Worker
import Mathlib.Algebra.Ring.Int.Defs

namespace TaskGrid

/-! ## §1. Python's `str.strip` and `int`. -/

/-- `c.isspace()` -/
def isSpace (c : Char) : Bool :=
  c.toNat ∈ [0x9, 0xa, 0xb, 0xc, 0xd, 0x1c, 0x1d, 0x1e, 0x1f, 0x20, 0x85, 0xa0, 0x1680, 0x2000,
    0x2001, 0x2002, 0x2003, 0x2004, 0x2005, 0x2006, 0x2007, 0x2008, 0x2009, 0x200a, 0x2028,
    0x2029, 0x202f, 0x205f, 0x3000]

/-- The white space `int` ignores around the literal: unlike `strip` it refuses the four
ASCII separators. -/
def isIntSpace (c : Char) : Bool := isSpace c && !(c.toNat ∈ [0x1c, 0x1d, 0x1e, 0x1f])

/-- Remove what satisfies `p` from both ends. -/
def stripWhile (p : Char → Bool) (cs : List Char) : List Char :=
  ((cs.dropWhile p).reverse.dropWhile p).reverse

/-- `s.strip()` -/
def strip (cs : List Char) : List Char := stripWhile isSpace cs

/-- The zeros of the decimal digits (Unicode 14, category Nd).  Each is followed by its digits
one to nine. -/
def zeroDigits : List Nat :=
  [0x30, 0x660, 0x6f0, 0x7c0, 0x966, 0x9e6, 0xa66, 0xae6, 0xb66, 0xbe6, 0xc66, 0xce6, 0xd66,
    0xde6, 0xe50, 0xed0, 0xf20, 0x1040, 0x1090, 0x17e0, 0x1810, 0x1946, 0x19d0, 0x1a80, 0x1a90,
    0x1b50, 0x1bb0, 0x1c40, 0x1c50, 0xa620, 0xa8d0, 0xa900, 0xa9d0, 0xa9f0, 0xaa50, 0xabf0,
    0xff10, 0x104a0, 0x10d30, 0x11066, 0x110f0, 0x11136, 0x111d0, 0x112f0, 0x11450, 0x114d0,
    0x11650, 0x116c0, 0x11730, 0x118e0, 0x11950, 0x11c50, 0x11d50, 0x11da0, 0x16a60, 0x16ac0,
    0x16b50, 0x1d7ce, 0x1d7d8, 0x1d7e2, 0x1d7ec, 0x1d7f6, 0x1e140, 0x1e2f0, 0x1e950, 0x1fbf0]

/-- The value of a decimal digit. -/
def decimal? (c : Char) : Option Nat :=
  (zeroDigits.find? fun z => z ≤ c.toNat && c.toNat < z + 10).map fun z => c.toNat - z

/-- The digits behind a digit, with single underscores between them. -/
def moreDigits (value : Nat) : List Char → Option Nat
  | [] => some value
  | '_' :: c :: cs =>
      match decimal? c with
      | some digit => moreDigits (10 * value + digit) cs
      | none => none
  | c :: cs =>
      match decimal? c with
      | some digit => moreDigits (10 * value + digit) cs
      | none => none

/-- A decimal numeral without a sign. -/
def parseDigits : List Char → Option Nat
  | [] => none
  | c :: cs => (decimal? c).bind fun digit => moreDigits digit cs

/-- A decimal numeral with an optional sign. -/
def parseSigned : List Char → Option Int
  | '-' :: cs => (parseDigits cs).map fun n => -(n : Int)
  | '+' :: cs => (parseDigits cs).map fun n => (n : Int)
  | cs => (parseDigits cs).map fun n => (n : Int)

/-- `int(s)`; none is its ValueError. -/
def parseInt (cs : List Char) : Option Int := parseSigned (stripWhile isIntSpace cs)

/-! ## §2. The handlers. -/

/-- `reverse.handle` -/
def reverseHandle (payload : String) : Except String String :=
  .ok (String.ofList payload.toList.reverse)

/-- `sum_handler.handle` -/
def sumHandle (payload : String) : Except String String :=
  match (payload.toList.splitOn ',').mapM fun number => parseInt (strip number) with
  | none => .error ("Ungültige Zahlenliste: '" ++ payload ++ "'")
  | some numbers => .ok (str numbers.sum)

/-- `MAX_WAIT_SECONDS` -/
def maxWaitSeconds : Int := 60

/-- `wait_handler.handle`, without the time it takes. -/
def waitHandle (payload : String) : Except String String :=
  match parseInt payload.toList with
  | none => .error ("Ungültige Wartezeit: '" ++ payload ++ "'")
  | some seconds =>
      if seconds < 0 then .error "Wartezeit darf nicht negativ sein"
      else if seconds > maxWaitSeconds then
        .error ("Maximale Wartezeit überschritten (max " ++ str maxWaitSeconds ++ "s)")
      else .ok ("waited " ++ str seconds ++ "s")

/-- `HANDLERS` -/
def taskHandlers (upper sha256 : String → String) : Handlers := fun taskType =>
  if taskType = "reverse" then some reverseHandle
  else if taskType = "upper" then some fun payload => .ok (upper payload)
  else if taskType = "sum" then some sumHandle
  else if taskType = "hash" then some fun payload => .ok (sha256 payload)
  else if taskType = "wait" then some waitHandle
  else none

example : sumHandle " 1, -2 ,+3_0" = .ok "29" := by decide

example : sumHandle "1,,2" = .error "Ungültige Zahlenliste: '1,,2'" := by decide

end TaskGrid
