/-!
# Quoted texts of a document

Between quotes a backslash introduces an escape: a single letter or mark, or
`u` with four hexadecimal digits.  A character outside the first plane takes
two such escapes, a high surrogate and a low one; a surrogate without its
partner is refused.  `quote` writes an escape only where the format demands
one: for the quote, the backslash and the control characters.
-/

namespace PalletTypes.Json

def hexDigit? (char : Char) : Option Nat :=
  if '0' ≤ char ∧ char ≤ '9' then some (char.toNat - '0'.toNat)
  else if 'a' ≤ char ∧ char ≤ 'f' then some (char.toNat - 'a'.toNat + 10)
  else if 'A' ≤ char ∧ char ≤ 'F' then some (char.toNat - 'A'.toNat + 10)
  else none

/-- The sixteen-bit unit that four hexadecimal digits spell. -/
def unit? (first second third fourth : Char) : Option Nat := do
  let first ← hexDigit? first
  let second ← hexDigit? second
  let third ← hexDigit? third
  let fourth ← hexDigit? fourth
  pure (((first * 16 + second) * 16 + third) * 16 + fourth)

def isHighSurrogate (unit : Nat) : Bool := 0xD800 ≤ unit && unit < 0xDC00

def isLowSurrogate (unit : Nat) : Bool := 0xDC00 ≤ unit && unit < 0xE000

def pairChar (high low : Nat) : Char :=
  Char.ofNat (0x10000 + (high - 0xD800) * 0x400 + (low - 0xDC00))

/-- The character of an escape of one letter or mark. -/
def shortEscape? : Char → Option Char
  | '"' => some '"'
  | '\\' => some '\\'
  | '/' => some '/'
  | 'b' => some '\x08'
  | 'f' => some '\x0c'
  | 'n' => some '\n'
  | 'r' => some '\r'
  | 't' => some '\t'
  | _ => none

/-- Resolve the escapes in what stands between quotes; `done` holds the
characters found so far, last first. -/
def unquoteOnto (done : List Char) : List Char → Option (List Char)
  | [] => some done.reverse
  | '\\' :: 'u' :: a :: b :: c :: d :: rest =>
      match unit? a b c d with
      | none => none
      | some unit =>
          if isHighSurrogate unit then
            match rest with
            | '\\' :: 'u' :: e :: f :: g :: h :: rest =>
                match unit? e f g h with
                | none => none
                | some low =>
                    if isLowSurrogate low then
                      unquoteOnto (pairChar unit low :: done) rest
                    else none
            | _ => none
          else if isLowSurrogate unit then none
          else unquoteOnto (Char.ofNat unit :: done) rest
  | '\\' :: mark :: rest =>
      match shortEscape? mark with
      | none => none
      | some char => unquoteOnto (char :: done) rest
  | char :: rest =>
      if char = '\\' then none else unquoteOnto (char :: done) rest

/-- The characters that a quoted text stands for. -/
def unquote? (raw : List Char) : Option (List Char) := unquoteOnto [] raw

def hexChar (digit : Nat) : Char := Nat.digitChar digit

def quoteChar (char : Char) : List Char :=
  if char = '"' then ['\\', '"']
  else if char = '\\' then ['\\', '\\']
  else if char = '\x08' then ['\\', 'b']
  else if char = '\t' then ['\\', 't']
  else if char = '\n' then ['\\', 'n']
  else if char = '\x0c' then ['\\', 'f']
  else if char = '\r' then ['\\', 'r']
  else if char.toNat < 0x20 then
    ['\\', 'u', '0', '0', hexChar (char.toNat / 16), hexChar (char.toNat % 16)]
  else [char]

end PalletTypes.Json
