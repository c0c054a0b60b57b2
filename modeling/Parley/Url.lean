/-!
# Percent-encoding

A text that is to stand in an address is written byte by byte, in UTF-8. Letters and digits
of ASCII and nine marks stand for themselves; any other byte is written as a percent sign
and two hexadecimal digits in upper case.
-/

namespace Parley

namespace Url

/-- The marks that stand for themselves. -/
def marks : List Char := ['-', '_', '.', '!', '~', '*', '\'', '(', ')']

/-- The characters that stand for themselves. -/
def isPlain (c : Char) : Bool :=
  c.isAlphanum || marks.contains c

/-- A hexadecimal digit in upper case. -/
def hexDigit (n : Nat) : Char :=
  if n < 10 then Char.ofNat (48 + n) else Char.ofNat (55 + n)

/-- The characters that are written for a byte. -/
def encodeByte (b : UInt8) : List Char :=
  let c := Char.ofNat b.toNat
  if b < 128 && isPlain c then [c]
  else ['%', hexDigit (b.toNat / 16), hexDigit (b.toNat % 16)]

/-- A text percent-encoded. -/
def encode (text : String) : String :=
  String.ofList (text.toUTF8.toList.flatMap encodeByte)

end Url

end Parley
