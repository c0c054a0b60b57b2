/-!
# Quoted text

A text between double quotes, where a backslash introduces what cannot stand there itself.

Writing escapes the quote, the backslash and the control characters below the space, five of
which have a letter of their own. Reading also takes an escaped slash and any character by
its number of four hexadecimal digits, or by two such numbers for a character beyond these.
Neither of those two numbers may stand alone, and a control character may not stand
unescaped.

Main statement: `decode_encode` (what is written is read back).
-/

namespace Parley

namespace Quoted

/-- A hexadecimal digit, in lower case. -/
def hexDigit (n : Nat) : Char :=
  if n < 10 then Char.ofNat (48 + n) else Char.ofNat (87 + n)

/-- The characters that are written for one. -/
def encodeChar (c : Char) : List Char :=
  if c = '\"' then ['\\', '\"']
  else if c = '\\' then ['\\', '\\']
  else if 32 ≤ c.toNat then [c]
  else
    match c.toNat with
    | 8 => ['\\', 'b']
    | 9 => ['\\', 't']
    | 10 => ['\\', 'n']
    | 12 => ['\\', 'f']
    | 13 => ['\\', 'r']
    | n => ['\\', 'u', '0', '0', hexDigit (n / 16), hexDigit (n % 16)]

/-- A text in quotes. -/
def encode (cs : List Char) : List Char :=
  '\"' :: (cs.flatMap encodeChar ++ ['\"'])

/-- The value of a hexadecimal digit of either case. -/
def hexValue? (c : Char) : Option Nat :=
  if c.isDigit then some (c.toNat - 48)
  else if 97 ≤ c.toNat ∧ c.toNat ≤ 102 then some (c.toNat - 87)
  else if 65 ≤ c.toNat ∧ c.toNat ≤ 70 then some (c.toNat - 55)
  else none

/-- The number of four hexadecimal digits. -/
def hexNumber? (a b c d : Char) : Option Nat := do
  let a ← hexValue? a
  let b ← hexValue? b
  let c ← hexValue? c
  let d ← hexValue? d
  return ((a * 16 + b) * 16 + c) * 16 + d

/-- The first of the two numbers that make up one character. -/
def isLeading (n : Nat) : Bool :=
  0xD800 ≤ n && n < 0xDC00

/-- The second of the two numbers that make up one character. -/
def isTrailing (n : Nat) : Bool :=
  0xDC00 ≤ n && n < 0xE000

/-- The character that two numbers make up. -/
def joined (leading trailing : Nat) : Char :=
  Char.ofNat (0x10000 + (leading - 0xD800) * 0x400 + (trailing - 0xDC00))

/-- The character that an escape of one letter stands for. -/
def unescape? : Char → Option Char
  | '\"' => some '\"'
  | '\\' => some '\\'
  | '/' => some '/'
  | 'b' => some '\x08'
  | 'f' => some '\x0c'
  | 'n' => some '\n'
  | 'r' => some '\r'
  | 't' => some '\t'
  | _ => none

/-- The text up to the closing quote, and what follows the quote; the opening one has been
taken. -/
def decode : List Char → Option (List Char × List Char)
  | [] => none
  | '\"' :: rest => some ([], rest)
  | '\\' :: 'u' :: a :: b :: c :: d :: rest =>
    match hexNumber? a b c d with
    | none => none
    | some n =>
      if isTrailing n then none
      else if isLeading n then
        match rest with
        | '\\' :: 'u' :: e :: f :: g :: h :: rest =>
          match hexNumber? e f g h with
          | none => none
          | some m =>
            if isTrailing m then (decode rest).map fun p => (joined n m :: p.1, p.2) else none
        | _ => none
      else (decode rest).map fun p => (Char.ofNat n :: p.1, p.2)
  | '\\' :: c :: rest =>
    match unescape? c with
    | none => none
    | some c => (decode rest).map fun p => (c :: p.1, p.2)
  | c :: rest =>
    if c.toNat < 32 ∨ c = '\\' then none else (decode rest).map fun p => (c :: p.1, p.2)

/-! ### Reading what was written -/

/-- A control character is written with digits of its number. -/
theorem hexNumber?_hexDigit :
    ∀ n < 32, hexNumber? '0' '0' (hexDigit (n / 16)) (hexDigit (n % 16)) = some n := by
  decide

/-- What is written for a character is read back as this character. -/
theorem decode_encodeChar (c : Char) (rest : List Char) :
    decode (encodeChar c ++ rest) = (decode rest).map fun p => (c :: p.1, p.2) := by
  unfold encodeChar
  split
  · next h => subst h; simp [decode, unescape?]
  · split
    · next h => subst h; simp [decode, unescape?]
    · split
      · next hq hb hc =>
        have hc : ¬c.toNat < 32 := by omega
        simp [decode, hb, hc]
      · next hq hb hc =>
        have hc : c.toNat < 32 := by omega
        have hofNat : Char.ofNat c.toNat = c := Char.ofNat_toNat c
        split
        · next h => rw [h] at hofNat; subst hofNat; simp [decode, unescape?]
        · next h => rw [h] at hofNat; subst hofNat; simp [decode, unescape?]
        · next h => rw [h] at hofNat; subst hofNat; simp [decode, unescape?]
        · next h => rw [h] at hofNat; subst hofNat; simp [decode, unescape?]
        · next h => rw [h] at hofNat; subst hofNat; simp [decode, unescape?]
        · have hl : isLeading c.toNat = false := by simp [isLeading]; omega
          have ht : isTrailing c.toNat = false := by simp [isTrailing]; omega
          simp [decode, hexNumber?_hexDigit _ hc, hl, ht, hofNat]

/-- **What is written is read back**, and what follows it is left. -/
theorem decode_encode (cs rest : List Char) :
    decode ((encode cs).tail ++ rest) = some (cs, rest) := by
  simp only [encode, List.tail_cons]
  induction cs with
  | nil => simp [decode]
  | cons c cs ih =>
    simp only [List.flatMap_cons, List.append_assoc, decode_encodeChar] at ih ⊢
    rw [ih]
    rfl

end Quoted

end Parley
