/-
**UTF-8.**

The eight-bit encoding form of Unicode, written and read.  Reading splits the bytes into well-formed
characters and maximal ill-formed parts: a part is the longest start of a character that the bytes
at that place have, or a single byte where no character can start.

Main definitions:

* `ForumMarkup.Text.utf8Encode` — the bytes of a list of characters;
* `ForumMarkup.Text.utf8Split` — the characters of a list of bytes, with `none` for each ill-formed
  part;
* `ForumMarkup.Text.utf8Decode?` — the characters of well-formed bytes;
* `ForumMarkup.Text.utf8DecodeLenient` — the same with the replacement character for each ill-formed
  part.
-/

set_option autoImplicit false

namespace ForumMarkup.Text

/-- The character that stands for bytes that encode none. -/
def replacementChar : Char := '\uFFFD'

/-! ### Writing -/

/-- The bytes of one character. -/
def utf8Bytes (c : Char) : List UInt8 :=
  let n := c.toNat
  if n < 0x80 then [UInt8.ofNat n]
  else if n < 0x800 then [UInt8.ofNat (0xC0 + n / 64), UInt8.ofNat (0x80 + n % 64)]
  else if n < 0x10000 then
    [UInt8.ofNat (0xE0 + n / 4096), UInt8.ofNat (0x80 + n / 64 % 64), UInt8.ofNat (0x80 + n % 64)]
  else
    [UInt8.ofNat (0xF0 + n / 262144), UInt8.ofNat (0x80 + n / 4096 % 64),
      UInt8.ofNat (0x80 + n / 64 % 64), UInt8.ofNat (0x80 + n % 64)]

/-- The bytes of a list of characters. -/
def utf8Encode (cs : List Char) : List UInt8 :=
  cs.flatMap utf8Bytes

/-! ### Reading -/

/-- A byte inside a range of byte values. -/
def within (low high : Nat) (b : UInt8) : Bool :=
  low ≤ b.toNat && b.toNat ≤ high

/-- A byte that continues a character. -/
def isTail (b : UInt8) : Bool := within 0x80 0xBF b

/-- The payload of a byte that continues a character. -/
def tailBits (b : UInt8) : Nat := b.toNat % 64

/-- The second bytes that may follow a first byte of a character of three or four bytes. -/
def isSecond (first second : UInt8) : Bool :=
  match first.toNat with
  | 0xE0 => within 0xA0 0xBF second
  | 0xED => within 0x80 0x9F second
  | 0xF0 => within 0x90 0xBF second
  | 0xF4 => within 0x80 0x8F second
  | _ => isTail second

/-- The characters of a list of bytes, with `none` for each maximal ill-formed part. -/
def utf8Split : List UInt8 → List (Option Char)
  | [] => []
  | a :: rest =>
    if a.toNat < 0x80 then some (Char.ofNat a.toNat) :: utf8Split rest
    else if within 0xC2 0xDF a then
      match rest with
      | [] => [none]
      | b :: rest₁ =>
        if isTail b then
          some (Char.ofNat (a.toNat % 32 * 64 + tailBits b)) :: utf8Split rest₁
        else none :: utf8Split (b :: rest₁)
    else if within 0xE0 0xEF a then
      match rest with
      | [] => [none]
      | b :: rest₁ =>
        if isSecond a b then
          match rest₁ with
          | [] => [none]
          | c :: rest₂ =>
            if isTail c then
              some (Char.ofNat ((a.toNat % 16 * 64 + tailBits b) * 64 + tailBits c))
                :: utf8Split rest₂
            else none :: utf8Split (c :: rest₂)
        else none :: utf8Split (b :: rest₁)
    else if within 0xF0 0xF4 a then
      match rest with
      | [] => [none]
      | b :: rest₁ =>
        if isSecond a b then
          match rest₁ with
          | [] => [none]
          | c :: rest₂ =>
            if isTail c then
              match rest₂ with
              | [] => [none]
              | d :: rest₃ =>
                if isTail d then
                  some (Char.ofNat
                    (((a.toNat % 8 * 64 + tailBits b) * 64 + tailBits c) * 64 + tailBits d))
                    :: utf8Split rest₃
                else none :: utf8Split (d :: rest₃)
            else none :: utf8Split (c :: rest₂)
        else none :: utf8Split (b :: rest₁)
    else none :: utf8Split rest

/-- The characters of well-formed bytes, and nothing for ill-formed ones. -/
def utf8Decode? (bytes : List UInt8) : Option (List Char) :=
  (utf8Split bytes).mapM id

/-- The characters of a list of bytes, with the replacement character for each ill-formed part. -/
def utf8DecodeLenient (bytes : List UInt8) : List Char :=
  (utf8Split bytes).map fun c => c.getD replacementChar

end ForumMarkup.Text
