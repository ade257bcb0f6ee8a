import ApiDescription.Text.Hexadecimal

/-!
# Percent-encoded text

In a URI reference `%` and two hexadecimal digits stand for a byte.  Bytes that follow each other
are read as UTF-8; the longest start of a character that cannot be finished gives one U+FFFD.  A
`%` that two digits do not follow stands for itself.  Encoding goes the other way: every byte of a
character of a given class is written with its two digits.
-/

namespace ApiDescription.Percent

/-- A character of several bytes of which some have been read. -/
structure Open where
  /-- The bits read so far. -/
  bits : Nat
  /-- The bytes missing behind the next one. -/
  more : Nat
  /-- The least value the next byte may have. -/
  least : Nat
  /-- The greatest value the next byte may have. -/
  greatest : Nat
deriving Repr

/-- The character for bytes that make none. -/
def replacement : Char := Char.ofNat 0xFFFD

/-- A character of several bytes after its first, by the ranges of well-formed UTF-8. -/
def firstOf (byte : Nat) : Option Open :=
  if 0xC2 ≤ byte && byte ≤ 0xDF then some ⟨byte - 0xC0, 0, 0x80, 0xBF⟩
  else if byte = 0xE0 then some ⟨0, 1, 0xA0, 0xBF⟩
  else if byte = 0xED then some ⟨0xD, 1, 0x80, 0x9F⟩
  else if 0xE1 ≤ byte && byte ≤ 0xEF then some ⟨byte - 0xE0, 1, 0x80, 0xBF⟩
  else if byte = 0xF0 then some ⟨0, 2, 0x90, 0xBF⟩
  else if 0xF1 ≤ byte && byte ≤ 0xF3 then some ⟨byte - 0xF0, 2, 0x80, 0xBF⟩
  else if byte = 0xF4 then some ⟨4, 2, 0x80, 0x8F⟩
  else none

/-- What a byte gives between characters. -/
def startWith (byte : Nat) : List Char × Option Open :=
  if byte < 0x80 then ([Char.ofNat byte], none)
  else
    match firstOf byte with
    | some o => ([], some o)
    | none => ([replacement], none)

/-- What a byte gives: the characters it ends, and the character it leaves open. -/
def feed (pending : Option Open) (byte : Nat) : List Char × Option Open :=
  match pending with
  | none => startWith byte
  | some o =>
    if o.least ≤ byte && byte ≤ o.greatest then
      let bits := o.bits * 64 + (byte - 0x80)
      if o.more = 0 then ([Char.ofNat bits], none)
      else ([], some ⟨bits, o.more - 1, 0x80, 0xBF⟩)
    else
      let (ended, opened) := startWith byte
      (replacement :: ended, opened)

/-- What an open character gives when no byte follows. -/
def flush : Option Open → List Char
  | none => []
  | some _ => [replacement]

/-- The characters of a list of bytes. -/
def ofBytes (pending : Option Open) : List Nat → List Char
  | [] => flush pending
  | byte :: rest =>
    let (ended, opened) := feed pending byte
    ended ++ ofBytes opened rest

/-- Decodes a text behind bytes that left a character open. -/
def decodeFrom (pending : Option Open) : List Char → List Char
  | '%' :: a :: b :: rest =>
    match Text.hexValue? a, Text.hexValue? b with
    | some high, some low =>
      let (ended, opened) := feed pending (high * 16 + low)
      ended ++ decodeFrom opened rest
    | _, _ => flush pending ++ '%' :: decodeFrom none (a :: b :: rest)
  | c :: rest => flush pending ++ c :: decodeFrom none rest
  | [] => flush pending

/-- Decodes a text. -/
def decode (text : List Char) : List Char := decodeFrom none text

/-- A text without `%` stands for itself. -/
theorem decode_of_not_mem {text : List Char} (h : '%' ∉ text) : decode text = text := by
  rw [decode]
  induction text with
  | nil => simp [decodeFrom, flush]
  | cons c rest ih =>
    simp only [List.mem_cons, not_or] at h
    rw [decodeFrom]
    · simp [flush, ih h.2]
    · intro a b r hc
      exact absurd hc.symm h.1

/-- The digits of a byte. -/
def byteText (byte : Nat) : List Char :=
  let digit (n : Nat) :=
    if n < 10 then Char.ofNat (n + '0'.toNat) else Char.ofNat (n - 10 + 'A'.toNat)
  ['%', digit (byte / 16), digit (byte % 16)]

/-- The bytes of a character. -/
def bytesOf (c : Char) : List Nat :=
  (String.singleton c).toUTF8.toList.map UInt8.toNat

/-- Encodes the characters of a class, and every character outside ASCII. -/
def encode (inSet : Char → Bool) (text : List Char) : List Char :=
  text.flatMap fun c =>
    if 0x7F < c.toNat || inSet c then (bytesOf c).flatMap byteText else [c]

end ApiDescription.Percent
