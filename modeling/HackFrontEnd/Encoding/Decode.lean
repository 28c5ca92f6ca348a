import HackFrontEnd.Encoding.Basic

/-!
# Decoding

The text that bytes stand for in an encoding, and finding encodings by name.

Every decoder reads its bytes once from left to right and knows at which position it stands, so that
a fault can be told by the stretch of bytes it is in. Bytes in an encoding whose byte order a mark
should settle are still read when the mark is missing, the least significant byte first, so that a
fault in them is reported before the missing mark is.

Encodings are found by name in any spelling: letters of either case, and punctuation and spaces
between the parts of a name all alike. A name may also stand for a transformation of bytes that
yields no text; such a name is known, but no file can be read with it.
-/

namespace HackFrontEnd

namespace Encoding

/-! ## Halves of surrogate pairs -/

/-- Whether a number is that of half a surrogate pair, which is no character. -/
def isHalf (n : Nat) : Bool := 0xD800 ≤ n && n < 0xE000

/-- The character that stands for a half in a decoded text, from the last plane of those for private
use. -/
def standIn (n : Nat) : Char := Char.ofNat (0x100000 + n)

/-- The code point that a character stands for in a text that was decoded. Only one of the encodings
yields halves; in all others a character stands for itself. -/
def codePoint (e : Encoding) (c : Char) : Nat :=
  if e = rawEscapes && isHalf (c.toNat - 0x100000) then c.toNat - 0x100000 else c.toNat

/-- Why characters that stand for these code points cannot be encoded, in the words of the codec, if
some of them stand for halves. -/
def halvesFault? (codePoint : Char → Nat) (cs : List Char) : Option String :=
  let codes := cs.map codePoint
  let start := (codes.takeWhile (!isHalf ·)).length
  match codes.dropWhile (!isHalf ·) with
  | [] => none
  | half :: rest =>
    let more := (rest.takeWhile isHalf).length
    let stretch :=
      if more = 0 then
        "character '\\u" ++ String.ofList (Text.hexadecimal 4 half) ++ "' in position " ++
          Text.Decimal.ofNat start
      else
        "characters in position " ++ Text.Decimal.ofNat start ++ "-" ++
          Text.Decimal.ofNat (start + more)
    some ("'utf-8' codec can't encode " ++ stretch ++ ": surrogates not allowed")

/-! ## Encodings of one byte a character -/

namespace SingleByte

/-- The characters of bytes from a position on. -/
def decodeFrom (table : UInt8 → Option Char) (reason : String) (position : Nat) :
    List UInt8 → Except Malformed (List Char)
  | [] => .ok []
  | b :: bs =>
    match table b with
    | some c => do return c :: (← decodeFrom table reason (position + 1) bs)
    | none => .error ⟨position, position + 1, reason⟩

/-- ASCII: the first half of the bytes. -/
def ascii (b : UInt8) : Option Char :=
  if b < 0x80 then some (Char.ofNat b.toNat) else none

/-- Latin-1: every byte is the code point of its character. -/
def latin1 (b : UInt8) : Option Char :=
  some (Char.ofNat b.toNat)

/-- The characters of bytes 80 to 9F in Windows-1252, five of which have none. -/
def windows1252Upper : List (Option Char) :=
  [some '€', none, some '‚', some 'ƒ', some '„', some '…', some '†', some '‡',
    some 'ˆ', some '‰', some 'Š', some '‹', some 'Œ', none, some 'Ž', none,
    none, some '‘', some '’', some '“', some '”', some '•', some '–', some '—',
    some '˜', some '™', some 'š', some '›', some 'œ', none, some 'ž', some 'Ÿ']

/-- Windows-1252: Latin-1 but for the bytes 80 to 9F. -/
def windows1252 (b : UInt8) : Option Char :=
  if 0x80 ≤ b && b < 0xA0 then (windows1252Upper[b.toNat - 0x80]?).join
  else latin1 b

end SingleByte

/-! ## UTF-8 -/

namespace Utf8

/-- Where the decoder stands. Inside a character it knows which bytes may follow: the ranges leave
out overlong forms, surrogates and numbers beyond the last character. -/
inductive State
  /-- Between two characters. -/
  | between
  /-- Inside a character that began at `start`, of which `missing + 1` bytes are to come. The next
  one lies between `low` and `high`, and `value` is what the bytes so far amount to. -/
  | inside (start missing : Nat) (low high : UInt8) (value : Nat)
deriving DecidableEq, Repr

/-- The state after the first byte of a character of several bytes. -/
def lead? (position : Nat) (b : UInt8) : Option State :=
  if 0xC2 ≤ b && b ≤ 0xDF then some (.inside position 0 0x80 0xBF (b.toNat - 0xC0))
  -- below A0 a shorter form exists
  else if b == 0xE0 then some (.inside position 1 0xA0 0xBF 0)
  -- above 9F lie the surrogates
  else if b == 0xED then some (.inside position 1 0x80 0x9F 0xD)
  else if 0xE1 ≤ b && b ≤ 0xEF then some (.inside position 1 0x80 0xBF (b.toNat - 0xE0))
  -- below 90 a shorter form exists
  else if b == 0xF0 then some (.inside position 2 0x90 0xBF 0)
  -- above 8F no code point is left
  else if b == 0xF4 then some (.inside position 2 0x80 0x8F 4)
  else if 0xF1 ≤ b && b ≤ 0xF3 then some (.inside position 2 0x80 0xBF (b.toNat - 0xF0))
  else none

/-- The characters of bytes from a position on. -/
def decodeFrom (position : Nat) : State → List UInt8 → Except Malformed (List Char)
  | .between, [] => .ok []
  | .inside start .., [] => .error ⟨start, position, "unexpected end of data"⟩
  | .between, b :: bs =>
    if b < 0x80 then do return Char.ofNat b.toNat :: (← decodeFrom (position + 1) .between bs)
    else match lead? position b with
      | some state => decodeFrom (position + 1) state bs
      | none => .error ⟨position, position + 1, "invalid start byte"⟩
  | .inside start missing low high value, b :: bs =>
    if low ≤ b && b ≤ high then
      let value := 64 * value + (b.toNat - 0x80)
      match missing with
      | 0 => do return Char.ofNat value :: (← decodeFrom (position + 1) .between bs)
      | missing + 1 => decodeFrom (position + 1) (.inside start missing 0x80 0xBF value) bs
    else .error ⟨start, position, "invalid continuation byte"⟩

/-- The characters of bytes. -/
def decode (bytes : List UInt8) : Except Malformed (List Char) :=
  decodeFrom 0 .between bytes

/-- The byte order mark in UTF-8. -/
def mark : List UInt8 := [0xEF, 0xBB, 0xBF]

/-- The bytes without a mark at their start. The first part of a mark alone also counts as one. -/
def withoutMark (bytes : List UInt8) : List UInt8 :=
  if bytes.isPrefixOf mark then []
  else if mark.isPrefixOf bytes then bytes.drop mark.length
  else bytes

end Utf8

/-! ## UTF-16 and UTF-32 -/

namespace Utf16

/-- The unit that two bytes form. -/
def unit (order : ByteOrder) (a b : UInt8) : Nat :=
  match order with
  | .little => a.toNat + 256 * b.toNat
  | .big => 256 * a.toNat + b.toNat

/-- Whether a unit is the first one of a pair. -/
def isHigh (u : Nat) : Bool := 0xD800 ≤ u && u < 0xDC00

/-- Whether a unit is the second one of a pair. -/
def isLow (u : Nat) : Bool := 0xDC00 ≤ u && u < 0xE000

/-- The code point of a pair. -/
def pair (high low : Nat) : Nat :=
  0x10000 + 0x400 * (high - 0xD800) + (low - 0xDC00)

/-- The characters of bytes from a position on, after a high surrogate that may wait. -/
def decodeFrom (order : ByteOrder) (position : Nat) :
    Option Nat → List UInt8 → Except Malformed (List Char)
  | none, [] => .ok []
  | none, [_] => .error ⟨position, position + 1, "truncated data"⟩
  | none, a :: b :: bs =>
    let u := unit order a b
    if isHigh u then decodeFrom order (position + 2) (some u) bs
    else if isLow u then .error ⟨position, position + 2, "illegal encoding"⟩
    else do return Char.ofNat u :: (← decodeFrom order (position + 2) none bs)
  | some _, [] => .error ⟨position - 2, position, "unexpected end of data"⟩
  | some _, [_] => .error ⟨position - 2, position + 1, "unexpected end of data"⟩
  | some high, a :: b :: bs =>
    let u := unit order a b
    if isLow u then
      do return Char.ofNat (pair high u) :: (← decodeFrom order (position + 2) none bs)
    else .error ⟨position - 2, position, "illegal UTF-16 surrogate"⟩

/-- The byte order that a mark at the start stands for. -/
def order? : List UInt8 → Option ByteOrder
  | 0xFF :: 0xFE :: _ => some .little
  | 0xFE :: 0xFF :: _ => some .big
  | _ => none

end Utf16

namespace Utf32

/-- The number that four bytes form. -/
def unit (order : ByteOrder) (a b c d : UInt8) : Nat :=
  match order with
  | .little => a.toNat + 256 * (b.toNat + 256 * (c.toNat + 256 * d.toNat))
  | .big => 256 * (256 * (256 * a.toNat + b.toNat) + c.toNat) + d.toNat

/-- The characters of bytes from a position on. -/
def decodeFrom (order : ByteOrder) (position : Nat) : List UInt8 → Except Malformed (List Char)
  | [] => .ok []
  | a :: b :: c :: d :: bs =>
    let u := unit order a b c d
    if isHalf u then
      .error ⟨position, position + 4, "code point in surrogate code point range(0xd800, 0xe000)"⟩
    else if 0x110000 ≤ u then
      .error ⟨position, position + 4, "code point not in range(0x110000)"⟩
    else do return Char.ofNat u :: (← decodeFrom order (position + 4) bs)
  | bs => .error ⟨position, position + bs.length, "truncated data"⟩

/-- The byte order that a mark at the start stands for. -/
def order? : List UInt8 → Option ByteOrder
  | 0xFF :: 0xFE :: 0 :: 0 :: _ => some .little
  | 0 :: 0 :: 0xFE :: 0xFF :: _ => some .big
  | _ => none

end Utf32

/-! ## Escapes -/

namespace RawEscapes

/-- Where the decoder stands. -/
inductive State
  | outside
  /-- Right behind a backslash. -/
  | backslash
  /-- Inside an escape that began at `start` and is at fault for this reason if it breaks off.
  Another `missing + 1` digits are to come, and `value` is what those so far amount to. -/
  | inside (start missing value : Nat) (reason : String)
deriving DecidableEq, Repr

/-- The number that a hexadecimal digit stands for. -/
def digit? (b : UInt8) : Option Nat :=
  if 0x30 ≤ b && b ≤ 0x39 then some (b.toNat - 0x30)
  else if 0x61 ≤ b && b ≤ 0x66 then some (b.toNat - 0x61 + 10)
  else if 0x41 ≤ b && b ≤ 0x46 then some (b.toNat - 0x41 + 10)
  else none

/-- The character for a code point, which may be half of a pair. -/
def character (n : Nat) : Char :=
  if isHalf n then standIn n else Char.ofNat n

/-- The characters of bytes from a position on. What follows a backslash is an escape only if it
starts with a letter for one. -/
def decodeFrom (position : Nat) : State → List UInt8 → Except Malformed (List Char)
  | .outside, [] => .ok []
  | .backslash, [] => .ok ['\\']
  | .inside start _ _ reason, [] => .error ⟨start, position, reason⟩
  | .outside, b :: bs =>
    if b == 0x5C then decodeFrom (position + 1) .backslash bs
    else do return Char.ofNat b.toNat :: (← decodeFrom (position + 1) .outside bs)
  | .backslash, b :: bs =>
    if b == 0x75 then
      decodeFrom (position + 1) (.inside (position - 1) 3 0 "truncated \\uXXXX escape") bs
    else if b == 0x55 then
      decodeFrom (position + 1) (.inside (position - 1) 7 0 "truncated \\UXXXXXXXX escape") bs
    else do return '\\' :: Char.ofNat b.toNat :: (← decodeFrom (position + 1) .outside bs)
  | .inside start missing value reason, b :: bs =>
    match digit? b, missing with
    | none, _ => .error ⟨start, position, reason⟩
    | some d, missing + 1 =>
      decodeFrom (position + 1) (.inside start missing (16 * value + d) reason) bs
    | some d, 0 =>
      let value := 16 * value + d
      if 0x110000 ≤ value then .error ⟨start, position + 1, "\\Uxxxxxxxx out of range"⟩
      else do return character value :: (← decodeFrom (position + 1) .outside bs)

end RawEscapes

/-! ## Encodings as a whole -/

/-- A decoder's result with the codec and the bytes of a fault. -/
def named (codec : String) (bytes : List UInt8) (r : Except Malformed (List Char)) :
    Except DecodeError (List Char) :=
  r.mapError fun m => .undecodable ⟨codec, bytes, m⟩

/-- The end of a codec's name that tells the byte order. -/
def orderName : ByteOrder → String
  | .little => "le"
  | .big => "be"

/-- An encoding in units of several bytes: how a mark tells their order and how they are read. -/
structure UnitCodec where
  name : String
  family : String
  size : Nat
  order? : List UInt8 → Option ByteOrder
  decodeFrom : ByteOrder → Nat → List UInt8 → Except Malformed (List Char)

/-- UTF-16 in units of two bytes. -/
def utf16Codec : UnitCodec :=
  ⟨"utf-16-", "UTF-16", 2, Utf16.order?, fun order position => Utf16.decodeFrom order position none⟩

/-- UTF-32 in units of four bytes. -/
def utf32Codec : UnitCodec :=
  ⟨"utf-32-", "UTF-32", 4, Utf32.order?, Utf32.decodeFrom⟩

namespace UnitCodec

/-- The text of bytes in a known order, from a position on. -/
def decodeAs (u : UnitCodec) (order : ByteOrder) (position : Nat) (bytes : List UInt8) :
    Except DecodeError (List Char) :=
  named (u.name ++ orderName order) bytes (u.decodeFrom order position (bytes.drop position))

/-- The text of bytes whose order a mark settles. A file without a single unit needs no mark. -/
def decodeMarked (u : UnitCodec) (bytes : List UInt8) : Except DecodeError (List Char) :=
  match u.order? bytes with
  | some order => u.decodeAs order u.size bytes
  | none => do
    let text ← u.decodeAs .little 0 bytes
    if bytes.isEmpty then pure text else throw (.missingMark u.family)

/-- The text of bytes, in a given order or in that of their mark. -/
def decode (u : UnitCodec) (order : Option ByteOrder) (bytes : List UInt8) :
    Except DecodeError (List Char) :=
  match order with
  | some order => u.decodeAs order 0 bytes
  | none => u.decodeMarked bytes

end UnitCodec

/-- The text of bytes in an encoding. -/
def decode (e : Encoding) (bytes : List UInt8) : Except DecodeError (List Char) :=
  match e with
  | utf8 => named "utf-8" bytes (Utf8.decode bytes)
  | markedUtf8 =>
    let bytes := Utf8.withoutMark bytes
    named "utf-8" bytes (Utf8.decode bytes)
  | ascii =>
    named "ascii" bytes
      (SingleByte.decodeFrom SingleByte.ascii "ordinal not in range(128)" 0 bytes)
  | latin1 => named "latin-1" bytes (SingleByte.decodeFrom SingleByte.latin1 "" 0 bytes)
  | windows1252 =>
    named "charmap" bytes
      (SingleByte.decodeFrom SingleByte.windows1252 "character maps to <undefined>" 0 bytes)
  | utf16 order => utf16Codec.decode order bytes
  | utf32 order => utf32Codec.decode order bytes
  | rawEscapes => named "rawunicodeescape" bytes (RawEscapes.decodeFrom 0 .outside bytes)

/-! ## Names -/

/-- What a known name stands for. -/
inductive Codec
  | text (e : Encoding)
  /-- A transformation of bytes. -/
  | transformation
deriving DecidableEq, Repr

/-- Whether a character is a part of a name itself: a letter or digit of ASCII, or a point. -/
def isNameChar (c : Char) : Bool :=
  c.isAlphanum || c == '.'

/-- The name in small letters, its parts joined by single underscores. -/
def normalName (name : String) : String :=
  let parts := (name.toList.splitOnP (!isNameChar ·)).filter (!·.isEmpty)
  String.ofList (['_'].intercalate (parts.map (·.map Char.toLower)))

/-- The names by which codecs are found, the principal name of each first. These are the codecs that
are decoded here, and the transformations of bytes. Left out are all other encodings of one byte a
character, those for East Asian languages, UTF-7, the escapes that go by names, those for names of
hosts, and those of a system: here their names count as unknown. -/
def codecNames : List (List String × Codec) :=
  [(["utf_8", "cp65001", "u8", "utf", "utf8", "utf8_ucs2", "utf8_ucs4"], .text .utf8),
    (["utf_8_sig"], .text .markedUtf8),
    (["ascii", "646", "ansi_x3.4_1968", "ansi_x3.4_1986", "ansi_x3_4_1968", "cp367", "csascii",
      "ibm367", "iso646_us", "iso_646.irv_1991", "iso_ir_6", "us", "us_ascii"], .text .ascii),
    (["latin_1", "8859", "cp819", "csisolatin1", "ibm819", "iso8859", "iso8859_1", "iso_8859_1",
      "iso_8859_1_1987", "iso_ir_100", "l1", "latin", "latin1"], .text .latin1),
    (["cp1252", "1252", "windows_1252"], .text .windows1252),
    (["utf_16", "u16", "utf16"], .text (.utf16 none)),
    (["utf_16_le", "unicodelittleunmarked", "utf_16le"], .text (.utf16 (some .little))),
    (["utf_16_be", "unicodebigunmarked", "utf_16be"], .text (.utf16 (some .big))),
    (["utf_32", "u32", "utf32"], .text (.utf32 none)),
    (["utf_32_le", "utf_32le"], .text (.utf32 (some .little))),
    (["utf_32_be", "utf_32be"], .text (.utf32 (some .big))),
    (["raw_unicode_escape"], .text .rawEscapes),
    (["rot_13", "rot13"], .transformation),
    (["hex_codec", "hex"], .transformation),
    (["base64_codec", "base64", "base_64"], .transformation),
    (["bz2_codec", "bz2"], .transformation),
    (["zlib_codec", "zip", "zlib"], .transformation),
    (["quopri_codec", "quopri", "quoted_printable", "quotedprintable"], .transformation),
    (["uu_codec", "uu"], .transformation)]

/-- The codec that a name stands for. In all names but the principal ones, an underscore may also
be spelled as a point. -/
def find? (name : String) : Option Codec :=
  let name := normalName name
  let undotted := String.ofList (name.toList.map fun c => if c = '.' then '_' else c)
  let named (entry : List String × Codec) : Bool :=
    entry.1.contains name || entry.1.tail.contains undotted
  (codecNames.find? named).map Prod.snd

/-- Whether a name stands for one of these codecs. -/
def isKnown (name : String) : Bool :=
  (find? name).isSome

/-- The name for the encoding of the system, which is UTF-8. It has no other spelling. -/
def systemName : String := "locale"

/-- The encoding of text that a name stands for. -/
def ofName (name : String) : Except DecodeError Encoding :=
  if name = systemName then .ok .utf8
  else match find? name with
    | some (.text e) => .ok e
    | some .transformation => .error (.notText name)
    | none => .error (.unknownName name)

/-- The code point that a character stands for in what is decoded under a name. -/
def codePointUnder (name : String) : Char → Nat :=
  match ofName name with
  | .ok e => e.codePoint
  | .error _ => Char.toNat

end Encoding

/-- The codecs of this library. -/
def Codecs.builtin : Codecs where
  isKnown name := .ok (Encoding.isKnown name)
  decode name bytes := do
    let e ← Encoding.ofName name
    e.decode bytes

end HackFrontEnd
