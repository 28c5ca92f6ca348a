import HackFrontEnd.Text.Decimal
import HackFrontEnd.Text.Quoted

/-!
# Encodings

The encodings that source files may be in, what can go wrong when bytes are decoded, and what a run
has to know about encodings.

A text is made of characters, whereas some codecs yield code points that are no characters: halves
of surrogate pairs. Where a text holds halves, characters that it does not hold otherwise stand for
them.
-/

namespace HackFrontEnd

namespace Text

/-! ## Clipped text -/

/-- Stands for a character that is cut in two. -/
def replacement : Char := '\uFFFD'

/-- The characters in the first bytes of a text. A character that the limit cuts in two is
replaced. -/
def clipped (limit : Nat) : List Char → List Char
  | [] => []
  | c :: cs =>
    if c.utf8Size ≤ limit then c :: clipped (limit - c.utf8Size) cs
    else if limit = 0 then []
    else [replacement]

end Text

/-! ## Encodings and their faults -/

/-- Which byte of a unit comes first: the least or the most significant one. -/
inductive ByteOrder
  | little
  | big
deriving DecidableEq, Repr

/-- Encodings of text. Without a byte order, a mark at the start of the file settles it. -/
inductive Encoding
  | utf8
  /-- UTF-8 after an optional mark at the start, which is no part of the text. -/
  | markedUtf8
  | ascii
  | latin1
  | windows1252
  | utf16 (order : Option ByteOrder)
  | utf32 (order : Option ByteOrder)
  /-- Latin-1 in which a code point may also be escaped by its number. -/
  | rawEscapes
deriving DecidableEq, Repr

/-- A stretch of bytes that cannot be decoded, as positions from the start, and why. -/
structure Malformed where
  start : Nat
  stop : Nat
  reason : String
deriving DecidableEq, Repr

/-- Bytes, the stretch of them that cannot be decoded, and the codec that refused it. -/
structure DecodeFault where
  codec : String
  bytes : List UInt8
  malformed : Malformed
deriving DecidableEq, Repr

/-- The fault in words. A single byte is shown by its value, a longer stretch by its ends. -/
def DecodeFault.message (f : DecodeFault) : String :=
  let ⟨start, stop, reason⟩ := f.malformed
  let stretch :=
    match f.bytes[start]?, stop == start + 1 with
    | some b, true =>
      "byte 0x" ++ String.ofList (Text.hexadecimal 2 b.toNat) ++ " in position " ++
        Text.Decimal.ofNat start
    | _, _ =>
      "bytes in position " ++ Text.Decimal.ofNat start ++ "-" ++ Text.Decimal.ofInt (stop - 1)
  "'" ++ f.codec ++ "' codec can't decode " ++ stretch ++ ": " ++ reason

/-- The most bytes of a name that the message on an encoding of no text shows. -/
def shownNameLimit : Nat := 400

/-- Why bytes have no text in the encoding that a name stands for. -/
inductive DecodeError
  | undecodable (f : DecodeFault)
  /-- The mark that should settle the byte order is missing. -/
  | missingMark (family : String)
  /-- Nothing goes by the name. -/
  | unknownName (name : String)
  /-- What goes by the name turns bytes into bytes and not into a text. -/
  | notText (name : String)
  /-- Whatever else keeps a codec from decoding, in its own words. -/
  | refused (message : String)
deriving DecidableEq, Repr

/-- The error in words. -/
def DecodeError.message : DecodeError → String
  | undecodable f => f.message
  | missingMark family => family ++ " stream does not start with BOM"
  | unknownName name => "unknown encoding: " ++ name
  | notText name =>
    "'" ++ String.ofList (Text.clipped shownNameLimit name.toList) ++
      "' is not a text encoding; use codecs.open() to handle arbitrary codecs"
  | refused message => message

/-- What a run can learn about encodings: which names are known, and the text that bytes stand for
under a name. A run takes both as they are. -/
structure Codecs where
  /-- Whether a codec goes by the name. Looking a name up may fail outright, and then says why. -/
  isKnown : String → Except String Bool
  decode : String → List UInt8 → Except DecodeError (List Char)

/-- The name that source files are decoded under where no settings say otherwise. -/
def Encoding.defaultName : String := "utf-8"

end HackFrontEnd
