import HackFrontEnd.Cursor.Basic
import HackFrontEnd.Encoding.Basic
import HackFrontEnd.File.Access
import HackFrontEnd.Settings

/-!
# Loading source files

From a file to a cursor over its instructions: the bytes are decoded, line ends are made uniform,
and the text is cleaned under the tidy form of the path. A fault of the file is found before one of
the encoding's name, and that before one of the bytes; only a null character in the encoding's name
is found before all of them.
-/

namespace HackFrontEnd.File

/-- Why a source file cannot be loaded. -/
inductive LoadError
  | file (f : Fault)
  | decode (e : DecodeError)
  /-- The name of the encoding holds the null character. -/
  | nullInEncodingName
deriving DecidableEq, Repr

/-- The error in words. -/
def LoadError.message : LoadError → String
  | file f => f.message
  | decode e => e.message
  | nullInEncodingName => "embedded null character"

/-- The text of the file at a path in the encoding of a name, with uniform line ends. -/
def readText (codecs : Codecs) (look : View) (encoding path : String) :
    Except LoadError String := do
  if Text.holdsNull encoding then throw .nullInEncodingName
  let bytes ← (look.read path).mapError .file
  let text ← (codecs.decode encoding bytes).mapError .decode
  pure (String.ofList (Source.unifyLineEnds text))

/-- A cursor over the instructions of the file at a path. -/
def load (codecs : Codecs) (look : View) (settings : Settings) (path : String) :
    Except LoadError Cursor := do
  let path := Path.tidy path
  let text ← readText codecs look settings.sourceEncoding path
  pure (.ofSource settings.commentMarker path text)

end HackFrontEnd.File
