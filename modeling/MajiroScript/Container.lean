import MajiroScript.Header
import MajiroScript.Instruction.Listing
import MajiroScript.Instruction.Reader
import MajiroScript.Instruction.Script
import MajiroScript.Instruction.Writer
import MajiroScript.Obfuscation

/-! Containers: script images taken apart into header bytes, script and trailer,
and put together again. -/
namespace MajiroScript

inductive OpenError where
  | formatMismatch (reason : HeaderError)
  | malformed (reason : HeaderError)
  | undecodable (bodyOffset : Nat) (reason : DecodeError)
  deriving DecidableEq, Repr

namespace OpenError

/-- An image with another signature is of another format; with the right one,
a bad header is damage. -/
def ofHeader : HeaderError → OpenError
  | reason@(.signatureMismatch _) => formatMismatch reason
  | reason@(.truncated _ _) => malformed reason

def message : OpenError → String
  | formatMismatch reason => s!"not a MajiroObjX1.000 container: {reason.message}"
  | malformed reason => s!"malformed container: {reason.message}"
  | undecodable bodyOffset reason =>
      s!"body starting at {Hex.number bodyOffset}: {reason.message}"

end OpenError

structure Opening where
  header : Header
  plain : Bytes
  run : Run
  deriving DecidableEq, Repr

def Opening.ofImage (codec : Codec) (key : Keystream) (image : Bytes) :
    Except HeaderError Opening := do
  let header ← Header.parse image
  let plain := Obfuscation.toggle header.length key image
  pure { header, plain, run := codec.run (plain.drop header.length) }

structure Container where
  header : Header
  headerBytes : Bytes
  script : Script
  trailer : Bytes
  codec : Codec
  deriving DecidableEq, Repr

namespace Container

def ofImage (codec : Codec) (key : Keystream) (image : Bytes) : Except OpenError Container := do
  let opening ← (Opening.ofImage codec key image).mapError OpenError.ofHeader
  let bodyOffset := opening.header.length
  let instructions ← opening.run.result.mapError (OpenError.undecodable bodyOffset)
  pure
    { header := opening.header
      headerBytes := opening.plain.take bodyOffset
      script := ⟨instructions⟩
      trailer := opening.run.last.remainder
      codec }

def headerLength (container : Container) : Nat :=
  container.headerBytes.length

def listing (container : Container) : String :=
  MajiroScript.listing container.script.instructions

def body (container : Container) (script : Script) : Except EncodeError Bytes := do
  let bytes ← container.codec.encodeAll script.instructions
  pure (bytes ++ container.trailer)

def plainWith (container : Container) (script : Script) : Except EncodeError Bytes := do
  let body ← container.body script
  pure (container.headerBytes ++ body)

def toPlainImage (container : Container) : Except EncodeError Bytes :=
  container.plainWith container.script

/-- A hidden image with this header and another script.  The entry table is
kept as it is, so offsets in it are only right as long as no entry moves. -/
def assemble (container : Container) (key : Keystream) (script : Script) :
    Except EncodeError Bytes := do
  let plain ← container.plainWith script
  pure (Obfuscation.toggle container.headerLength key plain)

def toImage (container : Container) (key : Keystream) : Except EncodeError Bytes :=
  container.assemble key container.script

end Container

end MajiroScript
