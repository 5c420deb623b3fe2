import MajiroScript.Bytes.Sha256
import MajiroScript.Container
import MajiroScript.Directory
import MajiroScript.Keystream.Resource

/-! Keys and containers as files of a directory. -/
namespace MajiroScript

structure ReadError where
  path : String
  cause : FileError
  deriving DecidableEq, Repr

def ReadError.message (error : ReadError) : String :=
  s!"cannot read {error.path}: {error.cause.message}"

inductive LoadError where
  | unreadable (reason : ReadError)
  | invalid (reason : OpenError)
  deriving DecidableEq, Repr

def LoadError.message : LoadError → String
  | unreadable reason => reason.message
  | invalid reason => reason.message

inductive SaveError where
  | unwritable (cause : FileError)
  | unencodable (reason : EncodeError)
  deriving DecidableEq, Repr

def SaveError.message : SaveError → String
  | unwritable cause => s!"I/O error: {cause.message}"
  | unencodable reason => reason.message

structure InputStats where
  size : Nat
  headerLength : Nat
  instructions : Nat
  sha256 : Bytes
  deriving DecidableEq, Repr

/-- Facts about bytes that were written.  Only files get a digest. -/
structure OutputStats where
  size : Nat
  sha256 : Option Bytes
  deriving DecidableEq, Repr

namespace Directory

def load (directory : Directory) (path : String) : Except ReadError Bytes :=
  (directory.read path).mapError (ReadError.mk path)

def save (directory : Directory) (path : String) (content : Except EncodeError Bytes) :
    Except SaveError (OutputStats × Directory) := do
  let bytes ← content.mapError SaveError.unencodable
  let after ← (directory.write path bytes).mapError SaveError.unwritable
  pure (⟨bytes.length, some (sha256 bytes)⟩, after)

def savePieces (directory : Directory) (path : String) (pieces : List Bytes) :
    Except SaveError (OutputStats × Directory) := do
  let after ← (directory.write path pieces.flatten).mapError SaveError.unwritable
  let size := pieces.foldl (fun count piece => count + piece.length) 0
  pure (⟨size, some (sha256 pieces.flatten)⟩, after)

end Directory

def Keystream.load (directory : Directory) (path : String) : Except ReadError Keystream :=
  (directory.load path).map Keystream.ofFile

namespace Container

def load (codec : Codec) (key : Keystream) (directory : Directory) (path : String) :
    Except LoadError Container := do
  let image ← (directory.load path).mapError LoadError.unreadable
  (ofImage codec key image).mapError LoadError.invalid

def loadWithStats (codec : Codec) (key : Keystream) (directory : Directory) (path : String) :
    Except LoadError (Container × InputStats) := do
  let image ← (directory.load path).mapError LoadError.unreadable
  let container ← (ofImage codec key image).mapError LoadError.invalid
  pure (container,
    { size := image.length
      headerLength := container.headerLength
      instructions := container.script.size
      sha256 := sha256 image })

def listingBytes (container : Container) : Bytes :=
  container.listing.toUTF8.toList

/-- The lines of the listing as they are written to files, one after another. -/
def listingPieces (container : Container) : List Bytes :=
  container.script.instructions.map fun instruction => (instruction.line ++ "\n").toUTF8.toList

end Container

end MajiroScript
