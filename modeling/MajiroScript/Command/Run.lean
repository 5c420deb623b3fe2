import MajiroScript.Command.Arguments
import MajiroScript.Command.Report
import MajiroScript.Container.Events

/-! Commands as functions on a directory.  A failing command leaves the
directory as it was. -/
namespace MajiroScript.Command

inductive Note where
  | event (logged : Event)
  | line (text : String)
  deriving DecidableEq, Repr

def Note.print (filter : LogFilter) : Note → String
  | event logged => if filter.shows logged then logged.render else ""
  | line text => text ++ "\n"

structure Outcome where
  status : UInt32
  output : Bytes := []
  notes : List Note
  directory : Directory
  deriving DecidableEq, Repr

def failed (directory : Directory) (notes : List Note) (message : String) : Outcome :=
  { status := 1, notes := notes ++ [.line (say message)], directory }

structure Input where
  container : Container
  stats : InputStats
  key : Keystream
  deriving DecidableEq, Repr

def loadKey (invocation : Invocation) (directory : Directory) :
    List Note × Except String Keystream :=
  match invocation.keystream with
  | none => ([], .ok .builtin)
  | some path =>
      match directory.load path with
      | .error error => ([], .error s!"keystream: {error.message}")
      | .ok content =>
          let events := ⟨.debug, .keystream, s!"loading keystream from {path}"⟩ ::
            Keystream.parseEvents (Text.Utf8.decodeLossy content)
          (events.map .event, .ok (.ofFile content))

def loadEvents (codec : Codec) (key : Keystream) (directory : Directory) (path : String) :
    List Event :=
  match directory.load path with
  | .error _ => []
  | .ok image =>
      Container.openEvents codec key image ++
        match Container.ofImage codec key image with
        | .ok _ => []
        | .error error => [⟨.error, .files, s!"{path}: {error.message}"⟩]

def openInput (invocation : Invocation) (directory : Directory) (path : String) :
    List Note × Except String Input :=
  match loadKey invocation directory with
  | (notes, .error message) => (notes, .error message)
  | (notes, .ok key) =>
      let events := loadEvents invocation.codec key directory path
      (notes ++ events.map .event,
        match Container.loadWithStats invocation.codec key directory path with
        | .error error => .error s!"{path}: {error.message}"
        | .ok (container, stats) => .ok { container, stats, key })

def withInput (invocation : Invocation) (directory : Directory) (path : String)
    (command : List Note → Input → Outcome) : Outcome :=
  match openInput invocation directory path with
  | (notes, .error message) => failed directory notes message
  | (notes, .ok input) => command notes input

def done (invocation : Invocation) (directory : Directory) (notes : List Note) (name : String)
    (input : Input) (stats : Option OutputStats) (output : Bytes) : Outcome :=
  { status := 0
    output
    notes := notes ++ (report invocation name input.stats stats).map .line
    directory }

structure Exporter where
  name : String
  product : Input → Except EncodeError Bytes
  save : Input → Directory → String → Except SaveError (OutputStats × Directory)
  -- Whether bytes are counted on their way to the terminal too.
  counted : Bool := true

namespace Exporter

def disasm : Exporter where
  name := "disasm"
  product input := .ok input.container.listingBytes
  save input directory path := directory.savePieces path input.container.listingPieces
  counted := false

def rebuild : Exporter where
  name := "rebuild"
  product input := input.container.toImage input.key
  save input directory path := directory.save path (input.container.toImage input.key)

def unpack : Exporter where
  name := "unpack"
  product input := input.container.toPlainImage
  save input directory path := directory.save path input.container.toPlainImage

def toFile (exporter : Exporter) (invocation : Invocation) (directory : Directory)
    (notes : List Note) (input : Input) (path : String) : Outcome :=
  if directory.contains path && !invocation.force then
    failed directory notes s!"to overwrite output file specify -f: {path}"
  else
    match exporter.save input directory path with
    | .error error => failed directory notes s!"{path}: {error.message}"
    | .ok (stats, after) => done invocation after notes exporter.name input (some stats) []

def toTerminal (exporter : Exporter) (invocation : Invocation) (directory : Directory)
    (notes : List Note) (input : Input) : Outcome :=
  match exporter.product input with
  | .error error => failed directory notes s!"{exporter.name} error: {error.message}"
  | .ok bytes =>
      done invocation directory notes exporter.name input
        (if exporter.counted then some ⟨bytes.length, none⟩ else none) bytes

def run (exporter : Exporter) (invocation : Invocation) (directory : Directory) (path : String)
    (output : Option String) : Outcome :=
  withInput invocation directory path fun notes input =>
    match output with
    | some output => exporter.toFile invocation directory notes input output
    | none => exporter.toTerminal invocation directory notes input

end Exporter

def firstDifference? (left right : Bytes) : Option Nat :=
  (left.zip right).findIdx? fun (a, b) => a ≠ b

def checkRebuilt (invocation : Invocation) (directory : Directory) (path : String)
    (notes : List Note) (input : Input) : Outcome :=
  match input.container.toImage input.key, directory.read path with
  | .error error, _ => failed directory notes s!"rebuild error: {error.message}"
  | .ok _, .error error =>
      failed directory notes s!"rebuild error: {(SaveError.unwritable error).message}"
  | .ok rebuilt, .ok source =>
      match firstDifference? rebuilt source with
      | some place =>
          failed directory notes s!"rebuilt image differs at offset {Hex.number place}"
      | none =>
          if rebuilt.length ≠ source.length then
            failed directory notes
              s!"rebuilt image is {rebuilt.length} bytes, input is {source.length}"
          else
            let verdict :=
              if invocation.quiet then [] else [.line (say s!"{path}: round-trip ok")]
            done invocation directory (notes ++ verdict) "rebuild" input none []

def showHeader (invocation : Invocation) (directory : Directory) (notes : List Note)
    (input : Input) : Outcome :=
  if invocation.json then
    { status := 0
      notes := notes ++ [.line ((headerJson input.container input.stats).pretty 0)]
      directory }
  else
    { status := 0
      output := (unlines (headerLines input.container input.stats)).toUTF8.toList
      notes
      directory }

def run (invocation : Invocation) (directory : Directory) : Outcome :=
  match invocation.action with
  | .disasm path output => Exporter.disasm.run invocation directory path output
  | .rebuild path output => Exporter.rebuild.run invocation directory path output
  | .check path => withInput invocation directory path (checkRebuilt invocation directory path)
  | .unpack path output => Exporter.unpack.run invocation directory path output
  | .header path => withInput invocation directory path (showHeader invocation directory)
  | .config => { status := 0, notes := configLines.map .line, directory }

structure Transcript where
  status : UInt32
  stdout : Bytes
  stderr : String
  directory : Directory
  deriving DecidableEq, Repr

/-- Runs a command line.  `logging` is the log filter that the environment asks
for. -/
def runArguments (directory : Directory) (logging : Option String) (arguments : List String) :
    Transcript :=
  match parse arguments with
  | .error .usage =>
      { status := 2, stdout := [], stderr := unlines usageLines, directory }
  | .error .version =>
      { status := 0, stdout := (unlines [s!"{program} {version}"]).toUTF8.toList, stderr := "",
        directory }
  | .ok invocation =>
      let outcome := run invocation directory
      let (filter, complaints) := invocation.logFilter logging
      let warnings := complaints.map fun complaint => s!"warning: {complaint}, ignoring it"
      { status := outcome.status
        stdout := outcome.output
        stderr := unlines warnings ++ String.join (outcome.notes.map (Note.print filter))
        directory := outcome.directory }

end MajiroScript.Command
