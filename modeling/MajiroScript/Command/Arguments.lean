import MajiroScript.Command

/-! Reading the command line from the left.  Options stand on either side of the
command word; each side is checked on its own, and where both sides give an
option the later one counts. -/
namespace MajiroScript.Command

inductive Flag where
  | keystream
  | encoding
  | strictText
  | force
  | quiet
  | verbose
  | json
  | checkOnly
  | version
  deriving DecidableEq, Repr

namespace Flag

def ofLong? : String → Option Flag
  | "keystream" => some keystream
  | "encoding" => some encoding
  | "strict-text" => some strictText
  | "force" => some force
  | "quiet" => some quiet
  | "verbose" => some verbose
  | "json" => some json
  | "check-only" => some checkOnly
  | "version" => some version
  | _ => none

def ofShort? : Char → Option Flag
  | 'k' => some keystream
  | 'e' => some encoding
  | 'f' => some force
  | 'q' => some quiet
  | 'v' => some verbose
  | 'V' => some version
  | _ => none

def takesValue (flag : Flag) : Bool :=
  flag = keystream || flag = encoding

end Flag

inductive Verb where
  | disasm
  | rebuild
  | unpack
  | header
  | config
  deriving DecidableEq, Repr

def Verb.ofName? : String → Option Verb
  | "disasm" => some disasm
  | "rebuild" => some rebuild
  | "unpack" => some unpack
  | "header" => some header
  | "config" => some config
  | _ => none

inductive Stop where
  | usage
  | version
  deriving DecidableEq, Repr

structure Side where
  keystream : Option String := none
  encoding : Option Text.Encoding := none
  strictText : Bool := false
  force : Bool := false
  quiet : Bool := false
  verbose : Nat := 0
  json : Bool := false
  checkOnly : Bool := false
  deriving DecidableEq, Repr

namespace Side

def once (isSet : Bool) (side : Side) : Except Stop Side :=
  if isSet then .error .usage else .ok side

def giveSwitch (side : Side) : Flag → Except Stop Side
  | .strictText => once side.strictText { side with strictText := true }
  | .force => once side.force { side with force := true }
  | .quiet => once side.quiet { side with quiet := true }
  | .verbose => .ok { side with verbose := side.verbose + 1 }
  | .json => once side.json { side with json := true }
  | .checkOnly => once side.checkOnly { side with checkOnly := true }
  | .keystream | .encoding | .version => .error .usage

def giveValue (side : Side) (flag : Flag) (value : String) : Except Stop Side :=
  match flag with
  | .keystream =>
      if value.isEmpty then .error .usage
      else once side.keystream.isSome { side with keystream := some value }
  | .encoding =>
      match Text.Encoding.ofName value with
      | .error _ => .error .usage
      | .ok encoding => once side.encoding.isSome { side with encoding := some encoding }
  | _ => .error .usage

def isConsistent (side : Side) : Bool :=
  !(side.quiet && side.verbose > 0)

end Side

structure Reading where
  verb : Option Verb := none
  before : Side := {}
  side : Side := {}
  paths : List String := []
  pending : Option Flag := none
  onlyPaths : Bool := false
  deriving DecidableEq, Repr

namespace Reading

def give (reading : Reading) (flag : Flag) : Except Stop Reading :=
  match flag, reading.verb with
  | .version, none => .error .version
  | .checkOnly, some .rebuild
  | .strictText, _ | .force, _ | .quiet, _ | .verbose, _ | .json, _ => do
      let side ← reading.side.giveSwitch flag
      pure { reading with side }
  | _, _ => .error .usage

def giveValue (reading : Reading) (flag : Flag) (value : String) : Except Stop Reading := do
  let side ← reading.side.giveValue flag value
  pure { reading with side, pending := none }

/-- Short options in one argument.  One that takes a value takes the rest. -/
def cluster (reading : Reading) : List Char → Except Stop Reading
  | [] => .ok reading
  | char :: rest =>
      match Flag.ofShort? char with
      | none => .error .usage
      | some flag =>
          if flag.takesValue then
            match rest with
            | [] => .ok { reading with pending := some flag }
            | '=' :: value => reading.giveValue flag (String.ofList value)
            | value => reading.giveValue flag (String.ofList value)
          else do
            let reading ← reading.give flag
            reading.cluster rest

def long (reading : Reading) (name : String) (value : Option String) : Except Stop Reading :=
  match Flag.ofLong? name, value with
  | none, _ => .error .usage
  | some flag, none =>
      if flag.takesValue then .ok { reading with pending := some flag } else reading.give flag
  | some flag, some value =>
      if flag.takesValue then reading.giveValue flag value else .error .usage

def path (reading : Reading) (argument : String) : Except Stop Reading :=
  if argument.isEmpty then .error .usage
  else .ok { reading with paths := argument :: reading.paths }

def word (reading : Reading) (argument : String) : Except Stop Reading :=
  match reading.verb with
  | some _ => reading.path argument
  | none =>
      match Verb.ofName? argument with
      | none => .error .usage
      | some verb => .ok { reading with verb := some verb, before := reading.side, side := {} }

def splitValue (text : List Char) : String × Option String :=
  (String.ofList (text.takeWhile (· ≠ '=')),
    match text.dropWhile (· ≠ '=') with
    | [] => none
    | _ :: value => some (String.ofList value))

/-- Reads one argument.  A lone dash is a word. -/
def next (reading : Reading) (argument : String) : Except Stop Reading :=
  match reading.pending, reading.onlyPaths, argument.toList with
  | some _, _, '-' :: _ :: _ => .error .usage
  | some flag, _, _ => reading.giveValue flag argument
  | none, true, _ => reading.path argument
  | none, false, ['-', '-'] =>
      if reading.verb.isSome then .ok { reading with onlyPaths := true } else .error .usage
  | none, false, '-' :: '-' :: text =>
      let (name, value) := splitValue text
      reading.long name value
  | none, false, '-' :: first :: rest => reading.cluster (first :: rest)
  | none, false, _ => reading.word argument

def action (reading : Reading) : Except Stop Action :=
  match reading.verb, reading.side.checkOnly, reading.paths.reverse with
  | some .disasm, _, [input] => .ok (.disasm input none)
  | some .disasm, _, [input, output] => .ok (.disasm input (some output))
  | some .unpack, _, [input] => .ok (.unpack input none)
  | some .unpack, _, [input, output] => .ok (.unpack input (some output))
  | some .rebuild, true, [input] => .ok (.check input)
  | some .rebuild, false, [input] => .ok (.rebuild input none)
  | some .rebuild, false, [input, output] => .ok (.rebuild input (some output))
  | some .header, _, [input] => .ok (.header input)
  | some .config, _, [] => .ok .config
  | _, _, _ => .error .usage

def invocation (reading : Reading) : Except Stop Invocation := do
  let action ← reading.action
  let before := reading.before
  let side := reading.side
  if reading.pending.isSome ∨ !before.isConsistent ∨ !side.isConsistent then
    throw .usage
  let encoding := (side.encoding.or before.encoding).getD .shiftJis
  pure
    { action
      keystream := side.keystream.or before.keystream
      codec := { encoding, strictText := side.strictText || before.strictText }
      force := side.force || before.force
      quiet := side.quiet || before.quiet
      verbosity := if side.verbose > 0 then side.verbose else before.verbose
      json := side.json || before.json }

end Reading

def parse (arguments : List String) : Except Stop Invocation := do
  let reading ← arguments.foldlM Reading.next {}
  reading.invocation

end MajiroScript.Command
