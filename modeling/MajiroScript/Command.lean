import MajiroScript.Codec
import MajiroScript.Log.Filter

/-! What the command line can ask for. -/
namespace MajiroScript.Command

/-- Paths are as the user wrote them.  Without an output, bytes go to the
terminal. -/
inductive Action where
  | disasm (input : String) (output : Option String)
  | rebuild (input : String) (output : Option String)
  | check (input : String)
  | unpack (input : String) (output : Option String)
  | header (input : String)
  | config
  deriving DecidableEq, Repr

def Action.paths : Action → List String
  | disasm input output | rebuild input output | unpack input output => input :: output.toList
  | check input | header input => [input]
  | config => []

structure Invocation where
  action : Action
  keystream : Option String := none
  codec : Codec := {}
  force : Bool := false
  quiet : Bool := false
  verbosity : Nat := 0
  json : Bool := false
  deriving DecidableEq, Repr

def Invocation.paths (invocation : Invocation) : List String :=
  invocation.keystream.toList ++ invocation.action.paths

def Invocation.logLevel (invocation : Invocation) : Level :=
  if invocation.quiet then .error
  else
    match invocation.verbosity with
    | 0 => .warn
    | 1 => .info
    | _ => .debug

/-- The log filter of a run, with complaints about the one that the environment
asks for. -/
def Invocation.logFilter (invocation : Invocation) (logging : Option String) :
    LogFilter × List String :=
  match logging with
  | some text => LogFilter.parse text
  | none => (.ofLevel invocation.logLevel, [])

end MajiroScript.Command
