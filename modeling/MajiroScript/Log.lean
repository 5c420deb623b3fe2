import MajiroScript.Text.Plain

/-! Log events as data.  Operations tell what they would log; what is shown is
decided at the end by a filter. -/
namespace MajiroScript

inductive Level where
  | error
  | warn
  | info
  | debug
  | trace
  deriving DecidableEq, Repr

namespace Level

def rank : Level → Nat
  | error => 1
  | warn => 2
  | info => 3
  | debug => 4
  | trace => 5

def tag : Level → String
  | error => "[ERROR]"
  | warn => "[WARN ]"
  | info => "[INFO ]"
  | debug => "[DEBUG]"
  | trace => "[TRACE]"

end Level

inductive Source where
  | files
  | container
  | reader
  | keystream
  deriving DecidableEq, Repr

def Source.name : Source → String
  | files => "mjo::io"
  | container => "mjo::container"
  | reader => "mjo::mjo::decoder"
  | keystream => "mjo::mjo::keystream"

structure Event where
  level : Level
  source : Source
  message : String
  deriving DecidableEq, Repr

namespace Event

def indented (message : String) : String :=
  String.join (message.toList.map fun char =>
    if char = '\n' then "\n    " else String.singleton char)

def render (event : Event) : String :=
  Text.plain (event.level.tag ++ " " ++ indented event.message ++ "\n")

end Event

end MajiroScript
