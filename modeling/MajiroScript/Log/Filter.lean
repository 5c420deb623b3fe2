import MajiroScript.Log
import MajiroScript.Pieces
import MajiroScript.Text.Blank
import MajiroScript.Text.Pattern.Compile

/-! Which events are shown.  A filter is written as directives between commas,
such as `warn,mjo::io=debug`, and after a slash a pattern that has to occur in the
message.  A directive is a level, the beginning of a source, or both. -/
namespace MajiroScript

abbrev Threshold := Option Level

namespace Threshold

def ofName? (name : List Char) : Option Threshold :=
  match (String.ofList name).toLower with
  | "off" => some none
  | "error" => some (some .error)
  | "warn" => some (some .warn)
  | "info" => some (some .info)
  | "debug" => some (some .debug)
  | "trace" => some (some .trace)
  | _ => none

def admits (threshold : Threshold) (level : Level) : Bool :=
  match threshold with
  | none => false
  | some most => level.rank ≤ most.rank

end Threshold

structure Directive where
  -- What the names of the sources begin with that it is about. Without it, it is
  -- about all sources.
  scope : Option (List Char)
  threshold : Threshold
  deriving DecidableEq, Repr

namespace Directive

def covers (directive : Directive) (source : Source) : Bool :=
  match directive.scope with
  | none => true
  | some start => start.isPrefixOf source.name.toList

/-- Bytes of the scope: of two directives about a source the longer one counts. -/
def length (directive : Directive) : Nat :=
  match directive.scope with
  | none => 0
  | some start => (String.ofList start).utf8ByteSize

/-- Reads a directive.  Without a level it admits everything. -/
def parse (text : List Char) : Except String Directive :=
  match cut (· = '=') text with
  | [word] =>
      match Threshold.ofName? word with
      | some threshold => .ok ⟨none, threshold⟩
      | none => .ok ⟨some word, some .trace⟩
  | [scope, level] =>
      let level := Text.trim level
      if level.isEmpty then .ok ⟨some scope, some .trace⟩
      else
        match Threshold.ofName? level with
        | some threshold => .ok ⟨some scope, threshold⟩
        | none => .error s!"invalid logging spec '{String.ofList level}'"
  | _ => .error s!"invalid logging spec '{String.ofList text}'"

def insert (directive : Directive) (directives : List Directive) : List Directive :=
  if directives.any (·.scope = directive.scope) then
    directives.map fun other => if other.scope = directive.scope then directive else other
  else
    directives ++ [directive]

end Directive

structure LogFilter where
  directives : List Directive
  wanted : Option Text.Pattern := none
  deriving DecidableEq, Repr

namespace LogFilter

def ofLevel (level : Level) : LogFilter :=
  { directives := [⟨none, some level⟩] }

def directive? (filter : LogFilter) (source : Source) : Option Directive :=
  filter.directives.foldl (fun best directive =>
    if directive.covers source && best.all (·.length ≤ directive.length) then some directive
    else best) none

def shows (filter : LogFilter) (event : Event) : Bool :=
  (filter.directive? event.source).any (·.threshold.admits event.level) &&
    filter.wanted.all (·.occurs event.message)

/-- Reads directives.  Those that make no sense are left out, with a complaint
about each, and without any, errors are shown. -/
def parseDirectives (text : List Char) : LogFilter × List String :=
  let words := ((cut (· = ',') text).map Text.trim).filter fun word => !word.isEmpty
  let (directives, complaints) := words.foldl (fun (directives, complaints) word =>
    match Directive.parse word with
    | .ok directive => (directive.insert directives, complaints)
    | .error complaint => (directives, complaints ++ [complaint])) ([], [])
  (if directives.isEmpty then ofLevel .error else { directives }, complaints)

def parse (text : String) : LogFilter × List String :=
  match cut (· = '/') text.toList with
  | [directives] => parseDirectives directives
  | [directives, wanted] =>
      let (filter, complaints) := parseDirectives directives
      let wanted := String.ofList wanted
      match Text.Pattern.parse wanted with
      | .ok pattern => ({ filter with wanted := some pattern }, complaints)
      | .error rejection =>
          (filter, complaints ++ [s!"invalid regex filter - {rejection.message wanted}"])
  | _ => (ofLevel .error, [s!"invalid logging spec '{text}' (too many '/'s)"])

end LogFilter

end MajiroScript
