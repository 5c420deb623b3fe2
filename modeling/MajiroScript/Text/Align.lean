/-! Text in columns. -/
namespace MajiroScript.Text

def padLeft (fill : Char) (width : Nat) (text : String) : String :=
  String.ofList (List.replicate (width - text.length) fill) ++ text

end MajiroScript.Text
