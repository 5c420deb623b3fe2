import MajiroScript.Command.Run

/-! The program: looks at the files that the arguments name, runs the command on
what it saw, and puts the result on disk and on the streams. -/
namespace MajiroScript.Main

def look (way : Way) : IO (Option Node) := do
  try
    let content ← IO.FS.readBinFile way.path
    return some (.file content.toList)
  catch
    | .inappropriateType none 21 _ => return some .folder
    | _ => return none

def snapshot (arguments : List String) : IO Directory := do
  let paths := match Command.parse arguments with
    | .ok invocation => invocation.paths
    | .error _ => []
  let mut nodes := []
  for way in (paths.flatMap Directory.places).eraseDups do
    if let some node ← look way then
      nodes := (way, node) :: nodes
  return ⟨nodes⟩

end MajiroScript.Main

def main (arguments : List String) : IO UInt32 := do
  let directory ← MajiroScript.Main.snapshot arguments
  let logging ← IO.getEnv "RUST_LOG"
  let transcript := MajiroScript.Command.runArguments directory logging arguments
  for (way, content) in directory.changedFiles transcript.directory do
    IO.FS.writeBinFile way.path ⟨content.toArray⟩
  let stdout ← IO.getStdout
  stdout.write ⟨transcript.stdout.toArray⟩
  stdout.flush
  IO.eprint transcript.stderr
  return transcript.status
