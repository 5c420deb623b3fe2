import MajiroScript.Command
import MajiroScript.Command.Json
import MajiroScript.Workspace

/-! Texts of the command line. -/
namespace MajiroScript.Command

def program : String := "mjo"
def version : String := "0.1.0"

def say (message : String) : String :=
  program ++ ": " ++ message

def digestJson (digest : Option Bytes) : Json :=
  match digest with
  | none => .null
  | some digest => .string (Hex.ofBytes digest)

def sizeLine (name : String) (input : InputStats) (output : Option OutputStats) : String :=
  say (s!"{name}: input size: {input.size}, header: {Hex.number input.headerLength}, " ++
    s!"instructions: {input.instructions}" ++
    match output with
    | none => ""
    | some output => s!", output size: {output.size}")

def statsJson (name : String) (input : InputStats) (output : Option OutputStats) : Json :=
  .object
    [("command", .string name),
     ("header_len", .number input.headerLength),
     ("input_sha256", digestJson (some input.sha256)),
     ("input_size", .number input.size),
     ("instructions", .number input.instructions),
     ("output_sha256", digestJson (output.bind OutputStats.sha256)),
     ("output_size", match output with
       | none => .null
       | some output => .number output.size)]

def report (invocation : Invocation) (name : String) (input : InputStats)
    (output : Option OutputStats) : List String :=
  (if invocation.verbosity > 0 && !invocation.quiet then [sizeLine name input output] else []) ++
    (if invocation.json then [(statsJson name input output).pretty 0] else [])

def headerJson (container : Container) (input : InputStats) : Json :=
  .object
    [("body_len", .number (input.size - container.headerLength)),
     ("command", .string "header"),
     ("entries", .array (container.header.entries.map fun entry =>
       .object [("hash", .number entry.hash.toNat), ("offset", .number entry.offset.toNat)])),
     ("entry_count", .number container.header.entryCount.toNat),
     ("header_len", .number container.headerLength),
     ("instructions", .number container.script.size),
     ("line_count", .number container.header.lineCount.toNat),
     ("trailer_len", .number container.trailer.length)]

def entryLine (entry : Entry) (index : Nat) : String :=
  let place := Text.padLeft ' ' 5 (toString index)
  let offset := Text.padLeft ' ' 9 (Hex.number entry.offset.toNat)
  s!"  {place}  {Hex.padded 8 entry.hash.toNat}  {offset}"

def headerLines (container : Container) (input : InputStats) : List String :=
  let header := container.header
  [s!"Line count:                   {header.lineCount.toNat}",
   s!"Entry count:                  {header.entryCount.toNat}",
   s!"Header length:                {Hex.number container.headerLength}",
   s!"Body length:                  {input.size - container.headerLength}",
   s!"Instructions:                 {container.script.size}"] ++
  (if container.trailer.isEmpty then []
   else [s!"Trailing bytes:               {container.trailer.length}"]) ++
  [s!"SHA-256:                      {Hex.ofBytes input.sha256}"] ++
  (if header.entries.isEmpty then []
   else ["", "  Index       Hash     Offset"] ++
     header.entries.zipIdx.map fun (entry, index) => entryLine entry index)

def configLines : List String :=
  let codec : Codec := {}
  [s!"{program} version {version} (Rust)",
   "FILE_IO=1",
   "SIGNATURE=" ++ Text.Utf8.decodeLossy Header.signature.dropLast,
   s!"FIXED_HEADER_LEN={Hex.number Header.fixedLength}",
   s!"KEYSTREAM_LEN={Keystream.period}",
   s!"MAX_GENERIC_OPCODE={Opcode.maxGeneric.toNat}",
   s!"DEFAULT_ENCODING={codec.encoding.name}"]

def usageLines : List String :=
  [s!"usage: {program} [options] disasm INPUT [OUTPUT]",
   s!"       {program} [options] rebuild [--check-only] INPUT [OUTPUT]",
   s!"       {program} [options] unpack INPUT [OUTPUT]",
   s!"       {program} [options] header INPUT",
   s!"       {program} [options] config",
   "options: -k, --keystream FILE; -e, --encoding NAME; --strict-text; -f, --force;",
   "         -q, --quiet; -v, --verbose; --json; -V, --version"]

def unlines (lines : List String) : String :=
  String.join (lines.map (· ++ "\n"))

end MajiroScript.Command
