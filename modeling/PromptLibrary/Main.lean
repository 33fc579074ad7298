import PromptLibrary.CommandLine.Execute
import PromptLibrary.Form.Keys
import PromptLibrary.Store.System

/-!
# The program

The command line over the files of the machine. Only this module touches them; everything that is
decided is decided in the modules that it imports.
-/

namespace PromptLibrary.Machine

/-! ## Files -/

/-- The error number behind a code; some calls report it with a minus sign. -/
def errorNumber (code : UInt32) : Nat :=
  if code.toNat < 1 <<< 31 then code.toNat else 1 <<< 32 - code.toNat

/-- The fault that the machine reports. -/
def faultOf : IO.Error → Fault
  | .alreadyExists _ code _ | .otherError code _ | .resourceBusy code _ | .resourceVanished code _
  | .unsupportedOperation code _ | .hardwareFault code _ | .unsatisfiedConstraints code _
  | .illegalOperation code _ | .protocolError code _ | .timeExpired code _ | .interrupted _ code _
  | .noFileOrDirectory _ code _ | .invalidArgument _ code _ | .permissionDenied _ code _
  | .resourceExhausted _ code _ | .inappropriateType _ code _ | .noSuchThing _ code _ =>
    .system (errorNumber code)
  | .unexpectedEof | .userError _ => .system 5

/-- A call that takes the text of a path. A null character cannot be passed on to the machine. -/
def call {α : Type} (p : Path) (f : String → IO α) : IO (Except Fault α) := do
  if p.text.toList.contains '\x00' then return .error .nullInName
  try return .ok (← f p.text)
  catch e => return .error (faultOf e)

/-- What a path leads to. -/
def kind (p : Path) : IO (Except Fault FileKind) :=
  call p fun s ↦ do
    let info ← (← IO.FS.realPath s).metadata
    return if info.type == .dir then .directory else .file

/-- The content of a file. -/
def readBytes (p : Path) : IO (Except Fault ByteArray) :=
  call p fun s ↦ IO.FS.readBinFile s

/-- Creates or truncates a file and fills it. -/
def writeBytes (p : Path) (content : ByteArray) : IO (Except Fault Unit) :=
  call p fun s ↦ IO.FS.writeBinFile s content

/-- Creates or truncates the second file and fills it from the first one. -/
def copyFile (p q : Path) : IO (Except Fault Unit) := do
  match ← kind p with
  | .error f => return .error f
  | .ok .directory => return .error .notRegular
  | .ok .file =>
    match ← writeBytes q ByteArray.empty with
    | .error f => return .error f
    | .ok () =>
      match ← readBytes p with
      | .error f => return .error f
      | .ok content => writeBytes q content

/-- Moves a file or a directory. -/
def move (p q : Path) : IO (Except Fault Unit) := do
  if q.text.toList.contains '\x00' then return .error .nullInName
  call p fun s ↦ IO.FS.rename s q.text

/-- Creates one directory. -/
def makeDir (p : Path) : IO (Except Fault Unit) :=
  call p fun s ↦ IO.FS.createDir s

instance : FileSystem IO where
  kind := kind
  readBytes := readBytes
  writeBytes := writeBytes
  copyFile := copyFile
  move := move
  makeDir := makeDir

/-! ## Keys -/

/-- The keys pressed at the terminal up to the end of a line, if there is a terminal. -/
def keys : IO (Option (List Key)) := do
  let input ← IO.getStdin
  if ← input.isTty then return some (Key.ofInput (← input.getLine).toList) else return none

end PromptLibrary.Machine

/-- Runs the program with the words of its command line. -/
def main (words : List String) : IO UInt32 := do
  let here := PromptLibrary.Path.mk (← IO.currentDir).toString
  let outcome ← PromptLibrary.CommandLine.invoke here PromptLibrary.Machine.keys words
  IO.print outcome.output
  if let some error := outcome.error then IO.eprintln ("Error: " ++ error)
  return outcome.code.toUInt32
