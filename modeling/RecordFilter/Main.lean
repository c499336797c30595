import RecordFilter.Program.Process

/-! # The command line

Runs the program on the files of the disk. -/

namespace RecordFilter

/-- The number of an error of the operating system, which may be given with a sign. -/
def unsignedCode (code : UInt32) : UInt32 :=
  if code < 0x80000000 then code else 0 - code

/-- The reason that an error of the operating system gives. -/
def FileError.ofCode (code : UInt32) (details : String) : FileError :=
  match unsignedCode code with
  | 2 => .notFound
  | 16 => .busy
  | 17 => .alreadyExists
  | 20 => .notADirectory
  | 21 => .isADirectory
  | 36 => .nameTooLong
  | code => .other (details ++ " (os error " ++ toString code ++ ")")

/-- The reason that a failed operation gives. -/
def FileError.ofError : IO.Error → FileError
  | .noFileOrDirectory _ code details
  | .interrupted _ code details
  | .alreadyExists _ code details
  | .invalidArgument _ code details
  | .permissionDenied _ code details
  | .resourceExhausted _ code details
  | .inappropriateType _ code details
  | .noSuchThing _ code details
  | .otherError code details
  | .resourceBusy code details
  | .resourceVanished code details
  | .unsupportedOperation code details
  | .hardwareFault code details
  | .unsatisfiedConstraints code details
  | .illegalOperation code details
  | .protocolError code details
  | .timeExpired code details => .ofCode code details
  | .unexpectedEof => .other "unexpected end of file"
  | .userError _ => .other "stream did not contain valid UTF-8"

/-- An operation on the file with a name, if it is one that a file can have. -/
def onDisk {α : Type} (p : Path) (operation : String → IO α) : IO (Except FileError α) := do
  if p.text.toList.contains '\x00' then return .error .zeroInName
  try return .ok (← operation p.text)
  catch e => return .error (.ofError e)

instance : Files IO where
  kind? p := do
    match ← onDisk p fun name => do
      discard ((← IO.FS.Handle.mk name .read).read 1) with
    | .ok () => return some .file
    | .error .isADirectory => return some .directory
    | .error .notFound | .error .notADirectory | .error .nameTooLong | .error .zeroInName =>
      return none
    | .error _ => return some .file
  readText p := onDisk p fun name => IO.FS.readFile name
  writeText p text := onDisk p fun name => IO.FS.writeFile name text
  makeDirectory p := onDisk p fun name => IO.FS.createDir name
  moveFile source target := do
    if target.text.toList.contains '\x00' then return .error .zeroInName
    onDisk source fun name => IO.FS.rename name target.text

/-- The environment of this process. -/
def Environment.current : IO Environment := do
  let names := ["WQ_CONFIG", "WQ_DATA", "XDG_CONFIG_HOME", "XDG_DATA_HOME", "HOME", "RUST_LOG"]
  let values ← names.mapM fun name => do return (name, ← IO.getEnv name)
  return .ofVariables fun name => (values.lookup name).join

end RecordFilter

/-- Runs the program with the words of its command line. -/
def main (words : List String) : IO UInt32 := do
  let result ← RecordFilter.runProcess (← RecordFilter.Environment.current) words
  (← IO.getStderr).putStr result.errors
  (← IO.getStdout).putStr result.output
  return result.status
