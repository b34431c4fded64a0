import Inlay.CommandLine.Run
import Inlay.Html.Standard

namespace Inlay.CommandLine

def decodeBytes (bytes : ByteArray) : Except FileError Text :=
  match String.fromUTF8? bytes with
  | some text => .ok text.toList
  | none => .error .notText

def fileErrorOf : IO.Error → FileError
  | .noFileOrDirectory .. => .notFound
  | .inappropriateType _ code _ => if code = 21 then .isDirectory else .notDirectory
  | .invalidArgument _ code _ =>
      if code = 36 then .nameTooLong else .other "Invalid argument (os error 22)".toList
  | .permissionDenied .. => .other "Permission denied (os error 13)".toList
  | error => .other (toString error).toList

/-- Do something with a file or a stream and take note of a failure. -/
def attempt {α : Type} (action : IO α) : IO (Except FileError α) := do
  try
    return .ok (← action)
  catch error =>
    return .error (fileErrorOf error)

def processSurroundings : Surroundings IO where
  readInput := do
    let bytes ← attempt do (← IO.getStdin).readBinToEnd
    return bytes.bind decodeBytes
  readFile path := do
    let bytes ← attempt (IO.FS.readBinFile (String.ofList path))
    return bytes.bind decodeBytes
  writeFile path content := attempt (IO.FS.writeFile (String.ofList path) (String.ofList content))
  print text := do
    let stream ← IO.getStdout
    stream.putStr (String.ofList text)
    stream.flush
  report text := do (← IO.getStderr).putStr (String.ofList text)
  filterVariable := do return (← IO.getEnv "RUST_LOG").map String.toList

end Inlay.CommandLine

def main (arguments : List String) : IO UInt32 := do
  let status ← Inlay.CommandLine.run Inlay.Html.Standard.engine
    Inlay.CommandLine.processSurroundings (arguments.map String.toList)
  return status.toUInt32
