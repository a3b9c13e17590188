import ContractLowering.CommandLine.Run

/-! # The program

The command of the arguments is performed on the files of the machine, and what there is to report
is printed.
-/

namespace ContractLowering.Main

open CommandLine

/-- The cause of an error about a path, of which only a name that is too long is an invalid
argument. -/
def fileError : IO.Error → FileError
  | .noFileOrDirectory _ _ _ => .notFound
  | .inappropriateType _ code _ => if code = 21 then .isDirectory else .notDirectory
  | .permissionDenied _ _ _ => .notPermitted
  | .invalidArgument _ _ _ => .nameTooLong
  | error => .other (toString error)

def attempt {α : Type} (action : IO α) : ExceptT FileError IO α :=
  ExceptT.mk do
    try
      return .ok (← action)
    catch error =>
      return .error (fileError error)

/-- The files of the machine. -/
def files : FileSystem IO where
  read path := attempt (IO.FS.readBinFile path)
  write path content := attempt (IO.FS.writeBinFile path content)

/-- A pattern is found where it stands as it is. -/
def finds (pattern message : String) : Bool :=
  message.contains pattern

def tell (response : Response) : IO UInt32 := do
  (← IO.getStdout).putStr response.stdout
  (← IO.getStderr).putStr response.stderr
  return response.exitStatus

end ContractLowering.Main

open ContractLowering CommandLine in
def main (words : List String) : IO UInt32 := do
  let logger := Logger.ofSetting Main.finds (← IO.getEnv "RUST_LOG")
  Main.tell (← respond Main.files logger words)
