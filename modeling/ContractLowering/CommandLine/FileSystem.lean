/-! # File systems

What a run asks of the files around it: the whole content of one, and a new content for one. Which
file a path leads to, and what is refused, is the business of the system.
-/

namespace ContractLowering.CommandLine

inductive FileError where
  | notFound
  | notDirectory
  | isDirectory
  | nameTooLong
  | notPermitted
  | notText
  /-- Any other error of the system, in its words. -/
  | other (words : String)
  deriving DecidableEq

def FileError.message : FileError → String
  | notFound => "No such file or directory (os error 2)"
  | notDirectory => "Not a directory (os error 20)"
  | isDirectory => "Is a directory (os error 21)"
  | nameTooLong => "File name too long (os error 36)"
  | notPermitted => "Permission denied (os error 13)"
  | notText => "stream did not contain valid UTF-8"
  | other words => words

/-- The text of a file with this content. -/
def textOf (content : ByteArray) : Except FileError String :=
  match String.fromUTF8? content with
  | some text => .ok text
  | none => .error .notText

/-- Files under their paths, as actions of a monad. -/
structure FileSystem (m : Type → Type) where
  /-- The whole content of a file. -/
  read : String → ExceptT FileError m ByteArray
  /-- Replace the content of a file, or add the file. -/
  write : String → ByteArray → ExceptT FileError m Unit

def FileSystem.readText {m : Type → Type} [Monad m] (system : FileSystem m) (path : String) :
    ExceptT FileError m String := do
  MonadExcept.ofExcept (textOf (← system.read path))

end ContractLowering.CommandLine
