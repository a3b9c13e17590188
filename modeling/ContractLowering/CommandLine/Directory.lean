import ContractLowering.CommandLine.FileSystem

/-! # Directories

A file system of one directory, in which every file can be read and written. A path leads to a file
of the directory, or to a directory, or nowhere; no files are known outside.
-/

namespace ContractLowering.CommandLine

abbrev Directory := List (String × ByteArray)

namespace Directory

/-- The greatest number of octets of a file name. -/
def maxNameLength : Nat := 255

/-- The greatest number of octets of a path. -/
def maxPathLength : Nat := 4095

def get? (directory : Directory) (name : String) : Option ByteArray :=
  directory.lookup name

/-- Replace a file, or add it. -/
def set (directory : Directory) (name : String) (content : ByteArray) : Directory :=
  match directory with
  | [] => [(name, content)]
  | file :: files =>
    if file.1 = name then (name, content) :: files else file :: set files name content

theorem get?_cons (file : String × ByteArray) (files : Directory) (name : String) :
    get? (file :: files) name = if name = file.1 then some file.2 else files.get? name := by
  unfold get?
  rw [List.lookup_cons]
  by_cases h : name = file.1
  · simp [h]
  · simp [h, beq_eq_false_iff_ne.2 h]

theorem get?_set (directory : Directory) (name other : String) (content : ByteArray) :
    (directory.set name content).get? other =
      if other = name then some content else directory.get? other := by
  induction directory with
  | nil => rw [set, get?_cons]
  | cons file files ih =>
    rw [set]
    split
    · rename_i h
      rw [get?_cons, get?_cons, h]
      split <;> rfl
    · rename_i h
      rw [get?_cons, get?_cons, ih]
      split
      · rename_i hf
        rw [if_neg fun he => h (hf.symm.trans he)]
      · rfl

/-- Where a path leads. -/
inductive Place where
  /-- A directory: this one, or one around it. -/
  | directory
  /-- A name in this directory, or in one around it. -/
  | entry (isInside : Bool) (name : String)
  deriving DecidableEq

/-- The file name that an entry can have. Outside no files are known. -/
def fileName (isInside : Bool) (name : String) : Except FileError String :=
  if maxNameLength < name.utf8ByteSize then .error .nameTooLong
  else if isInside then .ok name
  else .error .notFound

/-- Walk along the names of a path. Only the last of them may be that of a file. -/
def walk (directory : Directory) (isInside : Bool) : List String → Except FileError Place
  | [] => .ok .directory
  | part :: parts =>
    if part = "." then
      walk directory isInside parts
    else if part = ".." then
      walk directory false parts
    else if parts.isEmpty then
      .ok (.entry isInside part)
    else do
      let name ← fileName isInside part
      .error (if (directory.get? name).isSome then .notDirectory else .notFound)

/-- The names on a path, which slashes divide. -/
def names (path : String) : List String :=
  ((path.toList.splitOn '/').filter (· ≠ [])).map String.ofList

/-- The place that a path leads to, whether there is a file or not. -/
def locate (directory : Directory) (path : String) : Except FileError Place :=
  if path = "" then
    .error .notFound
  else if maxPathLength < path.utf8ByteSize then
    .error .nameTooLong
  else
    walk directory (path.toList.head? ≠ some '/') (names path)

/-- Whether a path can only lead to a directory. -/
def asksDirectory (path : String) : Bool :=
  path.toList.getLast? = some '/'

def read (directory : Directory) (path : String) : Except FileError ByteArray := do
  match ← directory.locate path with
  | .directory => .error .isDirectory
  | .entry isInside name =>
    match directory.get? (← fileName isInside name) with
    | some content => if asksDirectory path then .error .notDirectory else .ok content
    | none => .error .notFound

def write (directory : Directory) (path : String) (content : ByteArray) :
    Except FileError Directory := do
  match ← directory.locate path with
  | .directory => .error .isDirectory
  | .entry isInside name =>
    if asksDirectory path then
      .error .isDirectory
    else
      return directory.set (← fileName isInside name) content

/-- What comes of a write; one that fails leaves the directory as it was. -/
def outcome (directory : Directory) : Except FileError Directory → Except FileError Unit × Directory
  | .ok written => (.ok (), written)
  | .error error => (.error error, directory)

/-- The directory as the state of a program. -/
def system : FileSystem (StateM Directory) where
  read path directory := (directory.read path, directory)
  write path content directory := directory.outcome (directory.write path content)

end Directory

end ContractLowering.CommandLine
