import TokenConcord.Text.Basic

/-!
# Files

Programs read files through a function that they are given. One such function answers from
a snapshot of the files below the working directory: a path is resolved one part after
another, each part but the last has to be a directory, and what lies outside the working
directory is not there.
-/

namespace TokenConcord

/-- Why a file could not be read. -/
inductive FileError where
  | missing
  /-- A part of the path that has to be a directory is a file. -/
  | notDirectory
  | isDirectory
  | nameTooLong
  /-- The path holds the character with number zero. -/
  | invalidPath
  | other (cause : String)
  deriving DecidableEq, Repr

/-- The cause as the system states it. -/
def FileError.message : FileError → String
  | missing => "No such file or directory (os error 2)"
  | notDirectory => "Not a directory (os error 20)"
  | isDirectory => "Is a directory (os error 21)"
  | nameTooLong => "File name too long (os error 36)"
  | invalidPath => "file name contained an unexpected NUL byte"
  | other cause => cause

/-- How the text of the file under a path is obtained. -/
abbrev FileReader (m : Type → Type) := Text → m (Except FileError Text)

/-- Files by the parts of their paths. A directory is there as soon as a file lies in it. -/
structure Files where
  entries : List (List Text × Text)

namespace Files

/-- The parts of a path between slashes. -/
def parts (path : Text) : List Text :=
  path.splitBy (fun a b => a != '/' && b != '/') |>.filter (· != ['/'])

/-- Whether a path starts outside the working directory. -/
def isAbsolute (path : Text) : Bool := path.head? = some '/'

/-- The files of a list of paths and texts. -/
def ofList (files : List (Text × Text)) : Files :=
  ⟨files.map fun (path, text) => (parts path, text)⟩

/-- The text of a file given by its place. -/
def file? (files : Files) (place : List Text) : Option Text := files.entries.lookup place

/-- Whether a place is that of a directory. -/
def isDirectory (files : Files) (place : List Text) : Bool :=
  place.isEmpty || files.entries.any fun entry =>
    place.isPrefixOf entry.1 && place.length < entry.1.length

/-- Longest name of a file, in bytes. -/
def maxNameWidth : Nat := 255

/-- Follow the parts of a path from a place on. -/
def follow (files : Files) (place : List Text) : List Text → Except FileError (List Text)
  | [] => .ok place
  | part :: parts =>
      if maxNameWidth < part.width then .error .nameTooLong
      else if files.isDirectory place then
        if part = ['.'] then follow files place parts
        else if part = ['.', '.'] then
          if place.isEmpty then .error .missing else follow files place.dropLast parts
        else follow files (place ++ [part]) parts
      else if (files.file? place).isSome then .error .notDirectory
      else .error .missing

/-- The place that a path leads to. A slash at its end asks for a directory. -/
def resolve (files : Files) (path : Text) : Except FileError (List Text) :=
  if path.contains '\x00' then .error .invalidPath
  else if path.isEmpty then .error .missing
  else if isAbsolute path then
    if (parts path).isEmpty then .ok [] else .error .missing
  else
    follow files [] (parts path ++ if path.getLast? = some '/' then [['.']] else [])

/-- The text of the file that a path leads to. -/
def read (files : Files) (path : Text) : Except FileError Text := do
  let place ← files.resolve path
  match files.file? place with
  | some text => .ok text
  | none => .error (if files.isDirectory place then .isDirectory else .missing)

end Files

end TokenConcord
