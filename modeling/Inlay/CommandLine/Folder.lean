import Inlay.CommandLine.Run

/-!
Surroundings that exist only as a value: a folder of text files, a standard input and the two
output streams. A directory exists in the folder if a file does whose path goes through it.
Around the folder there are directories in which nothing can be found, and what is written there
is lost.

A path is followed name by name. Every name but the last has to lead to a directory, and the first
one that does not decides about the error.
-/

namespace Inlay.CommandLine

structure Folder where
  files : List (Text × Text) := []
  /-- The standard input, unless it is no text. -/
  input : Option Text := some []
  filterVariable : Option Text := none
  output : Text := []
  messages : Text := []
  deriving DecidableEq, Repr

/-- A place in the folder, by the names that lead to it, or somewhere around the folder. -/
inductive Place where
  | inside (names : List Text)
  | around
  deriving DecidableEq, Repr

namespace Folder

def components (path : Text) : List Text :=
  (Text.splitOn '/' path).filter (· ≠ [])

def filePlace (path : Text) : List Text :=
  (components path).filter (· ≠ ['.'])

def file? (folder : Folder) (names : List Text) : Option Text :=
  (folder.files.find? (fun file => filePlace file.1 == names)).map Prod.snd

def hasDirectory (folder : Folder) (names : List Text) : Bool :=
  names.isEmpty ||
    folder.files.any (fun file =>
      names.isPrefixOf (filePlace file.1) && names.length < (filePlace file.1).length)

def isDirectory (folder : Folder) : Place → Bool
  | .inside names => folder.hasDirectory names
  | .around => true

def pathLimit : Nat := 4095

def nameLimit : Nat := 255

/-- The place to which one name leads from a directory, if there is something there. -/
def follow (folder : Folder) (directory : Place) (name : Text) : Except FileError Place :=
  if name = ['.'] then
    .ok directory
  else if name = ['.', '.'] then
    match directory with
    | .inside [] => .ok .around
    | .inside names => .ok (.inside names.dropLast)
    | .around => .ok .around
  else if nameLimit < Text.utf8Size name then
    .error .nameTooLong
  else
    match directory with
    | .inside names =>
        if folder.hasDirectory (names ++ [name]) || (folder.file? (names ++ [name])).isSome then
          .ok (.inside (names ++ [name]))
        else
          .error .notFound
    | .around => .error .notFound

def enter (folder : Folder) (directory : Place) : List Text → Except FileError Place
  | [] => .ok directory
  | name :: rest => do
      let place ← folder.follow directory name
      if folder.isDirectory place then folder.enter place rest else .error .notDirectory

/-- The directory in which the last name of a path is looked for, and that name. A path that has
no names, or ends with a name of the directory itself, leads to a directory. -/
def locate (folder : Folder) (path : Text) : Except FileError (Place × Text) :=
  if pathLimit < Text.utf8Size path then
    .error .nameTooLong
  else do
    let start := if path.head? = some '/' then Place.around else .inside []
    let names := components path
    let directory ← folder.enter start names.dropLast
    match names.getLast? with
    | none => .error .isDirectory
    | some name =>
        if name = ['.'] ∨ name = ['.', '.'] then .error .isDirectory
        else .ok (directory, name)

def endsWithSlash (path : Text) : Bool :=
  path.getLast? = some '/'

def readFile (folder : Folder) (path : Text) : Except FileError Text := do
  let (directory, name) ← folder.locate path
  let place ← folder.follow directory name
  if folder.isDirectory place then
    .error .isDirectory
  else if endsWithSlash path then
    .error .notDirectory
  else
    match place with
    | .inside names => .ok ((folder.file? names).getD [])
    | .around => .error .notFound

def putFile (names : List Text) (content : Text) : List (Text × Text) → List (Text × Text)
  | [] => [(List.intercalate ['/'] names, content)]
  | file :: rest =>
      if filePlace file.1 = names then (file.1, content) :: rest
      else file :: putFile names content rest

def put (folder : Folder) (names : List Text) (content : Text) : Folder :=
  { folder with files := putFile names content folder.files }

/-- A folder with the given files. Of files with the same path the last one is kept. -/
def ofFiles (files : List (Text × Text)) : Folder :=
  files.foldl (fun folder file => folder.put (filePlace file.1) file.2) {}

def writeFile (folder : Folder) (path content : Text) : Except FileError Folder := do
  let (directory, name) ← folder.locate path
  if endsWithSlash path then
    .error .isDirectory
  else if nameLimit < Text.utf8Size name then
    .error .nameTooLong
  else
    match directory with
    | .inside names =>
        if folder.hasDirectory (names ++ [name]) then .error .isDirectory
        else .ok (folder.put (names ++ [name]) content)
    | .around => .ok folder

def surroundings : Surroundings (StateM Folder) where
  readInput := do
    match (← get).input with
    | some text => return .ok text
    | none => return .error .notText
  readFile path := do return (← get).readFile path
  writeFile path content := do
    match (← get).writeFile path content with
    | .ok folder =>
        set folder
        return .ok ()
    | .error error => return .error error
  print text := modify fun folder => { folder with output := folder.output ++ text }
  report text := modify fun folder => { folder with messages := folder.messages ++ text }
  filterVariable := do return (← get).filterVariable

def run (html : Html.Engine) (folder : Folder) (arguments : List Text) : Nat × Folder :=
  (CommandLine.run html surroundings arguments).run folder

end Folder

end Inlay.CommandLine
