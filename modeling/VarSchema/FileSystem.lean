import VarSchema.KeyMap
import VarSchema.Path

/-!
# Files and directories

* `FileFault` : why a file cannot be read or made; `FileFault.message` : its wording;
* `Lookup` : what is found at a path; `Lookup.text` : the text of the file there;
* `FileSystem` : texts of files and names of directories, below a directory that is always there;
* `FileSystem.lookup`, `FileSystem.createDirectories`, `FileSystem.write` : its operations. Every name of a
  path but the last one must be that of a directory.
-/

namespace VarSchema

/-- Why a file cannot be read or made. -/
inductive FileFault where
  | notFound
  /-- A file is where a directory should be made. -/
  | alreadyExists
  | notDirectory
  | isDirectory
  | other (reason : String)
deriving DecidableEq

namespace FileFault

def message : FileFault → String
  | notFound => "No such file or directory (os error 2)"
  | alreadyExists => "File exists (os error 17)"
  | notDirectory => "Not a directory (os error 20)"
  | isDirectory => "Is a directory (os error 21)"
  | other reason => reason

end FileFault

/-! ## What is found at a path -/

/-- What is found at a path. -/
inductive Lookup where
  | file (text : String)
  | directory
  /-- A file that cannot be read. -/
  | unreadable (fault : FileFault)
  | absent (fault : FileFault)
deriving DecidableEq

namespace Lookup

def text : Lookup → Except FileFault String
  | file text => .ok text
  | directory => .error .isDirectory
  | unreadable fault => .error fault
  | absent fault => .error fault

def isPresent : Lookup → Bool
  | absent _ => false
  | _ => true

end Lookup

/-! ## File systems -/

/-- Texts of files and names of directories, both by place: names joined by slashes. -/
structure FileSystem where
  files : KeyMap String
  directories : NameSet

namespace FileSystem

/-- No file and no directory but the outermost one. -/
def empty : FileSystem := ⟨KeyMap.empty, NameSet.empty⟩

def key (place : List String) : String := "/".intercalate place

def isDirectory (fs : FileSystem) (place : List String) : Bool :=
  place.isEmpty || fs.directories.contains (key place)

def found (fs : FileSystem) (place : List String) : Lookup :=
  if fs.isDirectory place then .directory
  else
    match fs.files.get? (key place) with
    | some text => .file text
    | none => .absent .notFound

/-- The place that names lead to from a directory. -/
def resolve (fs : FileSystem) : List String → List String → Except FileFault (List String)
  | dir, [] => .ok dir
  | dir, [name] => .ok (if name = ".." then dir.dropLast else dir ++ [name])
  | dir, name :: rest =>
    if name = ".." then fs.resolve dir.dropLast rest
    else
      match fs.found (dir ++ [name]) with
      | .directory => fs.resolve (dir ++ [name]) rest
      | .absent fault => .error fault
      | _ => .error .notDirectory

def lookup (fs : FileSystem) (path : String) : Lookup :=
  match fs.resolve [] (Path.names path) with
  | .error fault => .absent fault
  | .ok place =>
    match fs.found place with
    | .file text => if Path.asksDirectory path then .absent .notDirectory else .file text
    | other => other

/-- Makes the directories that names lead to from a directory. -/
def createFrom : FileSystem → List String → List String → Except FileFault FileSystem
  | fs, _, [] => .ok fs
  | fs, dir, name :: rest =>
    if name = ".." then createFrom fs dir.dropLast rest
    else
      match fs.found (dir ++ [name]) with
      | .directory => createFrom fs (dir ++ [name]) rest
      | .absent _ =>
        createFrom { fs with directories := fs.directories.insert (key (dir ++ [name])) }
          (dir ++ [name]) rest
      | _ => .error (if rest.isEmpty then .alreadyExists else .notDirectory)

/-- Makes a directory and those above it. -/
def createDirectories (fs : FileSystem) (path : String) : Except FileFault FileSystem :=
  fs.createFrom [] (Path.names path)

/-- Writes a file, in the place of one that is there. -/
def write (fs : FileSystem) (path text : String) : Except FileFault FileSystem :=
  match fs.resolve [] (Path.names path) with
  | .error fault => .error fault
  | .ok place =>
    match fs.found place with
    | .directory => .error .isDirectory
    | .absent _ =>
      if Path.asksDirectory path then .error .isDirectory
      else .ok { fs with files := fs.files.insert (key place) text }
    | _ =>
      if Path.asksDirectory path then .error .notDirectory
      else .ok { fs with files := fs.files.insert (key place) text }

end FileSystem

end VarSchema
