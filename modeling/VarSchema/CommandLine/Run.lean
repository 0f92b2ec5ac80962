import VarSchema.CommandLine.Outcome

/-!
# Runs on a file system

* `Report` : the exit code, what is printed, the warnings and the failure of a run;
* `FileSystem.perform` : an action on a file system; `CommandLine.run` : a run of the program.
-/

namespace VarSchema

namespace CommandLine

structure Report where
  exitCode : Nat
  stdout : String
  warnings : List Warning
  failure : Option Failure

namespace Report

def printed (warnings : List Warning) (text : String) (exitCode : Nat) : Report :=
  ⟨exitCode, text, warnings, none⟩

def failed (warnings : List Warning) (failure : Failure) : Report := ⟨1, "", warnings, some failure⟩

def misuse : Report := ⟨2, "", [], none⟩

end Report

def versionText : String := "tfs 0.1.0\n"

/-- What is printed after a schema has been written. -/
def writtenText (path : String) : String := "Schema written to " ++ path ++ "\n"

end CommandLine

open CommandLine

namespace FileSystem

/-- Writes a file after making the directories above it. -/
def writeBelow (fs : FileSystem) (path text : String) : Except Failure Unit × FileSystem :=
  match fs.createDirectories (Path.parent path) with
  | .error fault => (.error (.directoryNotMade (Path.parent path) fault), fs)
  | .ok made =>
    match made.write path text with
    | .error fault => (.error (.notWritten path fault), made)
    | .ok written => (.ok (), written)

def perform (fs : FileSystem) (x : Outcome) : Report × FileSystem :=
  match x.result with
  | .error failure => (.failed x.warnings failure, fs)
  | .ok (.print text exitCode) => (.printed x.warnings text exitCode, fs)
  | .ok (.write path text) =>
    match fs.writeBelow path text with
    | (.error failure, after) => (.failed x.warnings failure, after)
    | (.ok (), after) => (.printed x.warnings (writtenText path) 0, after)

end FileSystem

namespace CommandLine

def run (fs : FileSystem) (words : List String) : Report × FileSystem :=
  match Request.ofWords? words with
  | none => (.misuse, fs)
  | some .version => (.printed [] versionText 0, fs)
  | some (.command c) => fs.perform (c.outcome fs.lookup)

end CommandLine

end VarSchema
