import VarSchema.CommandLine.Run

/-!
# The program

Looks up the paths that a command names, and prints or writes its outcome. Warnings and failures go to the
standard error.
-/

namespace VarSchema

namespace CommandLine

def faultOf : IO.Error → FileFault
  | .noFileOrDirectory _ _ _ => .notFound
  | .alreadyExists _ _ _ => .alreadyExists
  | .inappropriateType _ code _ => if code = 21 then .isDirectory else .notDirectory
  | e => .other (toString e)

/-- What is found where a file cannot be read. -/
def lookupOf : FileFault → Lookup
  | .notFound => .absent .notFound
  | .notDirectory => .absent .notDirectory
  | .isDirectory => .directory
  | fault => .unreadable fault

def find (path : String) : IO Lookup := do
  try
    return .file (← IO.FS.readFile path)
  catch e =>
    return lookupOf (faultOf e)

def writeBelow (path text : String) : IO (Except Failure Unit) := do
  let parent := Path.parent path
  try
    if parent ≠ "" then IO.FS.createDirAll parent
  catch e =>
    return .error (.directoryNotMade parent (faultOf e))
  try
    IO.FS.writeFile path text
    return .ok ()
  catch e =>
    return .error (.notWritten path (faultOf e))

def perform (x : Outcome) : IO Report := do
  match x.result with
  | .error failure => return .failed x.warnings failure
  | .ok (.print text exitCode) => return .printed x.warnings text exitCode
  | .ok (.write path text) =>
    match ← writeBelow path text with
    | .error failure => return .failed x.warnings failure
    | .ok () => return .printed x.warnings (writtenText path) 0

def report (words : List String) : IO Report := do
  match Request.ofWords? words with
  | none => return .misuse
  | some .version => return .printed [] versionText 0
  | some (.command c) =>
    let found ← c.paths.mapM fun path => do return (path, ← find path)
    perform (c.outcome fun path => (found.lookup path).getD (.absent .notFound))

end CommandLine

end VarSchema

open VarSchema CommandLine in
def main (words : List String) : IO UInt32 := do
  let r ← report words
  for w in r.warnings do
    IO.eprintln ("WARN " ++ w.message)
  if let some failure := r.failure then
    IO.eprintln ("ERROR " ++ failure.message)
  IO.print r.stdout
  return r.exitCode.toUInt32
