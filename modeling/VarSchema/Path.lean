/-!
# Paths

A path is a text of names between slashes; empty names and `.` do not count.

* `Path.names` : its names; `Path.fileName?`, `Path.extension?` : the last name, and what stands behind its
  last dot; `Path.parent` : the path without the last name;
* `Path.asksDirectory` : whether the path can only name a directory.
-/

namespace VarSchema

namespace Path

/-- What stands between the slashes. -/
def segments (path : String) : List String := (path.toList.splitOn '/').map String.ofList

/-- Whether a segment does not count. -/
def isVoid (segment : String) : Bool := segment = "" || segment = "."

def names (path : String) : List String := (segments path).filter fun s => !isVoid s

/-- The last name, unless it leads upwards. -/
def fileName? (path : String) : Option String := (names path).getLast?.filter (· != "..")

/-- What stands behind the last dot of the last name. A name has no extension if nothing stands before
that dot. -/
def extension? (path : String) : Option String :=
  (fileName? path).bind fun name =>
    let reversed := name.toList.reverse
    let before := (reversed.dropWhile (· != '.')).drop 1
    if before.isEmpty then none else some (String.ofList (reversed.takeWhile (· != '.')).reverse)

/-- Whether the extension is one of some, in upper or lower case. -/
def hasExtension (path : String) (extensions : List String) : Bool :=
  match extension? path with
  | some e => extensions.contains e.toLower
  | none => false

/-- The path without its last name, empty if there is no other. -/
def parent (path : String) : String :=
  let before := ((segments path).reverse.dropWhile isVoid).drop 1
  "/".intercalate (before.dropWhile isVoid).reverse

/-- Whether the path ends behind a slash. -/
def asksDirectory (path : String) : Bool :=
  match (segments path).reverse with
  | last :: _ :: _ => isVoid last
  | _ => false

end Path

end VarSchema
