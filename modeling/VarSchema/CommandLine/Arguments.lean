/-!
# Arguments of the command line

* `GenerateArgs`, `CheckArgs`, `Command` : what the commands are told; `Request` : a command, or the version;
* `Switch` : an option with its name, its letter and what it takes; `Switch.read?` : the options among words;
* `Request.ofWords?` : the request of words, `none` if they are no proper use.

An option that takes names takes all words up to the next option. An option may be given once, unless it
counts or takes names.
-/

namespace VarSchema

namespace CommandLine

/-- What the generation of a schema is told. -/
structure GenerateArgs where
  input : String
  output : String
  overwrite : Bool
  /-- Whether the schema is printed and not written. -/
  stdout : Bool
  disallowAdditionalProperties : Bool
  requireAll : Bool
  nullableDefault : Bool
  allowEmpty : Bool
  ignored : List String
  skipInvalid : Bool
  config : Option String
deriving DecidableEq

/-- What the check of values is told. -/
structure CheckArgs where
  schema : String
  values : String
deriving DecidableEq

inductive Command where
  | generate (args : GenerateArgs)
  | check (args : CheckArgs)
deriving DecidableEq

/-- What the program is asked for. -/
inductive Request where
  | version
  | command (command : Command)
deriving DecidableEq

/-! ## Words -/

/-- What a word of the command line is. -/
inductive Word where
  /-- Two hyphens: no option follows. -/
  | separator
  /-- Two hyphens and a name, perhaps with a value behind `=`. -/
  | long (name : String) (value : Option String)
  /-- A hyphen and letters. -/
  | letters (cs : List Char)
  | value (text : String)

/-- The kind of a word. A hyphen alone is a value. -/
def Word.ofText (text : String) : Word :=
  match text.toList with
  | ['-', '-'] => .separator
  | '-' :: '-' :: cs =>
    match cs.dropWhile (· != '=') with
    | '=' :: v => .long (String.ofList (cs.takeWhile (· != '='))) (some (String.ofList v))
    | _ => .long (String.ofList cs) none
  | ['-'] => .value text
  | '-' :: cs => .letters cs
  | _ => .value text

/-! ## Options -/

/-- What an option takes. -/
inductive Takes where
  | nothing
  /-- Nothing, and it may be repeated. -/
  | count
  | path
  /-- One or more names; it may be repeated. -/
  | names
deriving DecidableEq

/-- An option. -/
structure Switch where
  name : String
  letter : Option Char
  takes : Takes

/-- An option as given, with its values. -/
abbrev Given := String × List String

namespace Switch

def hasValues (s : Switch) : Bool := s.takes = .path || s.takes = .names

/-- Appends an option that waits for values; `none` if it has got none. -/
def settle (waiting : Option (Switch × List String)) (done : List Given) : Option (List Given) :=
  match waiting with
  | none => some done
  | some (_, []) => none
  | some (s, values) => some (done ++ [(s.name, values)])

/-- The options of letters behind one hyphen. The first that takes values takes the rest as its value, or
waits if nothing is left. -/
def readLetters? (switches : List Switch) :
    List Char → List Given → Option (Option (Switch × List String) × List Given)
  | [], done => some (none, done)
  | c :: rest, done =>
    (switches.find? fun s => s.letter == some c).bind fun s =>
      if s.hasValues then
        match rest with
        | [] => some (some (s, []), done)
        | '=' :: value => some (none, done ++ [(s.name, [String.ofList value])])
        | value => some (none, done ++ [(s.name, [String.ofList value])])
      else readLetters? switches rest (done ++ [(s.name, [])])

/-- The options of words, behind those of `done` and one that waits for values. -/
def readWords? (switches : List Switch) :
    List String → Option (Switch × List String) → List Given → Option (List Given)
  | [], waiting, done => settle waiting done
  | w :: rest, waiting, done =>
    match Word.ofText w with
    | .separator => if rest.isEmpty then settle waiting done else none
    | .long name value =>
      (settle waiting done).bind fun done =>
        (switches.find? fun s => s.name == name).bind fun s =>
          match s.hasValues, value with
          | false, none => readWords? switches rest none (done ++ [(s.name, [])])
          | false, some _ => none
          | true, some v => readWords? switches rest none (done ++ [(s.name, [v])])
          | true, none => readWords? switches rest (some (s, [])) done
    | .letters cs =>
      (settle waiting done).bind fun done =>
        (readLetters? switches cs done).bind fun (waiting, done) =>
          readWords? switches rest waiting done
    | .value v =>
      match waiting with
      | none => none
      | some (s, values) =>
        if s.takes = .path then readWords? switches rest none (done ++ [(s.name, [v])])
        else readWords? switches rest (some (s, values ++ [v])) done

/-- Whether the options are given properly: no path is empty, and only some options are repeated. -/
def isProper (switches : List Switch) (given : List Given) : Bool :=
  switches.all fun s =>
    let own := given.filter fun g => g.1 == s.name
    match s.takes with
    | .nothing => decide (own.length ≤ 1)
    | .path => decide (own.length ≤ 1) && own.all fun g => !g.2.contains ""
    | _ => true

def read? (switches : List Switch) (words : List String) : Option (List Given) :=
  (readWords? switches words none []).filter (isProper switches)

end Switch

def isGiven (given : List Given) (name : String) : Bool := given.any fun g => g.1 == name

def valuesOf (given : List Given) (name : String) : List String :=
  (given.filter fun g => g.1 == name).flatMap Prod.snd

/-! ## Requests -/

/-- More messages; their number is not looked at. -/
def verbose : Switch := ⟨"verbose", some 'v', .count⟩

def generateSwitches : List Switch := [
  verbose, ⟨"input", some 'i', .path⟩, ⟨"output", some 'o', .path⟩, ⟨"overwrite", none, .nothing⟩,
  ⟨"stdout", none, .nothing⟩, ⟨"disallow-additional-properties", none, .nothing⟩,
  ⟨"require-all", none, .nothing⟩, ⟨"nullable-default", none, .nothing⟩,
  ⟨"allow-empty", none, .nothing⟩, ⟨"ignore", none, .names⟩, ⟨"skip-invalid", none, .nothing⟩,
  ⟨"config", none, .path⟩]

def checkSwitches : List Switch := [verbose, ⟨"schema", none, .path⟩, ⟨"values", none, .path⟩]

def defaultOutput : String := "schema.json"

def GenerateArgs.ofGiven? (given : List Given) : Option GenerateArgs :=
  (valuesOf given "input").head?.map fun input => {
    input := input
    output := (valuesOf given "output").headD defaultOutput
    overwrite := isGiven given "overwrite"
    stdout := isGiven given "stdout"
    disallowAdditionalProperties := isGiven given "disallow-additional-properties"
    requireAll := isGiven given "require-all"
    nullableDefault := isGiven given "nullable-default"
    allowEmpty := isGiven given "allow-empty"
    ignored := valuesOf given "ignore"
    skipInvalid := isGiven given "skip-invalid"
    config := (valuesOf given "config").head? }

def CheckArgs.ofGiven? (given : List Given) : Option CheckArgs :=
  match valuesOf given "schema", valuesOf given "values" with
  | schema :: _, values :: _ => some ⟨schema, values⟩
  | _, _ => none

/-- The request of words. Before the command, only options that count and the version may stand. -/
def Request.ofWords? : List String → Option Request
  | [] => none
  | w :: rest =>
    if w = "generate" then
      ((Switch.read? generateSwitches rest).bind GenerateArgs.ofGiven?).map fun args =>
        .command (.generate args)
    else if w = "check" then
      ((Switch.read? checkSwitches rest).bind CheckArgs.ofGiven?).map fun args =>
        .command (.check args)
    else
      match Word.ofText w with
      | .long "verbose" none => ofWords? rest
      | .long "version" none => some .version
      | .letters cs =>
        match cs.dropWhile (· == 'v') with
        | [] => ofWords? rest
        | 'V' :: _ => some .version
        | _ => none
      | _ => none

end CommandLine

end VarSchema
