/-!
# Arguments of the command line

Arguments are options, the values of options, and headers, in any order. A long option starts with
two dashes and may have its value behind an equals sign; short ones are single letters behind one
dash, several of which may be joined, and a value may follow its letter directly. Two dashes alone
end the options. Of an option given several times the last value counts, except for those that
collect.
-/

namespace Bindery

/-- The options of the command line. -/
inductive Switch where
  /-- A definition. -/
  | define
  /-- A directory in which headers are looked for. -/
  | includeDir
  /-- The namespace. -/
  | namespaceName
  /-- The directory for output. -/
  | outputDir
  /-- Whether output tells where declarations come from. -/
  | debug
  /-- The native library. -/
  | library
  /-- The template. -/
  | template
  /-- The transform. -/
  | assembly
  /-- The configuration file. -/
  | config
  /-- Whether the run tells more. -/
  | verbose
  /-- A request for help. -/
  | help
deriving DecidableEq, Repr, Inhabited

namespace Switch

/-- The option of a word behind two dashes. -/
def ofWord? (word : String) : Option Switch :=
  match word with
  | "define" => some define
  | "include" => some includeDir
  | "ns" => some namespaceName
  | "namespace" => some namespaceName
  | "outdir" => some outputDir
  | "debug" => some debug
  | "lib" => some library
  | "library" => some library
  | "template" => some template
  | "assembly" => some assembly
  | "config" => some config
  | "verbose" => some verbose
  | "help" => some help
  | _ => none

/-- The option of a letter behind one dash. -/
def ofLetter? (letter : Char) : Option Switch :=
  match letter with
  | 'D' => some define
  | 'I' => some includeDir
  | 'o' => some outputDir
  | 't' => some template
  | 'a' => some assembly
  | 'c' => some config
  | 'v' => some verbose
  | 'h' => some help
  | _ => none

/-- Whether an option has a value. -/
def takesValue : Switch → Bool
  | debug | verbose | help => false
  | _ => true

end Switch

/-- Why arguments are refused. -/
inductive UsageFault where
  /-- There is no such option. -/
  | unknown
  /-- An option has no value. -/
  | needsValue (option : String)
  /-- An option has a value and takes none. -/
  | refusesValue (option : String)
deriving DecidableEq, Repr

/-- What the command line says. -/
structure Arguments where
  /-- The headers. -/
  headers : List String
  /-- The definitions. -/
  defines : List String
  /-- The directories in which headers are looked for. -/
  includeDirs : List String
  /-- The namespace. -/
  namespaceName : Option String
  /-- The directory for output. -/
  outputDir : Option String
  /-- Whether output tells where declarations come from. -/
  debug : Bool
  /-- The native library. -/
  library : Option String
  /-- The template. -/
  template : Option String
  /-- The transform. -/
  assembly : Option String
  /-- The configuration file. -/
  config : Option String
  /-- Whether the run tells more. -/
  verbose : Bool
  /-- Whether help is asked for. -/
  help : Bool
deriving DecidableEq, Repr, Inhabited

namespace Arguments

/-- What an empty command line says. -/
def blank : Arguments :=
  ⟨[], [], [], none, none, false, none, none, none, none, false, false⟩

/-- Adds a header. -/
def addHeader (a : Arguments) (header : String) : Arguments :=
  { a with headers := a.headers ++ [header] }

/-- Sets an option without value. -/
def setFlag (a : Arguments) : Switch → Arguments
  | .debug => { a with debug := true }
  | .verbose => { a with verbose := true }
  | .help => { a with help := true }
  | _ => a

/-- Sets an option with its value. -/
def setValue (a : Arguments) (s : Switch) (v : String) : Arguments :=
  match s with
  | .define => { a with defines := a.defines ++ [v] }
  | .includeDir => { a with includeDirs := a.includeDirs ++ [v] }
  | .namespaceName => { a with namespaceName := some v }
  | .outputDir => { a with outputDir := some v }
  | .library => { a with library := some v }
  | .template => { a with template := some v }
  | .assembly => { a with assembly := some v }
  | .config => { a with config := some v }
  | _ => a

/-- A long option, whose value is behind its equals sign, or else the next argument. Also tells
whether the next argument was used. -/
def readLong (a : Arguments) (word : List Char) (next : Option String) :
    Except UsageFault (Arguments × Bool) :=
  let name := word.takeWhile (· ≠ '=')
  let given : Option String :=
    if word.contains '=' then some (String.ofList (word.drop (name.length + 1))) else none
  let option := "--" ++ String.ofList name
  match Switch.ofWord? (String.ofList name) with
  | none => .error .unknown
  | some s =>
    if s.takesValue then
      match given, next with
      | some v, _ => .ok (a.setValue s v, false)
      | none, some v => .ok (a.setValue s v, true)
      | none, none => .error (.needsValue option)
    else
      match given with
      | some _ => .error (.refusesValue option)
      | none => .ok (a.setFlag s, false)

/-- Joined short options; the first that takes a value has what follows it, or else the next
argument. Also tells whether the next argument was used. -/
def readShort (a : Arguments) (next : Option String) :
    List Char → Except UsageFault (Arguments × Bool)
  | [] => .ok (a, false)
  | c :: cs =>
    match Switch.ofLetter? c with
    | none => .error .unknown
    | some s =>
      if !s.takesValue then readShort (a.setFlag s) next cs
      else if !cs.isEmpty then .ok (a.setValue s (String.ofList cs), false)
      else
        match next with
        | some v => .ok (a.setValue s v, true)
        | none => .error (.needsValue (String.ofList ['-', c]))

/-- One argument; `next` is the one after it, if there is one. Tells whether that one was used. -/
def readOne (a : Arguments) (arg : String) (next : Option String) :
    Except UsageFault (Arguments × Bool) :=
  match arg.toList with
  | '-' :: '-' :: word => a.readLong word next
  | '-' :: c :: cs => a.readShort next (c :: cs)
  | _ => .ok (a.addHeader arg, false)

/-- Arguments after those that `a` says. -/
def readMore (a : Arguments) : List String → Except UsageFault Arguments
  | [] => .ok a
  | "--" :: rest => .ok (rest.foldl addHeader a)
  | [arg] => (a.readOne arg none).map (·.1)
  | arg :: next :: rest =>
    match a.readOne arg (some next) with
    | .error f => .error f
    | .ok (a, true) => readMore a rest
    | .ok (a, false) => readMore a (next :: rest)

/-- What arguments say. -/
def ofList (args : List String) : Except UsageFault Arguments :=
  blank.readMore args

end Arguments

end Bindery
