import DraftNits.Options

/-! # Arguments of the command line

Arguments are read from left to right. Options may stand anywhere before `--`, short flags may
share a hyphen, and the value of an option may follow it or be attached to it. No option may be
given twice. The mode comes from the option, else from the environment, else it is the normal one.
The first thing that is wrong ends the reading, and so does a request for the version. -/

namespace DraftNits.CommandLine

/-- How reports are written. -/
inductive OutputFormat
  /-- As text. -/
  | text
  /-- As JSON. -/
  | json
  deriving DecidableEq, Repr, Inhabited

/-- The output format of a name. -/
def OutputFormat.ofName? : String → Option OutputFormat
  | "text" => some .text
  | "json" => some .json
  | _ => none

/-- What the arguments ask for. -/
structure Arguments where
  /-- Whether progress is logged. -/
  debug : Bool
  /-- Whether the rules are listed. -/
  list : Bool
  /-- Whether every nit is shown. -/
  verbose : Bool
  /-- The mode, if it is given. -/
  mode : Option Mode
  /-- The output format, if it is given. -/
  output : Option OutputFormat
  /-- The documents in order. -/
  documents : List String
  deriving DecidableEq, Repr

/-- Arguments that ask for nothing. -/
def Arguments.empty : Arguments := ⟨false, false, false, none, none, []⟩

/-- A reason why arguments cannot be followed. -/
inductive UsageError
  /-- An option that does not exist. -/
  | unknownOption (option : String)
  /-- An option that is given twice. -/
  | repeatedOption (option : String)
  /-- An option without its value. -/
  | missingValue (option : String)
  /-- A flag with a value. -/
  | unexpectedValue (option : String)
  /-- A value that its option does not take. -/
  | invalidValue (option value : String)
  /-- No document to check. -/
  | noDocument
  deriving DecidableEq, Repr

/-- The message of an error. -/
def UsageError.message : UsageError → String
  | .unknownOption option => "unexpected argument '" ++ option ++ "' found"
  | .repeatedOption option => "the argument '" ++ option ++ "' cannot be used multiple times"
  | .missingValue option => "a value is required for '" ++ option ++ "' but none was supplied"
  | .unexpectedValue option => "unexpected value for '" ++ option ++ "' found"
  | .invalidValue option value => "invalid value '" ++ value ++ "' for '" ++ option ++ "'"
  | .noDocument => "the following required arguments were not provided: <DOC>..."

/-- Why the reading of arguments ends early. -/
inductive Stop
  /-- The version is asked for. -/
  | version
  /-- The usage is asked for. -/
  | help
  /-- Something is wrong. -/
  | error (error : UsageError)
  deriving DecidableEq, Repr

/-! ## Options -/

/-- The options of the command line. -/
inductive Switch
  /-- `-d`, `--debug`. -/
  | debug
  /-- `-l`, `--list`. -/
  | list
  /-- `-v`, `--verbose`. -/
  | verbose
  /-- `-m`, `--mode`. -/
  | mode
  /-- `--output`. -/
  | output
  /-- `-V`, `--version`. -/
  | version
  /-- `-h`, `--help`. -/
  | help
  deriving DecidableEq, Repr

namespace Switch

/-- The option of a long name. -/
def ofLong? : String → Option Switch
  | "debug" => some .debug
  | "list" => some .list
  | "verbose" => some .verbose
  | "mode" => some .mode
  | "output" => some .output
  | "version" => some .version
  | "help" => some .help
  | _ => none

/-- The option of a letter. -/
def ofLetter? : Char → Option Switch
  | 'd' => some .debug
  | 'l' => some .list
  | 'v' => some .verbose
  | 'm' => some .mode
  | 'V' => some .version
  | 'h' => some .help
  | _ => none

/-- The option as it is written. -/
def name : Switch → String
  | .debug => "--debug"
  | .list => "--list"
  | .verbose => "--verbose"
  | .mode => "--mode"
  | .output => "--output"
  | .version => "--version"
  | .help => "--help"

/-- Whether an option takes a value. -/
def takesValue : Switch → Bool
  | .mode | .output => true
  | _ => false

end Switch

namespace Arguments

/-- The arguments after a flag. -/
def setFlag (arguments : Arguments) (switch : Switch) : Except Stop Arguments :=
  match switch with
  | .debug =>
    if arguments.debug then .error (.error (.repeatedOption switch.name))
    else .ok { arguments with debug := true }
  | .list =>
    if arguments.list then .error (.error (.repeatedOption switch.name))
    else .ok { arguments with list := true }
  | .verbose =>
    if arguments.verbose then .error (.error (.repeatedOption switch.name))
    else .ok { arguments with verbose := true }
  | .version => .error .version
  | .help => .error .help
  | .mode | .output => .error (.error (.missingValue switch.name))

/-- The arguments after an option with a value. -/
def setValue (arguments : Arguments) (switch : Switch) (value : String) : Except Stop Arguments :=
  match switch with
  | .mode =>
    match arguments.mode, Mode.ofText value with
    | some _, _ => .error (.error (.repeatedOption switch.name))
    | none, .ok mode => .ok { arguments with mode := some mode }
    | none, .error _ => .error (.error (.invalidValue switch.name value))
  | .output =>
    match arguments.output, OutputFormat.ofName? value with
    | some _, _ => .error (.error (.repeatedOption switch.name))
    | none, some output => .ok { arguments with output := some output }
    | none, none => .error (.error (.invalidValue switch.name value))
  | _ => .error (.error (.unexpectedValue switch.name))

/-- The arguments after the name of a document, which may not be empty. -/
def addDocument (arguments : Arguments) (document : String) : Except Stop Arguments :=
  if document = "" then .error (.error (.invalidValue "<DOC>" document))
  else .ok { arguments with documents := arguments.documents ++ [document] }

end Arguments

/-! ## Reading -/

/-- Whether an argument is the name of an option rather than a value. -/
def looksLikeOption : List Char → Bool
  | '-' :: _ :: _ => true
  | _ => false

/-- What is read of an argument: the arguments, and the option whose value the next argument
is. -/
abbrev Step := Except Stop (Arguments × Option Switch)

/-- The arguments after an option `--name` or `--name=value`. -/
def readLong (arguments : Arguments) (cs : List Char) : Step :=
  let name := cs.takeWhile (· != '=')
  match Switch.ofLong? (String.ofList name) with
  | none => .error (.error (.unknownOption (String.ofList ('-' :: '-' :: name))))
  | some switch =>
    match cs.drop name.length with
    | [] =>
      if switch.takesValue then .ok (arguments, some switch)
      else (arguments.setFlag switch).map fun arguments => (arguments, none)
    | _ :: value =>
      (arguments.setValue switch (String.ofList value)).map fun arguments => (arguments, none)

/-- The arguments after letters that share a hyphen. An option with a value takes the letters after
it, an equals sign between them left aside. -/
def readLetters (arguments : Arguments) : List Char → Step
  | [] => .ok (arguments, none)
  | c :: cs =>
    match Switch.ofLetter? c with
    | none => .error (.error (.unknownOption (String.ofList ['-', c])))
    | some switch =>
      if switch.takesValue then
        match cs with
        | [] => .ok (arguments, some switch)
        | '=' :: value =>
          (arguments.setValue switch (String.ofList value)).map fun arguments => (arguments, none)
        | value =>
          (arguments.setValue switch (String.ofList value)).map fun arguments => (arguments, none)
      else
        match arguments.setFlag switch with
        | .error stop => .error stop
        | .ok arguments => readLetters arguments cs

/-- The arguments after one more argument before `--`. -/
def readArgument (arguments : Arguments) (argument : String) : Step :=
  match argument.toList with
  | '-' :: '-' :: name => readLong arguments name
  | '-' :: c :: cs => readLetters arguments (c :: cs)
  | _ => (arguments.addDocument argument).map fun arguments => (arguments, none)

/-- The arguments after the names of documents. -/
def readDocuments (arguments : Arguments) : List String → Except Stop Arguments
  | [] => .ok arguments
  | document :: rest =>
    match arguments.addDocument document with
    | .error stop => .error stop
    | .ok arguments => readDocuments arguments rest

/-- The arguments after a list of arguments, of which the first is the value of `pending`. -/
def readAll (arguments : Arguments) (pending : Option Switch) :
    List String → Except Stop Arguments
  | [] =>
    match pending with
    | some switch => .error (.error (.missingValue switch.name))
    | none => .ok arguments
  | argument :: rest =>
    match pending with
    | some switch =>
      if looksLikeOption argument.toList then .error (.error (.missingValue switch.name))
      else
        match arguments.setValue switch argument with
        | .error stop => .error stop
        | .ok arguments => readAll arguments none rest
    | none =>
      if argument = "--" then readDocuments arguments rest
      else
        match readArgument arguments argument with
        | .error stop => .error stop
        | .ok (arguments, pending) => readAll arguments pending rest

/-- The mode of the arguments, or else of the environment. -/
def modeOf (arguments : Arguments) (environment : Option String) : Except Stop Mode :=
  match arguments.mode, environment with
  | some mode, _ => .ok mode
  | none, none => .ok .normal
  | none, some text =>
    match Mode.ofText text with
    | .ok mode => .ok mode
    | .error _ => .error (.error (.invalidValue Switch.mode.name text))

/-- What a run is to do. -/
structure Request where
  /-- Whether the rules are listed. -/
  list : Bool
  /-- The options. -/
  options : Options
  /-- The output format. -/
  output : OutputFormat
  /-- The documents in order. -/
  documents : List String
  deriving DecidableEq, Repr

/-- What a run is to do, by its arguments and the mode that the environment gives. Without a
document there must be the rules to list. -/
def Request.ofArguments (arguments : List String) (environment : Option String) :
    Except Stop Request :=
  match readAll Arguments.empty none arguments with
  | .error stop => .error stop
  | .ok arguments =>
    match modeOf arguments environment with
    | .error stop => .error stop
    | .ok mode =>
      if arguments.documents.isEmpty && !arguments.list then .error (.error .noDocument)
      else
        .ok ⟨arguments.list, ⟨mode, arguments.verbose, arguments.debug⟩,
          arguments.output.getD .text, arguments.documents⟩

end DraftNits.CommandLine
