import SqlTemplate.Text.After
import SqlTemplate.Text.Blank

/-! Commands, read off the arguments of a program. -/

namespace SqlTemplate.CommandLine

inductive HelpTopic
  | root
  | compile
  | schema
  | run
  deriving DecidableEq, Repr

structure RunOptions where
  file : String
  config : String
  /-- Whether the configuration was named, so that it has to exist. -/
  configRequired : Bool
  database : Option String
  args : List (String × String)
  deriving DecidableEq, Repr

inductive Command
  | help (topic : HelpTopic)
  | compile (file : String)
  | schema (file : String) (json : Bool)
  | run (options : RunOptions)
  deriving DecidableEq, Repr

def Command.files : Command → List String
  | help _ => []
  | compile file => [file]
  | schema file _ => [file]
  | run options => [options.config, options.file]

inductive UsageError
  | unknownCommand (word : String)
  | unknownOption (token : String)
  | fileMissing (command : String)
  | secondFile (token first : String)
  | valueMissing (option : String)
  | argumentUnsigned (text : String)
  | argumentUnnamed (text : String)
  deriving DecidableEq, Repr

def UsageError.message : UsageError → String
  | unknownCommand word => "unknown command: " ++ word
  | unknownOption token => "unknown option: " ++ token
  | fileMissing command => command ++ " requires a <FILE> argument"
  | secondFile token first =>
    "unexpected argument: " ++ token ++ " (file already set to " ++ first ++ ")"
  | valueMissing option => option ++ " requires a value"
  | argumentUnsigned text => "--arg expects name=value, got: " ++ text
  | argumentUnnamed text => "--arg name must not be empty: " ++ text

def isHelp (token : String) : Bool :=
  token == "-h" || token == "--help"

def isOption (token : String) : Bool :=
  token.toList.head? == some '-'

def setFile (file : Option String) (token : String) : Except UsageError (Option String) :=
  match file with
  | some first => .error (.secondFile token first)
  | none => .ok (some token)

def requireFile (command : String) : Option String → Except UsageError String
  | some file => .ok file
  | none => .error (.fileMissing command)

def readCompile (file : Option String) : List String → Except UsageError Command
  | [] => do .ok (.compile (← requireFile "compile" file))
  | token :: rest =>
    if isHelp token then .ok (.help .compile)
    else if isOption token then .error (.unknownOption token)
    else do readCompile (← setFile file token) rest

def readSchema (file : Option String) (json : Bool) : List String → Except UsageError Command
  | [] => do .ok (.schema (← requireFile "schema" file) json)
  | token :: rest =>
    if isHelp token then .ok (.help .schema)
    else if token = "--json" then readSchema file true rest
    else if isOption token then .error (.unknownOption token)
    else do readSchema (← setFile file token) json rest

inductive ValueOption
  | config
  | database
  | arg
  deriving DecidableEq, Repr

namespace ValueOption

def all : List ValueOption := [config, database, arg]

def word : ValueOption → String
  | config => "--config"
  | database => "--database"
  | arg => "--arg"

def ofWord? (token : String) : Option ValueOption :=
  all.find? fun option => option.word == token

def start (option : ValueOption) : List Char :=
  option.word.toList ++ ['=']

/-- A text without all the starts it begins with. -/
def dropStarts (option : ValueOption) (text : List Char) : List Char :=
  match _found : Text.after? option.start text with
  | some rest => dropStarts option rest
  | none => text
termination_by text.length
decreasing_by
  rw [Text.after?_eq_some_iff.mp _found]
  simp [start]
  omega

def ofToken? (token : String) : Option (ValueOption × String) :=
  (all.find? fun option => Text.beginsWith option.start token.toList).map fun option =>
    (option, String.ofList (option.dropStarts token.toList))

end ValueOption

def readArgument (text : String) : Except UsageError (String × String) :=
  match Text.splitAtFirst? ['='] text.toList with
  | none => .error (.argumentUnsigned text)
  | some (name, value) =>
    let name := Text.trim name
    if name.isEmpty then .error (.argumentUnnamed text)
    else .ok (String.ofList name, String.ofList value)

structure RunDraft where
  file : Option String
  config : Option String
  database : Option String
  args : List (String × String)
  deriving DecidableEq, Repr

namespace RunDraft

def empty : RunDraft := ⟨none, none, none, []⟩

/-- Sets an option; of two values the later counts, except for arguments, which are collected. -/
def set (draft : RunDraft) (option : ValueOption) (value : String) :
    Except UsageError RunDraft :=
  match option with
  | .config => .ok { draft with config := some value }
  | .database => .ok { draft with database := some value }
  | .arg => do
    let argument ← readArgument value
    .ok { draft with args := draft.args ++ [argument] }

def usualConfig : String := "sqlify.toml"

def finish (draft : RunDraft) : Except UsageError Command := do
  .ok (.run {
    file := ← requireFile "run" draft.file
    config := draft.config.getD usualConfig
    configRequired := draft.config.isSome
    database := draft.database
    args := draft.args })

end RunDraft

def readRun (draft : RunDraft) : List String → Except UsageError Command
  | [] => draft.finish
  | token :: rest =>
    if isHelp token then .ok (.help .run)
    else
      match ValueOption.ofWord? token with
      | some option =>
        match rest with
        | [] => .error (.valueMissing option.word)
        | value :: later => do readRun (← draft.set option value) later
      | none =>
        match ValueOption.ofToken? token with
        | some (option, value) => do readRun (← draft.set option value) rest
        | none =>
          if isOption token then .error (.unknownOption token)
          else do
            let file ← setFile draft.file token
            readRun { draft with file } rest

def readHelp : List String → Except UsageError Command
  | [] => .ok (.help .root)
  | "compile" :: _ => .ok (.help .compile)
  | "schema" :: _ => .ok (.help .schema)
  | "run" :: _ => .ok (.help .run)
  | word :: _ => .error (.unknownCommand word)

def Command.read : List String → Except UsageError Command
  | [] => .ok (.help .root)
  | word :: rest =>
    if isHelp word ∨ word = "help" then readHelp rest
    else if word = "compile" then readCompile none rest
    else if word = "schema" then readSchema none false rest
    else if word = "run" then readRun .empty rest
    else .error (.unknownCommand word)

end SqlTemplate.CommandLine
