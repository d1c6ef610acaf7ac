import SqlTemplate.Error
import SqlTemplate.Text.After
import SqlTemplate.Toml.Reader

/-! Configuration files of the program. -/

namespace SqlTemplate.CommandLine

structure Configuration where
  url : Option String
  level : String
  /-- Whether executed statements are logged whatever the level is. -/
  logsStatements : Bool
  deriving DecidableEq, Repr

namespace Configuration

def usualLevel : String := "warn"

def default : Configuration := ⟨none, usualLevel, false⟩

inductive Flaw
  | malformed
  | unclosedReference (text : String)
  | emptyReference (text : String)
  | unsetVariable (name : String)
  | emptyUrl
  | emptyLevel
  deriving DecidableEq, Repr

def Flaw.message : Flaw → String
  | malformed => "malformed"
  | unclosedReference text => "unterminated `$\x7b` in " ++ Text.quoted text
  | emptyReference text => "empty `$\x7b\x7d` in " ++ Text.quoted text
  | unsetVariable name => "environment variable " ++ name ++ " is not set"
  | emptyUrl => "[database] url is set but empty"
  | emptyLevel => "[log] level is empty"

def hasOnly (names : List String) (entries : List (String × Toml)) : Bool :=
  entries.all fun entry => names.contains entry.1

def string? : Option Toml → Option (Option String)
  | none => some none
  | some (.string s) => some (some s)
  | some _ => none

def boolean? : Option Toml → Option (Option Bool)
  | none => some none
  | some (.boolean b) => some (some b)
  | some _ => none

/-- The URL in the section of the database; the section may be a list of its values. -/
def readDatabase? : Toml → Option (Option String)
  | .table _ entries =>
    if hasOnly ["url"] entries then string? (Keyed.find? "url" entries) else none
  | .list _ (.string url :: _) => some (some url)
  | _ => none

def readLog? (log : Toml) : Option (String × Bool) := do
  let (level, sql) ← match log with
    | .table _ entries =>
      if hasOnly ["level", "sql"] entries then
        some (Keyed.find? "level" entries, Keyed.find? "sql" entries)
      else none
    | .list _ items => some (items[0]?, items[1]?)
    | _ => none
  some ((← string? level).getD usualLevel, (← boolean? sql).getD false)

def ofEntries? (entries : List (String × Toml)) : Option Configuration := do
  if !hasOnly ["database", "log"] entries then none
  else
    let url ← match Keyed.find? "database" entries with
      | some database => readDatabase? database
      | none => some none
    let (level, sql) ← match Keyed.find? "log" entries with
      | some log => readLog? log
      | none => some (usualLevel, false)
    some ⟨url, level, sql⟩

/-- Replaces each reference to a variable by its value, once; `whole` is the text it is part of. -/
def expandIn (lookUp : String → Option String) (whole : String) (text : List Char) :
    Except Flaw (List Char) :=
  match _opened : Text.splitAtFirst? ['$', '\x7b'] text with
  | none => .ok text
  | some (before, reference) =>
    match _closed : Text.splitAtFirst? ['\x7d'] reference with
    | none => .error (.unclosedReference whole)
    | some (name, rest) =>
      if name.isEmpty then .error (.emptyReference whole)
      else
        match lookUp (String.ofList name) with
        | none => .error (.unsetVariable (String.ofList name))
        | some value => do
          let after ← expandIn lookUp whole rest
          .ok (before ++ value.toList ++ after)
termination_by text.length
decreasing_by
  rw [Text.eq_append_of_splitAtFirst? _opened, Text.eq_append_of_splitAtFirst? _closed]
  simp only [List.length_append, List.length_cons, List.length_nil]
  omega

def expand (lookUp : String → Option String) (text : String) : Except Flaw String :=
  (expandIn lookUp text text.toList).map String.ofList

def expandIfAny (lookUp : String → Option String) :
    Option String → Except Flaw (Option String)
  | some text => (expand lookUp text).map some
  | none => .ok none

def isBlankText (text : String) : Bool :=
  (Text.trim text.toList).isEmpty

def check (configuration : Configuration) : Except Flaw Configuration :=
  if configuration.url.any isBlankText then .error .emptyUrl
  else if isBlankText configuration.level then .error .emptyLevel
  else .ok configuration

def read (lookUp : String → Option String) (text : String) : Except Flaw Configuration := do
  let written ← match (Toml.read? text).bind ofEntries? with
    | some written => .ok written
    | none => .error .malformed
  let url ← expandIfAny lookUp written.url
  let level ← expand lookUp written.level
  check { written with url, level }

inductive LoadError
  | unreadable (path : String) (flaw : FileFlaw)
  | invalid (path : String) (flaw : Flaw)
  deriving DecidableEq, Repr

def LoadError.message : LoadError → String
  | unreadable path flaw => "cannot read " ++ path ++ ": " ++ flaw.message
  | invalid path flaw => "invalid config " ++ path ++ ": " ++ flaw.message

def load (lookUp : String → Option String) (path : String) (required : Bool)
    (content : Except FileFlaw String) : Except LoadError Configuration :=
  match content with
  | .ok text =>
    match read lookUp text with
    | .ok configuration => .ok configuration
    | .error flaw => .error (.invalid path flaw)
  | .error flaw =>
    if !flaw.isThere ∧ !required then .ok default else .error (.unreadable path flaw)

end Configuration

end SqlTemplate.CommandLine
