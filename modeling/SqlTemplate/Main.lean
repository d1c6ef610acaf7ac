import SqlTemplate.CommandLine.Run

/-! The program: what it reads, and where its text goes. -/

namespace SqlTemplate.CommandLine

def flawOf : IO.Error → FileFlaw
  | .permissionDenied .. => .forbidden
  | .inappropriateType .. => .directory
  | _ => .missing

def readText (path : String) : IO (Except FileFlaw String) := do
  try
    match String.fromUTF8? (← IO.FS.readBinFile path) with
    | some text => pure (.ok text)
    | none => pure (.error .notText)
  catch e => pure (.error (flawOf e))

def namesIn (text : String) : List String :=
  ((text.toList.map fun c => if Text.isAsciiWord c then c else ' ') |> Text.words).map
    String.ofList

def variablesFor (texts : List String) : IO (List (String × String)) := do
  let mut environment := []
  for name in "DATABASE_URL" :: texts.flatMap namesIn do
    if let some value ← IO.getEnv name then
      environment := Keyed.insert name value environment
  pure environment

def eventLine (event : LogEvent) : String :=
  event.level.word ++ " " ++ event.target ++ ": " ++
    String.intercalate " " (event.fields.map fun (name, text) => name ++ "=" ++ text)

def surroundingsFor (arguments : List String) : IO (Surroundings (List LogEvent)) := do
  let paths := match Command.read arguments with
    | .ok command => Surroundings.envFile :: command.files
    | .error _ => [Surroundings.envFile]
  let mut contents := []
  for path in paths do
    contents := (path, ← readText path) :: contents
  let texts := contents.filterMap fun (_, content) => content.toOption
  let environment ← variablesFor texts
  pure {
    file := fun path => ((contents.lookup path).getD (.error .missing))
    environment
    connect := fun _ => pure (.error "error connecting to server")
    emit := fun event => modify (· ++ [event]) }

end SqlTemplate.CommandLine

open SqlTemplate.CommandLine in
def main (arguments : List String) : IO UInt32 := do
  let (transcript, events) := (run (← surroundingsFor arguments) arguments).run []
  for event in events do
    IO.eprintln (eventLine event)
  IO.print transcript.out
  IO.eprint transcript.err
  match transcript.failure with
  | none => pure 0
  | some failure =>
    IO.eprintln failure.message
    pure 1
