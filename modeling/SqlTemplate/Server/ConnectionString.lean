import SqlTemplate.Server.Setting
import SqlTemplate.Text.Blank
import SqlTemplate.Text.PercentCode

/-! The settings of a connection as one text: a URL, or keywords with values. -/

namespace SqlTemplate.Server.ConnectionString

def decoded? (text : List Char) : Option String :=
  Text.percentDecodeText? (String.ofList text)

/-- The user and the password before the first `@`, and the text after it. A password need not be
a text. -/
def credentials? (text : List Char) : Option (List Setting × List Char) :=
  match text.dropWhile (· != '@') with
  | [] => some ([], text)
  | _ :: rest => do
    let credentials := text.takeWhile (· != '@')
    let user ← decoded? (credentials.takeWhile (· != ':'))
    match credentials.dropWhile (· != ':') with
    | [] => some ([.other "user" user], rest)
    | _ :: password =>
      let bytes := Text.percentDecode (String.ofList password).toUTF8.toList
      some ([.other "user" user, .password bytes], rest)

/-- A host; one that starts with a slash is a path, which need not be a text. -/
def host? (text : List Char) : Option Setting :=
  match Text.percentDecode (String.ofList text).toUTF8.toList with
  | 0x2F :: _ => some (.host ((decoded? text).getD (String.ofList text)))
  | _ => (decoded? text).map .host

/-- The host and the port of one item of the list of hosts; a host with colons stands in square
brackets. -/
def hostAndPort? : List Char → Option (List Char × List Char)
  | '[' :: rest =>
    match rest.dropWhile (· != ']') with
    | [']'] => some (rest.takeWhile (· != ']'), [])
    | ']' :: ':' :: port => some (rest.takeWhile (· != ']'), port)
    | _ => none
  | text => some (text.takeWhile (· != ':'), (text.dropWhile (· != ':')).drop 1)

def hostSettings? (item : List Char) : Option (List Setting) := do
  let (host, port) ← hostAndPort? item
  let name ← host? host
  let ports ← Setting.read? "port" (← decoded? port)
  some (name :: ports)

def hosts? (text : List Char) : Option (List Setting × List Char) := do
  let isHost := fun c => c != '/' && c != '?'
  let hosts := text.takeWhile isHost
  let rest := text.dropWhile isHost
  if hosts.isEmpty then some ([], rest)
  else some ((← (Text.split ',' hosts).mapM hostSettings?).flatten, rest)

def path? : List Char → Option (List Setting × List Char)
  | '/' :: text => do
    let name := text.takeWhile (· != '?')
    let rest := text.dropWhile (· != '?')
    if name.isEmpty then some ([], rest)
    else some ([.other "dbname" (← decoded? name)], rest)
  | text => some ([], text)

def parameter? (key value : List Char) : Option (List Setting) := do
  let key ← decoded? key
  if key = "host" then some [← host? value]
  else Setting.read? key (← decoded? value)

/-- The parameters of a URL. A key reaches up to the next equals sign, even past an `&`. -/
def parameters? (text : List Char) : Option (List Setting) :=
  if text.isEmpty then some []
  else
    match _sign : text.dropWhile (· != '=') with
    | [] => none
    | _ :: rest => do
      let first ← parameter? (text.takeWhile (· != '=')) (rest.takeWhile (· != '&'))
      let others ← parameters? ((rest.dropWhile (· != '&')).drop 1)
      some (first ++ others)
termination_by text.length
decreasing_by
  have afterSign := (List.dropWhile_sublist (· != '=') (l := text)).length_le
  have afterValue := (List.dropWhile_sublist (· != '&') (l := rest)).length_le
  simp only [_sign, List.length_cons, List.length_drop] at *
  omega

def ofUrl? (text : List Char) : Option (List Setting) := do
  let (credentials, rest) ← credentials? text
  let (hosts, rest) ← hosts? rest
  let (name, rest) ← path? rest
  let parameters ← parameters? (rest.drop 1)
  some (credentials ++ hosts ++ name ++ parameters)

/-- Reads up to an end; the character after a backslash is taken as it is. -/
def unescape (isEnd : Char → Bool) : List Char → List Char × List Char
  | [] => ([], [])
  | ['\\'] => ([], [])
  | '\\' :: c :: rest => ((c :: (unescape isEnd rest).1), (unescape isEnd rest).2)
  | c :: rest =>
    if isEnd c then ([], c :: rest)
    else ((c :: (unescape isEnd rest).1), (unescape isEnd rest).2)

theorem length_unescape_le (isEnd : Char → Bool) (text : List Char) :
    (unescape isEnd text).2.length ≤ text.length := by
  fun_induction unescape isEnd text <;> simp_all <;> omega

/-- A value, in single quotes or up to white space; one without quotes is not empty. -/
def value? : List Char → Option (List Char × List Char)
  | '\'' :: text =>
    match unescape (· == '\'') text with
    | (value, '\'' :: rest) => some (value, rest)
    | _ => none
  | text =>
    match unescape Text.isBlank text with
    | ([], _) => none
    | (value, rest) => some (value, rest)

theorem length_le_of_value? {text value rest : List Char}
    (found : value? text = some (value, rest)) : rest.length ≤ text.length := by
  unfold value? at found
  split at found
  · rename_i inner
    have bound := length_unescape_le (· == '\'') inner
    split at found
    · rename_i same
      simp only [Option.some.injEq, Prod.mk.injEq] at found
      rw [same] at bound
      simp only [List.length_cons] at *
      rw [← found.2]
      omega
    · simp at found
  · have bound := length_unescape_le Text.isBlank text
    split at found
    · simp at found
    · rename_i same
      simp only [Option.some.injEq, Prod.mk.injEq] at found
      rw [same] at bound
      rw [← found.2]
      exact bound

def isKeywordChar (c : Char) : Bool :=
  !Text.isBlank c && c != '='

/-- The settings of keywords with values. What follows an empty keyword is not read. -/
def ofKeywords? (text : List Char) : Option (List Setting) :=
  let start := Text.trimLeft text
  let keyword := start.takeWhile isKeywordChar
  if keyword.isEmpty then some []
  else
    match _sign : Text.trimLeft (start.dropWhile isKeywordChar) with
    | '=' :: rest =>
      match _found : value? (Text.trimLeft rest) with
      | some (value, later) => do
        let first ← Setting.read? (String.ofList keyword) (String.ofList value)
        let others ← ofKeywords? later
        some (first ++ others)
      | none => none
    | _ => none
termination_by text.length
decreasing_by
  have afterValue := length_le_of_value? _found
  have afterBlanks := (List.dropWhile_sublist Text.isBlank (l := rest)).length_le
  have beforeSign := (List.dropWhile_sublist Text.isBlank
    (l := (Text.trimLeft text).dropWhile isKeywordChar)).length_le
  have afterKeyword :=
    (List.dropWhile_sublist isKeywordChar (l := Text.trimLeft text)).length_le
  have atStart := (List.dropWhile_sublist Text.isBlank (l := text)).length_le
  change (Text.trimLeft ((Text.trimLeft text).dropWhile isKeywordChar)).length ≤ _ at beforeSign
  rw [_sign, List.length_cons] at beforeSign
  simp only [Text.trimLeft] at *
  omega

def malformed : String := "invalid connection string"

def schemes : List String := ["postgres://", "postgresql://"]

def read? (text : String) : Option (List Setting) :=
  match schemes.findSome? fun scheme => Text.after? scheme.toList text.toList with
  | some rest => ofUrl? rest
  | none => ofKeywords? text.toList

/-- Whether settings say where to connect to: by hosts, by addresses or by as many of both, and by
one port or one for each. -/
def isComplete (settings : List Setting) : Bool :=
  let hosts := settings.countP fun setting => setting matches .host _
  let addresses := settings.countP fun setting => setting matches .address _
  let ports := settings.countP fun setting => setting matches .port _
  0 < hosts + addresses && (hosts == 0 || addresses == 0 || hosts == addresses) &&
    (ports ≤ 1 || ports == max hosts addresses)

end SqlTemplate.Server.ConnectionString
