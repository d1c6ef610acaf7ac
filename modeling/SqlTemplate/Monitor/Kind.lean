import SqlTemplate.Text.BareWord

/-! The kind of a statement, told from its first keyword. -/

namespace SqlTemplate

inductive StatementKind
  | select
  | insert
  | update
  | delete
  | ddl
  | other
  deriving DecidableEq, Repr

namespace StatementKind

def all : List StatementKind := [select, insert, update, delete, ddl, other]

def rank (kind : StatementKind) : Nat := all.idxOf kind

def word : StatementKind → String
  | select => "select"
  | insert => "insert"
  | update => "update"
  | delete => "delete"
  | ddl => "ddl"
  | other => "other"

def keywords : List (StatementKind × List String) := [
  (select, ["select", "values", "table"]),
  (insert, ["insert"]),
  (update, ["update"]),
  (delete, ["delete"]),
  (ddl, ["create", "alter", "drop", "truncate"])]

def ofKeyword? (word : List Char) : Option StatementKind :=
  (keywords.find? fun entry =>
    entry.2.any fun keyword => keyword.toList == word.map Char.toLower).map Prod.fst

def afterComment : List Char → List Char
  | [] => []
  | '*' :: '/' :: rest => rest
  | _ :: rest => afterComment rest

def afterQuote (quote : Char) : List Char → List Char
  | [] => []
  | c :: rest => if c = quote then rest else afterQuote quote rest

theorem length_afterComment_le (text : List Char) : (afterComment text).length ≤ text.length := by
  fun_induction afterComment text <;> simp_all <;> omega

theorem length_afterQuote_le (quote : Char) (text : List Char) :
    (afterQuote quote text).length ≤ text.length := by
  fun_induction afterQuote quote text <;> simp_all; omega

/-- The words of a text outside comments, quotes and parentheses. Parentheses before the first word
do not count; `started` says whether there was a word, and `depth` how many parentheses are open. -/
def topWords (started : Bool) (depth : Nat) : List Char → List (List Char)
  | [] => []
  | '-' :: '-' :: rest => topWords started depth (rest.dropWhile (· != '\n'))
  | '/' :: '*' :: rest => topWords started depth (afterComment ('*' :: rest))
  | c :: rest =>
    if c = '\'' ∨ c = '"' then topWords started depth (afterQuote c rest)
    else if c = '(' then topWords started (if started then depth + 1 else depth) rest
    else if c = ')' then topWords started (depth - 1) rest
    else if Text.isBareStart c then
      if depth = 0 then
        (c :: rest.takeWhile Text.isBareLater) ::
          topWords true depth (rest.dropWhile Text.isBareLater)
      else topWords started depth (rest.dropWhile Text.isBareLater)
    else topWords started depth rest
termination_by text => text.length
decreasing_by
  · have := (List.dropWhile_sublist (· != '\n') (l := rest)).length_le
    simp only [List.length_cons]
    omega
  · have := length_afterComment_le ('*' :: rest)
    simp only [List.length_cons] at *
    omega
  · have := length_afterQuote_le c rest
    simp only [List.length_cons]
    omega
  · simp
  · simp
  · have := (List.dropWhile_sublist Text.isBareLater (l := rest)).length_le
    simp only [List.length_cons]
    omega
  · have := (List.dropWhile_sublist Text.isBareLater (l := rest)).length_le
    simp only [List.length_cons]
    omega
  · simp

/-- The kind of a statement. After `with` the main statement decides. -/
def ofText (text : List Char) : StatementKind :=
  match topWords false 0 text with
  | [] => other
  | word :: rest =>
    if word.map Char.toLower = "with".toList then (rest.findSome? ofKeyword?).getD select
    else (ofKeyword? word).getD other

end StatementKind

end SqlTemplate
