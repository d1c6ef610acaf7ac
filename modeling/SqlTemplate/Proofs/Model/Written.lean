import SqlTemplate.Model.Command
import SqlTemplate.Proofs.Ident
import SqlTemplate.Proofs.Keyed

/-!
The statements that write rows, as texts of a table, a key and columns with the numbers of their
markers. What a command is built to say is one of these, and its parameters follow the numbers.
-/

namespace SqlTemplate.Written

/-- Names with the numbers of their markers, which count from `first`. -/
def numbered (first : Nat) (names : List String) : List (String × Nat) :=
  names.zipIdx first

def marker (number : Nat) : String := "$" ++ toString number

def insertText (table : String) (columns : List (String × Nat)) : String :=
  if columns.isEmpty then "INSERT INTO " ++ table ++ " DEFAULT VALUES RETURNING *"
  else
    "INSERT INTO " ++ table ++ " (" ++ ", ".intercalate (columns.map Prod.fst) ++
      ") VALUES (" ++ ", ".intercalate (columns.map fun column => marker column.2) ++
      ") RETURNING *"

def updateText (table key : String) (columns : List (String × Nat)) : String :=
  "UPDATE " ++ table ++ " SET " ++
    ", ".intercalate (columns.map fun column => column.1 ++ " = " ++ marker column.2) ++
    " WHERE " ++ key ++ " = " ++ marker 1 ++ " RETURNING *"

def deleteText (table key : String) : String :=
  "DELETE FROM " ++ table ++ " WHERE " ++ key ++ " = " ++ marker 1

/-- Columns and markers line up with what is bound: what stands at a marker is the column whose name
and whose value in the bag have the place that the marker counts to. -/
def LinesUp (data : Args) (columns : List (String × Nat)) (names : List String)
    (values : List Value) : Prop :=
  ∀ column number, (column, number) ∈ columns → names[number - 1]? = some column ∧
    ∃ value, data.get? column = some value ∧ values[number - 1]? = some value

@[simp] theorem names_numbered (first : Nat) (names : List String) :
    (numbered first names).map Prod.fst = names :=
  List.zipIdx_map_fst first names

@[simp] theorem numbers_numbered (first : Nat) (names : List String) :
    (numbered first names).map Prod.snd = List.range' first names.length :=
  List.zipIdx_map_snd first names

theorem linesUp_columns (data : Args) :
    LinesUp data (numbered 1 data.names) data.names data.values := by
  intro column number member
  have there := (List.mk_mem_zipIdx_iff_le_and_getElem?_sub.mp member).2
  exact ⟨there, Args.value_of_name there⟩

theorem linesUp_after_key (data : Args) (key : String) (id : Value) :
    LinesUp data (numbered 2 data.names) (key :: data.names) (id :: data.values) := by
  intro column number member
  obtain ⟨above, there⟩ := List.mk_mem_zipIdx_iff_le_and_getElem?_sub.mp member
  obtain ⟨place, rfl⟩ := Nat.exists_eq_add_of_le above
  -- The column at `place` is bound behind the key, and its marker counts from one.
  rw [Nat.add_sub_cancel_left] at there
  obtain ⟨value, found, atPlace⟩ := Args.value_of_name there
  have shift : 2 + place - 1 = place + 1 := by omega
  rw [shift, List.getElem?_cons_succ, List.getElem?_cons_succ]
  exact ⟨there, value, found, atPlace⟩

def Faithful (slots : List Assignment) : Prop :=
  ∀ slot ∈ slots, slot.column.text = slot.name.toList

@[simp]
theorem toList_marker (number : Nat) : (marker number).toList = Statement.marker number := by
  simp [marker, Statement.marker, Number.digits, Nat.toString_eq_repr, Nat.toList_repr]

theorem commaSeparated_eq (texts : List String) :
    Command.commaSeparated (texts.map String.toList) = (", ".intercalate texts).toList := by
  rw [String.toList_intercalate]
  rfl

theorem columnTexts_eq {slots : List Assignment} (faithful : Faithful slots) :
    slots.map (fun slot => slot.column.text) =
      (slots.map Assignment.name).map String.toList := by
  rw [List.map_map]
  exact List.map_congr_left faithful

theorem markers_eq (first : Nat) (slots : List Assignment) :
    Command.markers first slots =
      ((numbered first (slots.map Assignment.name)).map fun column =>
        marker column.2).map String.toList := by
  induction slots generalizing first with
  | nil => rfl
  | cons slot rest ih =>
      rw [Command.markers, ih]
      simp [numbered, List.zipIdx_cons]

theorem settings_eq {slots : List Assignment} (faithful : Faithful slots) (first : Nat) :
    Command.settings first slots =
      ((numbered first (slots.map Assignment.name)).map fun column =>
        column.1 ++ " = " ++ marker column.2).map String.toList := by
  induction slots generalizing first with
  | nil => rfl
  | cons slot rest ih =>
      obtain ⟨here, later⟩ := List.forall_mem_cons.mp faithful
      rw [Command.settings, ih later, here]
      simp [numbered, List.zipIdx_cons]

@[simp] theorem insertText_nil (table : String) : insertText table [] =
    "INSERT INTO " ++ table ++ " DEFAULT VALUES RETURNING *" := if_pos rfl

theorem insertText_of_ne_nil {table : String} {columns : List (String × Nat)}
    (filled : columns ≠ []) : insertText table columns =
      "INSERT INTO " ++ table ++ " (" ++ ", ".intercalate (columns.map Prod.fst) ++
        ") VALUES (" ++ ", ".intercalate (columns.map fun column => marker column.2) ++
        ") RETURNING *" := if_neg (by simpa using filled)

theorem insertedText_of_ne_nil {slots : List Assignment} (filled : slots ≠ []) :
    Command.insertedText slots =
      '(' :: (Command.commaSeparated (slots.map fun slot => slot.column.text) ++
        ") VALUES (".toList ++ Command.commaSeparated (Command.markers 1 slots) ++ [')']) := by
  cases slots with
  | nil => exact absurd rfl filled
  | cons slot rest => rfl

theorem insert_text {table : Ident} {slots : List Assignment} (faithful : Faithful slots) :
    String.ofList (Command.insert table slots).text =
      insertText (String.ofList table.text) (numbered 1 (slots.map Assignment.name)) := by
  by_cases empty : slots = []
  · have blank : ' ' :: ("DEFAULT VALUES".toList ++ " RETURNING *".toList) =
        " DEFAULT VALUES RETURNING *".toList := by decide +kernel
    subst empty
    rw [List.map_nil, numbered, List.zipIdx_nil, insertText_nil, ← String.toList_inj]
    simp only [String.toList_append, String.toList_ofList]
    unfold Command.insert Command.insertedText
    rw [blank]
  · have opening : " (".toList = [' ', '('] := by decide +kernel
    have closing : ") RETURNING *".toList = ')' :: " RETURNING *".toList := by decide +kernel
    have filled : numbered 1 (slots.map Assignment.name) ≠ [] := by
      simpa [numbered] using empty
    rw [insertText_of_ne_nil filled, names_numbered, ← String.toList_inj]
    unfold Command.insert
    rw [insertedText_of_ne_nil empty, columnTexts_eq faithful, markers_eq, commaSeparated_eq,
      commaSeparated_eq]
    simp only [String.toList_append, String.toList_ofList, opening, closing, List.append_assoc,
      List.cons_append, List.nil_append]

theorem update_text {table : Ident} {key : Assignment} {slots : List Assignment}
    (faithful : Faithful slots) :
    String.ofList (Command.update table key slots).text =
      updateText (String.ofList table.text) (String.ofList key.column.text)
        (numbered 2 (slots.map Assignment.name)) := by
  have first : " = $1 RETURNING *".toList = " = ".toList ++ (marker 1).toList ++
      " RETURNING *".toList := by decide +kernel
  rw [← String.toList_inj]
  unfold Command.update updateText
  rw [settings_eq faithful, commaSeparated_eq, first]
  simp only [String.toList_append, String.toList_ofList, List.append_assoc]

theorem delete_text (table : Ident) (key : Assignment) :
    String.ofList (Command.delete table key).text =
      deleteText (String.ofList table.text) (String.ofList key.column.text) := by
  have last : " = $1".toList = " = ".toList ++ (marker 1).toList := by decide +kernel
  rw [← String.toList_inj]
  unfold Command.delete deleteText
  rw [last]
  simp only [String.toList_append, String.toList_ofList, List.append_assoc]

end SqlTemplate.Written
