import SqlTemplate.Proofs.CommandLine.Joined

/-!
The arguments of `run` as they are written: a file, and the options with their values in any order.
They are read as what they were written for. What an option takes for its value is not looked at,
even if it looks like an option.
-/

namespace SqlTemplate.CommandLine

inductive Group
  | file (path : String)
  | config (path : String)
  | database (url : String)
  | arg (name text : String)
  deriving DecidableEq

namespace Group

def tokens : Group → List String
  | file path => [path]
  | config path => ["--config", path]
  | database url => ["--database", url]
  | arg name text => ["--arg", name ++ "=" ++ text]

def file? : Group → Option String
  | file path => some path
  | _ => none

def config? : Group → Option String
  | config path => some path
  | _ => none

def database? : Group → Option String
  | database url => some url
  | _ => none

def arg? : Group → Option (String × String)
  | arg name text => some (name, text)
  | _ => none

def Plain : Group → Prop
  | file path => isOption path = false
  | arg name _ => IsName name
  | _ => True

def addTo (draft : RunDraft) : Group → RunDraft
  | file path => { draft with file := some path }
  | config path => { draft with config := some path }
  | database url => { draft with database := some url }
  | arg name text => { draft with args := draft.args ++ [(name, text)] }

end Group

/-- The groups of a run: its file, what was named of the rest, and its arguments. -/
def groupsOf (file : String) (config database : Option String) (args : List (String × String)) :
    List Group :=
  .file file :: ((config.map .config).toList ++ ((database.map .database).toList ++
    args.map fun (name, text) => .arg name text))

theorem readRun_group {group : Group} (plain : group.Plain) {draft : RunDraft}
    (single : group.file?.isSome → draft.file = none) (rest : List String) :
    readRun draft (group.tokens ++ rest) = readRun (group.addTo draft) rest := by
  cases group with
  | file path =>
      have nameless : draft.file = none := single rfl
      change readRun draft (path :: rest) = _
      rw [readRun_plain plain, nameless]
      rfl
  | config path => exact readRun_word draft .config path rest
  | database url => exact readRun_word draft .database url rest
  | arg name text =>
      have read := readRun_word draft .arg (name ++ "=" ++ text) rest
      rw [RunDraft.set, readArgument_eq plain] at read
      exact read

/-- What is known of a run and what groups add to it are a file, and a configuration and a database
if they are named. -/
structure Amounts (draft : RunDraft) (groups : List Group) (file : String)
    (config database : Option String) : Prop where
  file : draft.file.toList ++ groups.filterMap Group.file? = [file]
  config : draft.config.toList ++ groups.filterMap Group.config? = config.toList
  database : draft.database.toList ++ groups.filterMap Group.database? = database.toList

theorem eq_none_of_named {known whole : Option String} {value : String} {later : List String}
    (once : known.toList ++ value :: later = whole.toList) : known = none := by
  have count := congrArg List.length once
  cases known with
  | none => rfl
  | some first => cases whole <;> simp at count

section

variable {group : Group} {groups : List Group} {draft : RunDraft} {file : String}
  {config database : Option String}

theorem Amounts.step (amounts : Amounts draft (group :: groups) file config database) :
    (group.file?.isSome → draft.file = none) ∧
      Amounts (group.addTo draft) groups file config database := by
  obtain ⟨one, two, three⟩ := amounts
  cases group with
  | file path =>
      have unknown : draft.file = none := @eq_none_of_named _ (some file) path _ one
      rw [unknown] at one
      exact ⟨fun _ => unknown, one, two, three⟩
  | config path =>
      rw [eq_none_of_named two] at two
      exact ⟨nofun, one, two, three⟩
  | database url =>
      rw [eq_none_of_named three] at three
      exact ⟨nofun, one, two, three⟩
  | arg name text => exact ⟨nofun, one, two, three⟩

@[simp] theorem addTo_args : (group.addTo draft).args = draft.args ++ group.arg?.toList := by
  cases group <;> simp [Group.addTo, Group.arg?]

theorem readRun_groups (plain : ∀ group ∈ groups, group.Plain)
    (amounts : Amounts draft groups file config database) :
    readRun draft (groups.flatMap Group.tokens) =
      .ok (.run ⟨file, config.getD RunDraft.usualConfig, config.isSome, database,
        draft.args ++ groups.filterMap Group.arg?⟩) := by
  induction groups generalizing draft with
  | nil =>
      obtain ⟨one, two, three⟩ := amounts
      have known : draft.file = some file := by
        simpa using one
      have same : draft.config = config := by
        simpa using congrArg List.head? two
      have same' : draft.database = database := by
        simpa using congrArg List.head? three
      simp [readRun, RunDraft.finish, requireFile, known, same, same', bind, Except.bind]
  | cons group groups ih =>
      obtain ⟨here, later⟩ := List.forall_mem_cons.mp plain
      obtain ⟨single, left⟩ := amounts.step
      rw [List.flatMap_cons, readRun_group here single, ih later left, addTo_args]
      cases group <;> simp [Group.arg?, List.filterMap_cons]

end

theorem filterMap_args {read : Group → Option String}
    (others : ∀ name text, read (.arg name text) = none) (args : List (String × String)) :
    (args.map fun (name, text) => Group.arg name text).filterMap read = [] := by
  rw [List.filterMap_eq_nil_iff]
  intro group member
  obtain ⟨⟨name, text⟩, _, rfl⟩ := List.mem_map.mp member
  exact others name text

theorem amounts_groupsOf (file : String) (config database : Option String)
    (args : List (String × String)) :
    Amounts .empty (groupsOf file config database args) file config database := by
  have files := @filterMap_args Group.file? (fun _ _ => rfl) args
  have configs := @filterMap_args Group.config? (fun _ _ => rfl) args
  have databases := @filterMap_args Group.database? (fun _ _ => rfl) args
  constructor <;> cases config <;> cases database <;>
    simp [groupsOf, RunDraft.empty, List.filterMap_cons, files, configs,
      databases, Group.file?, Group.config?, Group.database?]

theorem plain_of_mem_groupsOf {file : String} (plain : isOption file = false)
    {config database : Option String} {args : List (String × String)}
    (named : ∀ arg ∈ args, IsName arg.1) :
    ∀ group ∈ groupsOf file config database args, group.Plain := by
  simp only [groupsOf, List.mem_cons, List.mem_append, Option.mem_toList, Option.map_eq_some_iff,
    List.mem_map]
  rintro group (rfl | ⟨path, _, rfl⟩ | ⟨url, _, rfl⟩ | ⟨arg, member, rfl⟩)
  · exact plain
  · trivial
  · trivial
  · exact named arg member

theorem filterMap_of_perm {read : Group → Option String} {groups groups' : List Group}
    {whole : Option String} (once : groups.filterMap read = whole.toList)
    (shuffled : groups'.Perm groups) : groups'.filterMap read = whole.toList := by
  have alike := shuffled.filterMap read
  rw [once] at alike
  cases whole with
  | none => exact List.perm_nil.mp alike
  | some value => exact List.perm_singleton.mp alike

theorem Amounts.perm {groups groups' : List Group} {file : String} {config database : Option String}
    (amounts : Amounts .empty groups file config database) (shuffled : groups'.Perm groups) :
    Amounts .empty groups' file config database where
  file := @filterMap_of_perm _ _ _ (some file) amounts.file shuffled
  config := filterMap_of_perm amounts.config shuffled
  database := filterMap_of_perm amounts.database shuffled

/-- The arguments of a run are read as what they were written for, in whatever order its file and
its options stand. Only the arguments keep theirs. -/
theorem read_written {file : String} (plain : isOption file = false)
    (config database : Option String) {args : List (String × String)}
    (named : ∀ arg ∈ args, IsName arg.1) {groups : List Group}
    (shuffled : groups.Perm (groupsOf file config database args))
    (ordered : groups.filterMap Group.arg? = args) :
    Command.read ("run" :: groups.flatMap Group.tokens) =
      .ok (.run ⟨file, config.getD RunDraft.usualConfig, config.isSome, database, args⟩) := by
  have readable : ∀ group ∈ groups, group.Plain := fun group member =>
    plain_of_mem_groupsOf plain named group (shuffled.mem_iff.mp member)
  have amounts := (amounts_groupsOf file config database args).perm shuffled
  change readRun .empty (groups.flatMap Group.tokens) = _
  rw [readRun_groups readable amounts, ordered]
  rfl

/-- Values that look like options or help, or are empty, and names that are used twice. -/
theorem read_written_options :
    isOption "" = false ∧
      Command.read ["run", "--arg", "a=--help", "--database", "--config=x", "", "--config", "--arg",
          "--arg", "b b==", "--arg", "a="] =
        .ok (.run ⟨"", "--arg", true, some "--config=x", [("a", "--help"), ("b b", "="),
          ("a", "")]⟩) := by
  have named : ∀ arg ∈ [("a", "--help"), ("b b", "="), ("a", "")], IsName arg.1 := by
    have first : IsName "a" := ⟨by decide, by decide, by decide, by decide⟩
    have second : IsName "b b" := ⟨by decide, by decide, by decide, by decide⟩
    simp [first, second]
  have plain : isOption "" = false := by decide
  exact ⟨plain, @read_written "" plain (some "--arg") (some "--config=x") _ named
    [.arg "a" "--help", .database "--config=x", .file "", .config "--arg", .arg "b b" "=",
      .arg "a" ""] (by decide) rfl⟩

end SqlTemplate.CommandLine
