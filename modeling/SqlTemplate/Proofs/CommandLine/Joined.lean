import SqlTemplate.CommandLine.Command
import SqlTemplate.Proofs.Text.Blank

/-!
The options of `run` that have a value, in one token with it or in two. Both mean the same, unless
the value begins with the option and an equals sign itself: of one token these are all removed.
-/

namespace SqlTemplate.CommandLine

namespace ValueOption

def joined (option : ValueOption) (value : String) : String :=
  option.word ++ "=" ++ value

@[simp] theorem toList_joined (option : ValueOption) (value : String) :
    (option.joined value).toList = option.start ++ value.toList := by
  simp [joined, start]

theorem mem_all (option : ValueOption) : option ∈ all := by
  cases option <;> decide

theorem ofWord?_eq_none_iff {token : String} :
    ofWord? token = none ↔ ∀ option : ValueOption, option.word ≠ token := by
  simp only [ofWord?, List.find?_eq_none, beq_iff_eq]
  exact ⟨fun others option => others option option.mem_all, fun others option _ => others option⟩

@[simp] theorem ofWord?_word (option : ValueOption) : ofWord? option.word = some option := by
  cases option <;> decide

theorem ofToken?_joined (option : ValueOption) (value : String) :
    ofToken? (option.joined value) =
      some (option, String.ofList (option.dropStarts (option.start ++ value.toList))) := by
  rw [ofToken?, toList_joined]
  have found : (all.find? fun other => Text.beginsWith other.start (option.start ++ value.toList)) =
      some option := by
    cases option <;> rfl
  rw [found, Option.map_some]

@[simp] theorem dropStarts_append (option : ValueOption) (text : List Char) :
    option.dropStarts (option.start ++ text) = option.dropStarts text := by
  rw [dropStarts]
  split
  next rest found =>
    rw [Text.after?_append, Option.some.injEq] at found
    rw [found]
  next missing =>
    rw [Text.after?_append] at missing
    cases missing

theorem dropStarts_eq_self {option : ValueOption} {text : List Char}
    (other : ¬option.start <+: text) : option.dropStarts text = text := by
  rw [dropStarts]
  split
  next rest found => exact absurd ⟨rest, (Text.after?_eq_some_iff.mp found).symm⟩ other
  next => rfl

theorem exists_dropStarts (option : ValueOption) (text : List Char) :
    ∃ count, text = (List.replicate count option.start).flatten ++ option.dropStarts text ∧
      ¬option.start <+: option.dropStarts text := by
  fun_induction dropStarts option text with
  | case1 text rest found ih =>
      obtain ⟨count, whole, bare⟩ := ih
      refine ⟨count + 1, ?_, bare⟩
      rw [Text.after?_eq_some_iff.mp found, List.replicate_succ, List.flatten_cons,
        List.append_assoc, ← whole]
  | case2 text missing =>
      refine ⟨0, rfl, ?_⟩
      rintro ⟨rest, rfl⟩
      rw [Text.after?_append] at missing
      cases missing

end ValueOption

theorem isHelp_eq_false_iff {token : String} :
    isHelp token = false ↔ token ≠ "-h" ∧ token ≠ "--help" := by
  simp [isHelp]

theorem readRun_plain {token : String} (plain : isOption token = false) (draft : RunDraft)
    (rest : List String) : readRun draft (token :: rest) =
      setFile draft.file token >>= fun file => readRun { draft with file } rest := by
  have dashed : ∀ other : String, isOption other = true → token ≠ other := by
    rintro other dash rfl
    rw [plain] at dash
    contradiction
  have noHelp : isHelp token = false :=
    isHelp_eq_false_iff.mpr ⟨dashed "-h" (by decide), dashed "--help" (by decide)⟩
  have noWord : ValueOption.ofWord? token = none := by
    rw [ValueOption.ofWord?_eq_none_iff]
    intro option same
    exact dashed option.word (by cases option <;> decide) same.symm
  have noToken : ValueOption.ofToken? token = none := by
    rw [ValueOption.ofToken?, Option.map_eq_none_iff, List.find?_eq_none]
    intro option _ begins
    obtain ⟨rest, found⟩ := Option.isSome_iff_exists.mp begins
    have dash : isOption token = true := by
      rw [isOption, Text.after?_eq_some_iff.mp found]
      cases option <;> rfl
    rw [plain] at dash
    contradiction
  rw [readRun.eq_def]
  simp only [noHelp, Bool.false_eq_true, if_false, noWord, noToken, plain]

section

variable (draft : RunDraft) (option : ValueOption) (value : String) (rest : List String)

theorem readRun_word :
    readRun draft (option.word :: value :: rest) =
      draft.set option value >>= fun draft => readRun draft rest := by
  have noHelp : isHelp option.word = false := by
    cases option <;> decide
  rw [readRun.eq_def]
  simp only [noHelp, Bool.false_eq_true, if_false, option.ofWord?_word]

theorem readRun_joined :
    readRun draft (option.joined value :: rest) =
      draft.set option (String.ofList (option.dropStarts value.toList)) >>=
        fun draft => readRun draft rest := by
  -- No other token that is looked for holds an equals sign.
  have signed : '=' ∈ (option.joined value).toList := by
    simp [ValueOption.start]
  have noHelp : isHelp (option.joined value) = false := by
    rw [isHelp_eq_false_iff]
    constructor
    · intro same
      rw [same] at signed
      exact absurd signed (by decide)
    · intro same
      rw [same] at signed
      exact absurd signed (by decide)
  have noWord : ValueOption.ofWord? (option.joined value) = none := by
    rw [ValueOption.ofWord?_eq_none_iff]
    intro other same
    rw [← same] at signed
    revert signed
    cases other <;> decide
  rw [readRun.eq_def]
  simp only [noHelp, Bool.false_eq_true, if_false, noWord, option.ofToken?_joined,
    option.dropStarts_append]

end

/-- Tokens in which every option that is a token of its own has a value behind it. What follows them
is read as a token of its own. -/
inductive Complete : List String → Prop
  | nil : Complete []
  | option {option : ValueOption} {value : String} {rest : List String} : Complete rest →
      Complete (option.word :: value :: rest)
  | other {token : String} {rest : List String} : (∀ option : ValueOption, option.word ≠ token) →
      Complete rest → Complete (token :: rest)

theorem Complete.readRun_append {before : List String} (complete : Complete before)
    (draft : RunDraft) :
    (∃ outcome, ∀ rest, readRun draft (before ++ rest) = outcome) ∨
      ∃ next, ∀ rest, readRun draft (before ++ rest) = readRun next rest := by
  induction complete generalizing draft with
  | nil => exact .inr ⟨draft, fun _ => rfl⟩
  | @option option value tokens _ ih =>
      simp only [List.cons_append, readRun_word]
      cases draft.set option value with
      | error e => exact .inl ⟨.error e, fun _ => rfl⟩
      | ok next => exact ih next
  | @other token tokens others _ ih =>
      have noWord := ValueOption.ofWord?_eq_none_iff.mpr others
      simp only [List.cons_append, readRun, noWord]
      cases isHelp token with
      | true => exact .inl ⟨.ok (.help .run), fun _ => rfl⟩
      | false =>
          cases ValueOption.ofToken? token with
          | some parts =>
              obtain ⟨option, value⟩ := parts
              cases read : draft.set option value with
              | error e => exact .inl ⟨.error e, fun _ => by simp [read, bind, Except.bind]⟩
              | ok next => simpa [read, bind, Except.bind] using ih next
          | none =>
              cases isOption token with
              | true => exact .inl ⟨.error (.unknownOption token), fun _ => rfl⟩
              | false =>
                  cases given : setFile draft.file token with
                  | error e => exact .inl ⟨.error e, fun _ => by simp [bind, Except.bind]⟩
                  | ok file => simpa [given, bind, Except.bind] using ih { draft with file }

theorem Complete.read_congr {before after after' : List String} (complete : Complete before)
    (same : ∀ draft, readRun draft after = readRun draft after') :
    Command.read ("run" :: (before ++ after)) = Command.read ("run" :: (before ++ after')) := by
  have run : ∀ tokens, Command.read ("run" :: tokens) = readRun .empty tokens := fun _ => rfl
  rw [run, run]
  rcases complete.readRun_append .empty with ⟨outcome, decided⟩ | ⟨next, left⟩
  · rw [decided, decided]
  · rw [left, left, same]

structure IsName (name : String) : Prop where
  filled : name ≠ ""
  starts : Text.Stops Text.isBlank name.toList
  ends : Text.Stops Text.isBlank name.toList.reverse
  unsigned : '=' ∉ name.toList

theorem readArgument_eq {name : String} (named : IsName name) (text : String) :
    readArgument (name ++ "=" ++ text) = .ok (name, text) := by
  have split : Text.splitAtFirst? ['='] (name ++ "=" ++ text).toList =
      some (name.toList, text.toList) := by
    simpa using Text.splitAtFirst?_mark named.unsigned text.toList
  have trimmed := Text.trim_eq_self named.starts named.ends
  have filled : name.toList ≠ [] := by simpa using named.filled
  rw [readArgument, split]
  simp [trimmed, filled]

theorem length_lt_of_readArgument {text name value : String}
    (read : readArgument text = .ok (name, value)) :
    value.toList.length < text.toList.length := by
  rw [readArgument] at read
  split at read
  next => cases read
  next start rest split =>
    have whole := Text.eq_append_of_splitAtFirst? split
    dsimp only at read
    split at read
    next => cases read
    next =>
      cases read
      simp [whole]
      omega

theorem readRun_file (config database : Option String) (args : List (String × String)) :
    readRun ⟨none, config, database, args⟩ ["q"] =
      .ok (.run ⟨"q", config.getD RunDraft.usualConfig, config.isSome, database, args⟩) := by
  have plain : isOption "q" = false := by decide
  rw [readRun_plain plain]
  rfl

theorem length_dropStarts_le (option : ValueOption) (text : List Char) :
    (option.dropStarts text).length ≤ text.length := by
  obtain ⟨count, whole, _⟩ := option.exists_dropStarts text
  have shorter := congrArg List.length whole
  rw [List.length_append] at shorter
  omega

theorem stripped_ne {option : ValueOption} {value : String}
    (begins : option.start <+: value.toList) :
    (RunDraft.empty.set option (String.ofList (option.dropStarts value.toList)) >>=
        fun draft => readRun draft ["q"]) ≠
      RunDraft.empty.set option value >>= fun draft => readRun draft ["q"] := by
  obtain ⟨rest, whole⟩ := begins
  rw [← whole, option.dropStarts_append]
  have bound := length_dropStarts_le option rest
  have longer : rest.length < value.toList.length := by
    simp [← whole, ValueOption.start]
    omega
  have other : String.ofList (option.dropStarts rest) ≠ value := by
    rintro rfl
    rw [String.toList_ofList] at longer
    omega
  intro same
  cases option with
  | config =>
      exact other (by
        simpa [RunDraft.set, RunDraft.empty, bind, Except.bind, readRun_file] using same)
  | database =>
      exact other (by
        simpa [RunDraft.set, RunDraft.empty, bind, Except.bind, readRun_file] using same)
  | arg =>
      have named : IsName "--arg" := ⟨by decide, by decide, by decide, by decide⟩
      have written : value = "--arg" ++ "=" ++ String.ofList rest := by
        rw [← String.toList_inj, ← whole]
        simp [ValueOption.start, ValueOption.word]
      have read := readArgument_eq named (String.ofList rest)
      rw [← written] at read
      cases stripped : readArgument (String.ofList (ValueOption.arg.dropStarts rest)) with
      | error e =>
          simp [RunDraft.set, RunDraft.empty, bind, Except.bind, readRun_file, read, stripped]
            at same
      | ok argument =>
          have argument_eq : argument = ("--arg", String.ofList rest) := by
            simpa [RunDraft.set, RunDraft.empty, bind, Except.bind, readRun_file, read, stripped]
              using same
          have shorter := length_lt_of_readArgument stripped
          rw [argument_eq, String.toList_ofList, String.toList_ofList] at shorter
          omega

theorem read_joined (option : ValueOption) (value : String) {before : List String}
    (complete : Complete before) (after : List String) :
    Command.read ("run" :: (before ++ option.joined value :: after)) =
      Command.read ("run" :: (before ++
        option.word :: String.ofList (option.dropStarts value.toList) :: after)) :=
  complete.read_congr fun draft => by rw [readRun_joined, readRun_word]

/-- An option and its value mean the same in one token and in two, wherever they stand, just when
the value does not begin with the option and an equals sign. Of one token all of these are removed,
as often as they follow each other. -/
theorem joined_reads_iff (option : ValueOption) (value : String) :
    ((∀ before after, Complete before →
        Command.read ("run" :: (before ++ option.joined value :: after)) =
          Command.read ("run" :: (before ++ option.word :: value :: after))) ↔
      ¬option.start <+: value.toList) ∧
    ∃ count rest, value.toList = (List.replicate count option.start).flatten ++ rest ∧
      ¬option.start <+: rest ∧
      ∀ before after, Complete before →
        Command.read ("run" :: (before ++ option.joined value :: after)) =
          Command.read ("run" :: (before ++ option.word :: String.ofList rest :: after)) := by
  obtain ⟨count, whole, bare⟩ := option.exists_dropStarts value.toList
  refine ⟨⟨?_, ?_⟩, count, _, whole, bare,
    fun before after complete => read_joined option value complete after⟩
  · intro same begins
    have alone := same [] ["q"] .nil
    rw [read_joined option value .nil] at alone
    change readRun .empty (option.word :: String.ofList _ :: ["q"]) =
      readRun .empty (option.word :: value :: ["q"]) at alone
    rw [readRun_word, readRun_word] at alone
    exact stripped_ne begins alone
  · intro other before after complete
    rw [read_joined option value complete, ValueOption.dropStarts_eq_self other,
      String.ofList_toList]

/-- Tokens before an option: one that is the value of another option counts as no option itself. -/
theorem complete_leading : Complete ["q.sql", "--arg", "--database"] :=
  .other (by rintro ⟨⟩ <;> decide) (@Complete.option .arg "--database" [] .nil)

theorem joined_reads_iff_twice :
    Complete ["q.sql", "--arg", "--database"] ∧
      ValueOption.database.start <+: "--database=url".toList ∧
      ∃ count rest,
        "--database=url".toList =
          (List.replicate count ValueOption.database.start).flatten ++ rest ∧
        ¬ValueOption.database.start <+: rest ∧
        Command.read ["run", "q.sql", "--arg", "--database", "--database=--database=url", "b"] =
          Command.read ["run", "q.sql", "--arg", "--database", "--database", String.ofList rest,
            "b"] := by
  obtain ⟨_, count, rest, whole, bare, alike⟩ :=
    joined_reads_iff .database "--database=url"
  exact ⟨complete_leading, by decide, count, rest, whole, bare,
    alike ["q.sql", "--arg", "--database"] ["b"] complete_leading⟩

theorem value_stripped :
    (Command.read ["run", "q.sql", "--config=--config=x"]).toOption =
        some (.run ⟨"q.sql", "x", true, none, []⟩) ∧
      (Command.read ["run", "q.sql", "--config", "--config=x"]).toOption =
        some (.run ⟨"q.sql", "--config=x", true, none, []⟩) := by
  have complete : Complete ["q.sql"] := .other (by rintro ⟨⟩ <;> decide) .nil
  have once : ValueOption.config.dropStarts "--config=x".toList = "x".toList :=
    (ValueOption.config.dropStarts_append "x".toList).trans
      (ValueOption.dropStarts_eq_self (by decide))
  have stripped := read_joined .config "--config=x" complete []
  rw [once] at stripped
  refine ⟨?_, by decide⟩
  change (Command.read ("run" :: (["q.sql"] ++
    [ValueOption.config.joined "--config=x"]))).toOption = _
  rw [stripped]
  decide

end SqlTemplate.CommandLine
