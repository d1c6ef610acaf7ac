import SqlTemplate.Monitor.Log
import SqlTemplate.Proofs.Text.Offset
import SqlTemplate.Proofs.Text.Spacing

/-!
Statements and error messages as logs and hooks show them: on one line, and cut at the last boundary
of a character within a limit of bytes. Cutting by offsets never fails and gives the same texts.
-/

namespace SqlTemplate

def dots : List Char := ['.', '.', '.']

theorem Text.shorten_eq_self {limit : Nat} {text : List Char} (fits : byteLength text ≤ limit) :
    shorten limit text = text := by
  rw [shorten, if_pos fits]

theorem Text.shorten_eq_clip {limit : Nat} {text : List Char} (exceeds : limit < byteLength text) :
    shorten limit text = clip limit text ++ dots := by
  rw [shorten, if_neg (Nat.not_le_of_lt exceeds), dots]

theorem Text.byteLength_clip_lt_iff {limit : Nat} {text : List Char} :
    byteLength (clip limit text) < byteLength text ↔ limit < byteLength text := by
  have longest := longest_clip limit text
  constructor
  · intro shorter
    apply Nat.lt_of_not_le
    intro fits
    rw [clip_eq_self fits] at shorter
    exact Nat.lt_irrefl _ shorter
  · exact Nat.lt_of_le_of_lt longest.fits

theorem byteLength_dotted {limit : Nat} {text kept : List Char}
    (longest : Text.Longest limit text kept) : Text.byteLength (kept ++ dots) ≤ limit + 3 := by
  rw [Text.byteLength_append]
  exact Nat.add_le_add_right longest.fits 3

/-- A statement as a log shows it, cut by offsets if its single line has more bytes than the
limit. -/
def SqlLog.shownByOffset (log : SqlLog) (sql : String) : Except Text.Fault String :=
  let compact := Text.unwords sql.toList
  match log.limit.filter fun limit => limit < (Text.bytes compact).length with
  | some limit =>
    (Text.clipAtBoundary limit compact).map fun kept => String.ofList (kept ++ dots)
  | none => .ok (String.ofList compact)

theorem SqlLog.shownByOffset_eq (log : SqlLog) (sql : String) :
    log.shownByOffset sql = .ok (log.shown sql) := by
  cases limited : log.limit with
  | none => simp [shownByOffset, shown, limited]
  | some limit =>
      simp only [shownByOffset, shown, limited, Option.filter_some, Text.length_bytes]
      by_cases exceeds : limit < Text.byteLength (Text.unwords sql.toList)
      · rw [if_pos (by simpa using exceeds), Text.shorten_eq_clip exceeds]
        simp [Except.map]
      · rw [if_neg (by simpa using exceeds), Text.shorten_eq_self (Nat.le_of_not_lt exceeds)]

theorem SqlLog.shown_whole {log : SqlLog} {sql : String}
    (fits : ∀ limit ∈ log.limit, Text.byteLength (Text.unwords sql.toList) ≤ limit) :
    log.shown sql = String.ofList (Text.unwords sql.toList) := by
  cases limited : log.limit with
  | none => simp only [shown, limited]
  | some limit => simp only [shown, limited, Text.shorten_eq_self (fits limit limited)]

theorem SqlLog.shown_cut {log : SqlLog} {limit : Nat} {sql : String}
    (limited : log.limit = some limit)
    (exceeds : limit < Text.byteLength (Text.unwords sql.toList)) :
    log.shown sql = String.ofList (Text.clip limit (Text.unwords sql.toList) ++ dots) := by
  simp only [shown, limited, Text.shorten_eq_clip exceeds]

theorem SqlLog.shown_congr {log : SqlLog} {sql other : String}
    (same : Text.words sql.toList = Text.words other.toList) : log.shown sql = log.shown other := by
  rw [shown, shown, Text.unwords, Text.unwords, same]

/-- The outcome of an error, its message cut by offsets if less of it than the whole is within the
limit. -/
def Outcome.ofErrorByOffset (message : String) : Except Text.Fault Outcome := do
  let kept ← Text.clipAtBoundary messageLimit message.toList
  let stop := (Text.bytes kept).length
  if stop < (Text.bytes message.toList).length then
    let start ← Text.sliceTo message.toList stop
    return .failure (String.ofList (start ++ dots))
  else return .failure message

theorem Outcome.ofError_whole {message : String}
    (fits : Text.byteLength message.toList ≤ messageLimit) :
    ofError message = .failure message := by
  rw [ofError, Text.shorten_eq_self fits, String.ofList_toList]

theorem Outcome.ofError_cut {message : String}
    (exceeds : messageLimit < Text.byteLength message.toList) : ofError message =
      .failure (String.ofList (Text.clip messageLimit message.toList ++ dots)) := by
  rw [ofError, Text.shorten_eq_clip exceeds]

theorem Outcome.ofErrorByOffset_eq (message : String) :
    ofErrorByOffset message = .ok (ofError message) := by
  obtain ⟨rest, same⟩ := (Text.longest_clip messageLimit message.toList).start
  have cut := Text.sliceTo_byteLength (Text.clip messageLimit message.toList) rest
  rw [same] at cut
  simp only [ofErrorByOffset, Text.clipAtBoundary_eq, Text.length_bytes, bind, Except.bind]
  by_cases exceeds : messageLimit < Text.byteLength message.toList
  · rw [if_pos (Text.byteLength_clip_lt_iff.mpr exceeds), cut, ofError_cut exceeds]
    rfl
  · rw [if_neg (fun shorter => exceeds (Text.byteLength_clip_lt_iff.mp shorter)),
      ofError_whole (Nat.le_of_not_lt exceeds)]
    rfl

/-- Texts are cut to the longest start within a limit, by a search that never goes below zero and
leaves at most three bytes unused. Logs show a statement on one line with single spaces, whole if it
fits and else cut and with three dots, whatever the white space it is written with; hooks are told
messages of up to 512 bytes as they are, and the start of longer ones with three dots. -/
theorem shortened_within_limits :
    (∀ limit text, Text.clipAtBoundary limit text = .ok (Text.clip limit text) ∧
      Text.Longest limit text (Text.clip limit text) ∧
      (limit < Text.byteLength text → limit ≤ Text.byteLength (Text.clip limit text) + 3)) ∧
    (∀ (log : SqlLog) sql, log.shownByOffset sql = .ok (log.shown sql) ∧
      Text.SingleSpaced (Text.unwords sql.toList) ∧
      Text.words (Text.unwords sql.toList) = Text.words sql.toList ∧
      ((∀ limit ∈ log.limit, Text.byteLength (Text.unwords sql.toList) ≤ limit) →
        log.shown sql = String.ofList (Text.unwords sql.toList)) ∧
      ∀ limit ∈ log.limit, limit < Text.byteLength (Text.unwords sql.toList) →
        ∃ kept, Text.Longest limit (Text.unwords sql.toList) kept ∧
          log.shown sql = String.ofList (kept ++ dots) ∧
          Text.byteLength (kept ++ dots) ≤ limit + 3) ∧
    (∀ (log : SqlLog) sql other blanks blanks', Text.Respaced sql other →
      (∀ c ∈ blanks ++ blanks', Text.isBlank c) →
      log.shown (String.ofList (blanks ++ (other ++ blanks'))) = log.shown (String.ofList sql)) ∧
    ∀ message, Outcome.ofErrorByOffset message = .ok (Outcome.ofError message) ∧
      (Text.byteLength message.toList ≤ 512 → Outcome.ofError message = .failure message) ∧
      (512 < Text.byteLength message.toList → ∃ kept, Text.Longest 512 message.toList kept ∧
        Outcome.ofError message = .failure (String.ofList (kept ++ dots))) := by
  refine ⟨?_, ?_, ?_, ?_⟩
  · intro limit text
    have longest := Text.longest_clip limit text
    exact ⟨Text.clipAtBoundary_eq limit text, longest, longest.limit_le⟩
  · intro log sql
    refine ⟨log.shownByOffset_eq sql, Text.singleSpaced_unwords _, Text.words_unwords _,
      SqlLog.shown_whole, ?_⟩
    intro limit limited exceeds
    have longest := Text.longest_clip limit (Text.unwords sql.toList)
    exact ⟨_, longest, SqlLog.shown_cut limited exceeds, byteLength_dotted longest⟩
  · intro log sql other blanks blanks' respaced blank
    obtain ⟨leading, trailing⟩ := List.forall_mem_append.mp blank
    apply SqlLog.shown_congr
    rw [String.toList_ofList, String.toList_ofList, Text.words_blanks_append leading,
      Text.words_append_blanks trailing, respaced.words_eq]
  · intro message
    have longest := Text.longest_clip Outcome.messageLimit message.toList
    exact ⟨Outcome.ofErrorByOffset_eq message, Outcome.ofError_whole,
      fun exceeds => ⟨_, longest, Outcome.ofError_cut exceeds⟩⟩

/-- A limit within the second of two accented letters, and the same words in other white space. -/
theorem shortened_within_limits_accented :
    12 ≤ Text.byteLength (Text.clip 12 "SELECT 'é€'".toList) + 3 ∧
    SqlLog.shown ⟨.debug, some 14⟩ "SELECT 'é€'" = "SELECT 'é€'" ∧
    (∃ kept, Text.Longest 12 "SELECT 'é€'".toList kept ∧
      SqlLog.shown ⟨.debug, some 12⟩ "SELECT 'é€'" = String.ofList (kept ++ dots) ∧
      Text.byteLength (kept ++ dots) ≤ 15) ∧
    SqlLog.shown ⟨.debug, some 12⟩ (String.ofList (['\n'] ++ ("SELECT\t 'é€'".toList ++ [' ']))) =
      SqlLog.shown ⟨.debug, some 12⟩ (String.ofList "SELECT 'é€'".toList) ∧
    Outcome.ofError "é" = .failure "é" ∧
    ∃ kept, Text.Longest 512 (String.ofList (List.replicate 300 'é')).toList kept ∧
      Outcome.ofError (String.ofList (List.replicate 300 'é')) =
        .failure (String.ofList (kept ++ dots)) := by
  obtain ⟨cut, shown, respaced, told⟩ := shortened_within_limits
  have compact : Text.unwords "SELECT 'é€'".toList = "SELECT 'é€'".toList := by decide +kernel
  have size : Text.byteLength "SELECT 'é€'".toList = 14 := by decide +kernel
  have gap : Text.Respaced ([' '] ++ "'é€'".toList) (['\t', ' '] ++ "'é€'".toList) :=
    .run (by decide) (by decide) (by decide) (by decide) (.refl _)
  have spaced := (Text.Respaced.refl "SELECT".toList).append gap
  refine ⟨(cut 12 _).2.2 (by decide +kernel), ?_, ?_, ?_, ?_, ?_⟩
  · have whole := (shown ⟨.debug, some 14⟩ "SELECT 'é€'").2.2.2.1
    rw [compact, size, String.ofList_toList] at whole
    exact whole (by decide)
  · have short := (shown ⟨.debug, some 12⟩ "SELECT 'é€'").2.2.2.2 12 rfl
    rw [compact, size] at short
    exact short (by decide)
  · exact respaced _ _ _ _ _ spaced (by decide)
  · exact (told "é").2.1 (by decide +kernel)
  · refine (told _).2.2 ?_
    rw [String.toList_ofList]
    decide +kernel

end SqlTemplate
