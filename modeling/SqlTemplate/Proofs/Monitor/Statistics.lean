import Mathlib.Algebra.GroupWithZero.Nat
import Mathlib.Algebra.Order.BigOperators.Group.List
import Mathlib.Algebra.Order.Group.Nat
import Mathlib.Data.List.Induction
import SqlTemplate.Monitor.Stats
import SqlTemplate.Proofs.Keyed

/-!
Statistics as a summary of what was reported. After any history of reports and resets they say of
the reports since the last reset how many there were, how many failed, what they were of, how long
they took and which was the slowest, whatever the order in which they came; only of the slowest, if
there are several, the first counts.
-/

namespace SqlTemplate

/-- A report of an execution to a hook. Times are as long as can be counted. -/
structure Report where
  context : Context
  elapsed : Nat
  outcome : Outcome
  counted : elapsed ≤ longestTime

namespace Report

def failed (report : Report) : Bool := report.outcome.isFailure

def tagged (tag : String) (reports : List Report) : List Report :=
  reports.filter fun report => report.context.tag = some tag

def totalTime (reports : List Report) : Nat :=
  min (reports.map elapsed).sum longestTime

def numbered (number : StatementKind → Nat) (kinds : List StatementKind) :
    List (StatementKind × Nat) :=
  (kinds.map fun kind => (kind, number kind)).filter fun entry => 0 < entry.2

def kindCounts (reports : List Report) : List (StatementKind × Nat) :=
  numbered (fun kind => reports.countP fun report => report.context.kind = kind) StatementKind.all

def tagStats (reports : List Report) : TagStats :=
  ⟨reports.length, reports.countP failed, totalTime reports⟩

/-- The text and the time of the first report that took longest; none if there is no report. -/
def IsSlowest (reports : List Report) : Option (String × Nat) → Prop
  | none => reports = []
  | some (sql, time) => ∃ earlier report later, reports = earlier ++ report :: later ∧
      report.context.sql = sql ∧ report.elapsed = time ∧
      (∀ other ∈ earlier, other.elapsed < time) ∧ ∀ other ∈ later, other.elapsed ≤ time

end Report

namespace Stats

inductive Event
  | report (report : Report)
  | reset

def step (stats : Stats) : Event → Stats
  | .report report =>
    ((hook (σ := Stats) id).after report.context report.elapsed report.outcome stats).2
  | .reset => empty

def history (events : List Event) : Stats := events.foldl step empty

def remember (reports : List Report) : Event → List Report
  | .report report => reports ++ [report]
  | .reset => []

def sinceReset (events : List Event) : List Report := events.foldl remember []

structure Summarizes (stats : Stats) (reports : List Report) : Prop where
  calls : stats.calls = reports.length
  failures : stats.failures = reports.countP Report.failed
  total : stats.total = Report.totalTime reports
  byKind : stats.byKind = Report.kindCounts reports
  byTag : ∀ tag, Keyed.find? tag stats.byTag =
    if Report.tagged tag reports = [] then none
    else some (Report.tagStats (Report.tagged tag reports))
  tagsAscend : Keyed.Ascending stats.byTag
  slowest : Report.IsSlowest reports stats.slowest

theorem totalTime_append (reports : List Report) (report : Report) :
    Report.totalTime (reports ++ [report]) =
      addTimes (Report.totalTime reports) report.elapsed := by
  simp only [Report.totalTime, addTimes, List.map_append, List.map_singleton, List.sum_append,
    List.sum_singleton]
  omega

theorem failures_append (reports : List Report) (report : Report) :
    (reports ++ [report]).countP Report.failed =
      reports.countP Report.failed + if report.outcome.isFailure then 1 else 0 := by
  rw [List.countP_append, List.countP_singleton]
  rfl

theorem tagStats_append (reports : List Report) (report : Report) :
    Report.tagStats (reports ++ [report]) =
      ⟨(Report.tagStats reports).calls + 1,
        (Report.tagStats reports).failures + if report.outcome.isFailure then 1 else 0,
        addTimes (Report.tagStats reports).total report.elapsed⟩ := by
  simp only [Report.tagStats, failures_append, totalTime_append, List.length_append,
    List.length_singleton]

theorem tagged_append (tag : String) (reports : List Report) (report : Report) :
    Report.tagged tag (reports ++ [report]) =
      if report.context.tag = some tag then Report.tagged tag reports ++ [report]
      else Report.tagged tag reports := by
  rw [Report.tagged, List.filter_append]
  by_cases here : report.context.tag = some tag <;> simp [Report.tagged, here]

theorem countKind_of_above {kind : StatementKind} {entries : List (StatementKind × Nat)}
    (above : ∀ entry ∈ entries, kind.rank < entry.1.rank) :
    countKind kind entries = (kind, 1) :: entries := by
  cases entries with
  | nil => rfl
  | cons first rest =>
      have below := above first List.mem_cons_self
      have different : first.1 ≠ kind := by
        intro same
        rw [same] at below
        exact Nat.lt_irrefl _ below
      simp [countKind, different, below]

theorem numbered_cons (number : StatementKind → Nat) (kind : StatementKind)
    (kinds : List StatementKind) :
    Report.numbered number (kind :: kinds) =
      if 0 < number kind then (kind, number kind) :: Report.numbered number kinds
      else Report.numbered number kinds := by
  by_cases occurs : 0 < number kind <;> simp [Report.numbered, occurs]

theorem numbered_congr {number raised : StatementKind → Nat} {kinds : List StatementKind}
    (same : ∀ kind ∈ kinds, raised kind = number kind) :
    Report.numbered raised kinds = Report.numbered number kinds := by
  have pairs : kinds.map (fun kind => (kind, raised kind)) =
      kinds.map fun kind => (kind, number kind) :=
    List.map_congr_left fun kind member => by rw [same kind member]
  rw [Report.numbered, pairs, Report.numbered]

theorem mem_of_mem_numbered {number : StatementKind → Nat} {kinds : List StatementKind}
    {entry : StatementKind × Nat} (member : entry ∈ Report.numbered number kinds) :
    entry.1 ∈ kinds := by
  obtain ⟨kind, inKinds, rfl⟩ := List.mem_map.mp (List.mem_filter.mp member).1
  exact inKinds

theorem countKind_numbered {kinds : List StatementKind} {kind : StatementKind}
    {number raised : StatementKind → Nat}
    (ordered : kinds.Pairwise fun a b => a.rank < b.rank) (member : kind ∈ kinds)
    (here : raised kind = number kind + 1)
    (elsewhere : ∀ key, key ≠ kind → raised key = number key) :
    countKind kind (Report.numbered number kinds) = Report.numbered raised kinds := by
  induction kinds with
  | nil => cases member
  | cons first rest ih =>
      obtain ⟨above, ordered⟩ := List.pairwise_cons.mp ordered
      rw [numbered_cons, numbered_cons]
      by_cases same : first = kind
      · subst same
        -- The later kinds are others, as each kind stands before those of higher rank.
        have unraised : Report.numbered raised rest = Report.numbered number rest := by
          refine numbered_congr fun key inRest => elsewhere key ?_
          rintro rfl
          exact Nat.lt_irrefl _ (above key inRest)
        rw [unraised, here, if_pos (Nat.succ_pos _)]
        split
        next => rw [countKind, if_pos rfl]
        next none =>
          rw [countKind_of_above fun entry inRest => above entry.1 (mem_of_mem_numbered inRest)]
          simp [Nat.eq_zero_of_not_pos none]
      · have later : kind ∈ rest := (List.mem_cons.mp member).resolve_left (Ne.symm same)
        rw [elsewhere first same, ← ih ordered later]
        split
        next => rw [countKind, if_neg same, if_neg (Nat.lt_asymm (above kind later))]
        next => rfl

theorem kindCounts_append (reports : List Report) (report : Report) :
    Report.kindCounts (reports ++ [report]) =
      countKind report.context.kind (Report.kindCounts reports) := by
  symm
  apply countKind_numbered
  · decide
  · cases report.context.kind <;> decide
  · simp
  · intro key different
    simp [Ne.symm different]

theorem sum_countKind (kind : StatementKind) (entries : List (StatementKind × Nat)) :
    ((countKind kind entries).map Prod.snd).sum = (entries.map Prod.snd).sum + 1 := by
  induction entries with
  | nil => rfl
  | cons first rest ih =>
      rw [countKind]
      split
      · simp only [List.map_cons, List.sum_cons]
        omega
      · split
        · simp only [List.map_cons, List.sum_cons]
          omega
        · simp only [List.map_cons, List.sum_cons, ih]
          omega

theorem sum_kindCounts (reports : List Report) :
    ((Report.kindCounts reports).map Prod.snd).sum = reports.length := by
  induction reports using List.reverseRecOn with
  | nil => decide
  | append_singleton reports report ih =>
      rw [kindCounts_append, sum_countKind, ih, List.length_append, List.length_singleton]

theorem isSlowest_append {reports : List Report} {slowest : Option (String × Nat)}
    (known : Report.IsSlowest reports slowest) (report : Report) :
    Report.IsSlowest (reports ++ [report])
      (some (slower report.context.sql report.elapsed slowest)) := by
  cases slowest with
  | none =>
      rw [known]
      exact ⟨[], report, [], rfl, rfl, rfl, by simp, by simp⟩
  | some pair =>
      obtain ⟨sql, time⟩ := pair
      obtain ⟨earlier, first, later, rfl, rfl, rfl, before, after⟩ := known
      rw [slower]
      split
      next longer =>
        refine ⟨earlier ++ first :: later, report, [], rfl, rfl, rfl, ?_, by simp⟩
        intro other member
        rcases List.mem_append.mp member with inEarlier | member
        · exact Nat.lt_trans (before other inEarlier) longer
        · rcases List.mem_cons.mp member with rfl | inLater
          · exact longer
          · exact Nat.lt_of_le_of_lt (after other inLater) longer
      next notLonger =>
        refine ⟨earlier, first, later ++ [report], by simp, rfl, rfl, before, ?_⟩
        intro other member
        rcases List.mem_append.mp member with inLater | here
        · exact after other inLater
        · rw [List.mem_singleton.mp here]
          exact Nat.not_lt.mp notLonger

theorem find?_countTag (tag own : String) (failed elapsed : Nat)
    (byTag : List (String × TagStats)) :
    Keyed.find? tag (countTag own failed elapsed byTag) =
      if tag = own then
        let old := (Keyed.find? own byTag).getD ⟨0, 0, 0⟩
        some ⟨old.calls + 1, old.failures + failed, addTimes old.total elapsed⟩
      else Keyed.find? tag byTag :=
  Keyed.find?_insert own tag _ byTag

theorem summarizes_empty : Summarizes empty [] where
  calls := rfl
  failures := rfl
  total := by simp [empty, Report.totalTime]
  byKind := by decide
  byTag := fun _ => rfl
  tagsAscend := List.Pairwise.nil
  slowest := rfl

theorem Summarizes.find?_own {stats : Stats} {reports : List Report}
    (summary : Summarizes stats reports) (tag : String) :
    (Keyed.find? tag stats.byTag).getD ⟨0, 0, 0⟩ =
      Report.tagStats (Report.tagged tag reports) := by
  rw [summary.byTag]
  split
  next none => simp [none, Report.tagStats, Report.totalTime]
  next => rfl

theorem Summarizes.record {stats : Stats} {reports : List Report}
    (summary : Summarizes stats reports) (report : Report) :
    Summarizes (stats.record report.context report.elapsed report.outcome)
      (reports ++ [report]) where
  calls := by simp [Stats.record, summary.calls]
  failures := by rw [failures_append, ← summary.failures]; rfl
  total := by rw [totalTime_append, ← summary.total]; rfl
  byKind := by rw [kindCounts_append, ← summary.byKind]; rfl
  byTag := by
    intro tag
    rw [tagged_append]
    cases own : report.context.tag with
    | none => simpa [Stats.record, own] using summary.byTag tag
    | some name =>
        simp only [Stats.record, own, find?_countTag, summary.find?_own, Option.some.injEq]
        by_cases here : tag = name
        · subst here
          simp [tagStats_append]
        · simpa [here, Ne.symm here] using summary.byTag tag
  tagsAscend := by
    cases own : report.context.tag with
    | none => simpa [Stats.record, own] using summary.tagsAscend
    | some name =>
        simp only [Stats.record, own]
        exact Keyed.ascending_insert summary.tagsAscend
  slowest := isSlowest_append summary.slowest report

theorem Summarizes.step {stats : Stats} {reports : List Report}
    (summary : Summarizes stats reports) (event : Event) :
    Summarizes (stats.step event) (remember reports event) := by
  cases event with
  | report report => exact summary.record report
  | reset => exact summarizes_empty

theorem Summarizes.foldl {stats : Stats} {reports : List Report}
    (summary : Summarizes stats reports) (events : List Event) :
    Summarizes (events.foldl Stats.step stats) (events.foldl remember reports) := by
  induction events generalizing stats reports with
  | nil => exact summary
  | cons event rest ih => exact ih (summary.step event)

theorem summarizes_history (events : List Event) :
    Summarizes (history events) (sinceReset events) :=
  summarizes_empty.foldl events

theorem totalTime_mono {reports part : List Report} (among : part.Sublist reports) :
    Report.totalTime part ≤ Report.totalTime reports := by
  have less := (among.map Report.elapsed).sum_le_sum (fun _ _ => Nat.zero_le _)
  simp only [Report.totalTime]
  omega

theorem elapsed_le_totalTime {reports : List Report} {report : Report}
    (member : report ∈ reports) : report.elapsed ≤ Report.totalTime reports := by
  have less := List.le_sum_of_mem (List.mem_map_of_mem (f := Report.elapsed) member)
  have counted := report.counted
  simp only [Report.totalTime]
  omega

theorem totalTime_perm {reports others : List Report} (same : others.Perm reports) :
    Report.totalTime others = Report.totalTime reports := by
  rw [Report.totalTime, (same.map Report.elapsed).sum_nat, Report.totalTime]

theorem tagStats_perm {reports others : List Report} (same : others.Perm reports) :
    Report.tagStats others = Report.tagStats reports := by
  rw [Report.tagStats, same.length_eq, same.countP_eq, totalTime_perm same, Report.tagStats]

theorem kindCounts_perm {reports others : List Report} (same : others.Perm reports) :
    Report.kindCounts others = Report.kindCounts reports :=
  numbered_congr fun _ _ => same.countP_eq _

theorem slowest_bounds {reports : List Report} {sql : String} {time : Nat}
    (slowest : Report.IsSlowest reports (some (sql, time))) :
    (∃ report ∈ reports, report.context.sql = sql ∧ report.elapsed = time) ∧
      ∀ report ∈ reports, report.elapsed ≤ time := by
  obtain ⟨earlier, first, later, rfl, rfl, rfl, before, after⟩ := slowest
  refine ⟨⟨first, by simp, rfl, rfl⟩, ?_⟩
  intro report member
  rcases List.mem_append.mp member with inEarlier | member
  · exact Nat.le_of_lt (before report inEarlier)
  · rcases List.mem_cons.mp member with rfl | inLater
    · exact Nat.le_refl _
    · exact after report inLater

theorem slowest_perm {reports others : List Report} {slowest another : Option (String × Nat)}
    (same : others.Perm reports) (known : Report.IsSlowest reports slowest)
    (again : Report.IsSlowest others another) :
    another.map Prod.snd = slowest.map Prod.snd := by
  cases slowest with
  | none =>
      rw [known] at same
      rw [same.eq_nil] at again
      cases another with
      | none => rfl
      | some pair => obtain ⟨_, _, _, none, _⟩ := again; simp at none
  | some pair =>
      obtain ⟨⟨report, member, _, time⟩, greatest⟩ := slowest_bounds known
      cases another with
      | none =>
          rw [again] at same
          rw [same.symm.eq_nil] at member
          cases member
      | some pair =>
          obtain ⟨⟨report', member', _, time'⟩, greatest'⟩ := slowest_bounds again
          have below := greatest report' (same.subset member')
          have above := greatest' report (same.symm.subset member)
          rw [Option.map_some, Option.map_some, ← time, ← time']
          congr 1
          omega

structure SameButText (stats another : Stats) : Prop where
  calls : another.calls = stats.calls
  failures : another.failures = stats.failures
  total : another.total = stats.total
  byKind : another.byKind = stats.byKind
  byTag : another.byTag = stats.byTag
  slowestTime : another.slowest.map Prod.snd = stats.slowest.map Prod.snd

theorem Summarizes.reordered {stats another : Stats} {reports others : List Report}
    (summary : Summarizes stats reports) (again : Summarizes another others)
    (same : others.Perm reports) : SameButText stats another where
  calls := by rw [again.calls, summary.calls, same.length_eq]
  failures := by rw [again.failures, summary.failures, same.countP_eq]
  total := by rw [again.total, summary.total, totalTime_perm same]
  byKind := by rw [again.byKind, summary.byKind, kindCounts_perm same]
  byTag := by
    apply Keyed.eq_of_find? again.tagsAscend summary.tagsAscend
    intro tag
    have tagged : (Report.tagged tag others).Perm (Report.tagged tag reports) := same.filter _
    have none : Report.tagged tag others = [] ↔ Report.tagged tag reports = [] := by
      rw [← List.length_eq_zero_iff, tagged.length_eq, List.length_eq_zero_iff]
    rw [again.byTag, summary.byTag, tagStats_perm tagged]
    simp only [none]
  slowestTime := slowest_perm same summary.slowest again.slowest

/-- Statistics say of the reports since the last reset just what they are, in numbers that fit one
another, and the order of these reports decides about no more than which of the slowest is named.
The counters here have no end; counters of 64 bits agree with them for less than 2⁶⁴ reports. -/
theorem history_summarized (events : List Event) :
    Summarizes (history events) (sinceReset events) ∧
    ((history events).byKind.map Prod.snd).sum = (history events).calls ∧
    (∀ tag ofTag, Keyed.find? tag (history events).byTag = some ofTag →
      ofTag.failures ≤ ofTag.calls ∧ ofTag.total ≤ (history events).total) ∧
    (∀ sql time, (history events).slowest = some (sql, time) →
      time ≤ (history events).total) ∧
    ∀ others, (sinceReset others).Perm (sinceReset events) →
      SameButText (history events) (history others) := by
  have summary := summarizes_history events
  refine ⟨summary, ?_, ?_, ?_,
    fun others same => summary.reordered (summarizes_history others) same⟩
  · rw [summary.byKind, summary.calls, sum_kindCounts]
  · intro tag ofTag found
    rw [summary.byTag] at found
    split at found
    next => cases found
    next =>
      cases found
      rw [summary.total]
      exact ⟨List.countP_le_length, totalTime_mono List.filter_sublist⟩
  · intro sql time found
    have slowest := summary.slowest
    rw [found] at slowest
    obtain ⟨⟨report, member, _, rfl⟩, _⟩ := slowest_bounds slowest
    rw [summary.total]
    exact elapsed_le_totalTime member

def quickJob (sql : String) : Report :=
  ⟨⟨sql, .select, [], 0, some "jobs"⟩, 7, .rows 1, by decide⟩

/-- Of two reports that took equally long the first is named, and nothing else tells their order. -/
theorem history_summarized_equal_times :
    let events := [.reset, .report (quickJob "SELECT 1"), .report (quickJob "SELECT 2")]
    let others := [.report (quickJob "SELECT 2"), .report (quickJob "SELECT 1")]
    (sinceReset others).Perm (sinceReset events) ∧ SameButText (history events) (history others) ∧
      (history events).slowest = some ("SELECT 1", 7) ∧
      (history others).slowest = some ("SELECT 2", 7) ∧ 7 ≤ (history events).total ∧
      Keyed.find? "jobs" (history events).byTag = some ⟨2, 0, 14⟩ ∧
      14 ≤ (history events).total := by
  intro events others
  obtain ⟨_, _, tags, slowest, order⟩ := history_summarized events
  have swapped : (sinceReset others).Perm (sinceReset events) := .swap _ _ []
  have first : (history events).slowest = some ("SELECT 1", 7) := by decide
  have jobs : Keyed.find? "jobs" (history events).byTag = some ⟨2, 0, 14⟩ := by decide
  exact ⟨swapped, order others swapped, first, by decide, slowest _ 7 first, jobs,
    (tags "jobs" _ jobs).2⟩

end Stats

end SqlTemplate
