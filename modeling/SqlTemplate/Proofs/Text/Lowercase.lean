import SqlTemplate.Proofs.Text.Spacing
import SqlTemplate.Text.Lowercase

/-!
The lower case of a text: it does not see the case of ASCII letters, taking it again changes
nothing, and white space and parentheses cut a text into parts that are lowered on their own.
-/

namespace SqlTemplate.Text

theorem toLower_eq_self {c : Char} (wide : ¬c.toNat < 128) : c.toLower = c := by
  unfold Char.toLower
  split
  next upper =>
    have bound : c.toNat ≤ 'Z'.toNat := UInt32.le_iff_toNat_le.mp upper.2
    have last : 'Z'.toNat = 90 := rfl
    omega
  next => rfl

theorem of_ascii {q : Char → Prop} (all : ∀ code < 128, q (Char.ofNat code)) {c : Char}
    (small : c.toNat < 128) : q c := by
  have here := all c.toNat small
  rwa [Char.ofNat_toNat] at here

def CaseRun.maps (run : CaseRun) (code : Nat) : Bool :=
  run.first ≤ code && code ≤ run.last && (code - run.first) % run.stride == 0

/-- All that is needed of single ASCII characters, in one check. -/
theorem ascii_checked : ∀ code < 128,
    lowercaseChar (Char.ofNat code).toLower = lowercaseChar (Char.ofNat code) ∧
    caseIgnorableCodePoints.contains (Char.ofNat code).toLower =
      caseIgnorableCodePoints.contains (Char.ofNat code) ∧
    casedCodePoints.contains (Char.ofNat code).toLower =
      casedCodePoints.contains (Char.ofNat code) ∧
    ((Char.ofNat code).toLower == 'Σ') = (Char.ofNat code == 'Σ') ∧
    (CaseRun.maps ⟨'A'.toNat, 'Z'.toNat, 1, 32⟩ (Char.ofNat code).toNat = false →
      (Char.ofNat code).toLower = Char.ofNat code) ∧
    ((Char.ofNat code).toLower = '(' ∨ (Char.ofNat code).toLower = ')' →
      Char.ofNat code = (Char.ofNat code).toLower) := by
  decide +kernel

/-- What is the same for an ASCII character and its lower case does not see the case of ASCII
letters. -/
theorem congr_toLower {α : Type} {f : Char → α}
    (ascii : ∀ code < 128, f (Char.ofNat code).toLower = f (Char.ofNat code)) {c d : Char}
    (same : c.toLower = d.toLower) : f c = f d := by
  have all : ∀ e : Char, f e.toLower = f e := by
    intro e
    by_cases small : e.toNat < 128
    · exact of_ascii (q := fun e => f e.toLower = f e) ascii small
    · rw [toLower_eq_self small]
  rw [← all c, same, all d]

theorem lowercaseChar_congr {c d : Char} (same : c.toLower = d.toLower) :
    lowercaseChar c = lowercaseChar d :=
  congr_toLower (fun code small => (ascii_checked code small).1) same

theorem caseIgnorable_congr {c d : Char} (same : c.toLower = d.toLower) :
    caseIgnorableCodePoints.contains c = caseIgnorableCodePoints.contains d :=
  congr_toLower (fun code small => (ascii_checked code small).2.1) same

theorem cased_congr {c d : Char} (same : c.toLower = d.toLower) :
    casedCodePoints.contains c = casedCodePoints.contains d :=
  congr_toLower (fun code small => (ascii_checked code small).2.2.1) same

theorem sigma_congr {c d : Char} (same : c.toLower = d.toLower) :
    (c == 'Σ') = (d == 'Σ') :=
  congr_toLower (f := fun e => e == 'Σ') (fun code small => (ascii_checked code small).2.2.2.1) same

def CaseRun.codes (run : CaseRun) : List Nat :=
  List.range' run.first ((run.last - run.first) / run.stride + 1) run.stride

def CaseRun.lowered (run : CaseRun) : List Nat :=
  run.codes.map fun code : Nat => (code + run.shift).toNat

/-- The code points that have a lower case of their own: the runs, the ASCII letters and `İ`. -/
def mappedRuns : List CaseRun :=
  ⟨'A'.toNat, 'Z'.toNat, 1, 32⟩ :: ⟨'İ'.toNat, 'İ'.toNat, 1, 0⟩ :: lowercaseRuns

/-- A set of code points as the bits of a number, so that one step compares two sets. -/
def maskOf (codes : List Nat) : Nat :=
  codes.foldr (fun code mask => 1 <<< code ||| mask) 0

theorem CaseRun.mem_codes {run : CaseRun} {code : Nat} (maps : run.maps code) :
    code ∈ run.codes := by
  obtain ⟨⟨least, greatest⟩, stride⟩ : (run.first ≤ code ∧ code ≤ run.last) ∧
      (code - run.first) % run.stride = 0 := by simpa [CaseRun.maps] using maps
  rw [CaseRun.codes, List.mem_range']
  refine ⟨(code - run.first) / run.stride, ?_, ?_⟩
  · apply Nat.lt_succ_of_le
    exact Nat.div_le_div_right (Nat.sub_le_sub_right greatest run.first)
  · rw [Nat.mul_div_cancel' (Nat.dvd_of_mod_eq_zero stride)]
    omega

theorem testBit_maskOf {codes : List Nat} {code : Nat} (member : code ∈ codes) :
    (maskOf codes).testBit code = true := by
  induction codes with
  | nil => cases member
  | cons first codes ih =>
      rw [maskOf, List.foldr_cons, Nat.testBit_or, Bool.or_eq_true]
      rcases List.mem_cons.mp member with rfl | later
      · left
        rw [Nat.testBit_shiftLeft]
        simp
      · exact Or.inr (ih later)

theorem runs_checked :
    maskOf (mappedRuns.flatMap CaseRun.codes) &&&
        maskOf (lowercaseRuns.flatMap CaseRun.lowered) = 0 ∧
      ∀ run ∈ lowercaseRuns, 65 ≤ run.first + run.shift := by
  decide +kernel

theorem not_maps_lowered {run other : CaseRun} (mapped : run ∈ mappedRuns)
    (among : other ∈ lowercaseRuns) {code : Nat} (maps : other.maps code) :
    run.maps (code + other.shift).toNat = false := by
  rw [Bool.eq_false_iff]
  intro again
  have target : (code + other.shift).toNat ∈ other.lowered :=
    List.mem_map_of_mem (CaseRun.mem_codes maps)
  have upper := testBit_maskOf (List.mem_flatMap.mpr ⟨run, mapped, CaseRun.mem_codes again⟩)
  have lower := testBit_maskOf (List.mem_flatMap.mpr ⟨other, among, target⟩)
  have both := congrArg (fun mask => mask.testBit (code + other.shift).toNat) runs_checked.1
  simp only [Nat.testBit_and, Nat.zero_testBit, upper, lower] at both
  contradiction

theorem lowercaseChar_ascii {c : Char} (small : c.toNat < 128) : lowercaseChar c = [c.toLower] := by
  rw [lowercaseChar, if_pos small]

theorem lowercaseChar_wide {c : Char} (wide : ¬c.toNat < 128) (plain : c ≠ 'İ') :
    lowercaseChar c = match lowercaseRuns.find? fun run => run.maps c.toNat with
      | some run => [Char.ofNat (c.toNat + run.shift).toNat]
      | none => [c] := by
  rw [lowercaseChar, if_neg wide, if_neg (by simpa using plain)]
  rfl

theorem lowercaseChar_unmapped {c : Char}
    (unmapped : ∀ run ∈ mappedRuns, run.maps c.toNat = false) :
    lowercaseChar c = [c] := by
  obtain ⟨upper, dotted, others⟩ : CaseRun.maps ⟨'A'.toNat, 'Z'.toNat, 1, 32⟩ c.toNat = false ∧
      CaseRun.maps ⟨'İ'.toNat, 'İ'.toNat, 1, 0⟩ c.toNat = false ∧
      ∀ run ∈ lowercaseRuns, run.maps c.toNat = false := by
    simpa only [mappedRuns, List.forall_mem_cons] using unmapped
  by_cases small : c.toNat < 128
  · have lower : c.toLower = c := of_ascii (q := fun c =>
      CaseRun.maps ⟨'A'.toNat, 'Z'.toNat, 1, 32⟩ c.toNat = false → c.toLower = c)
      (fun code small => (ascii_checked code small).2.2.2.2.1) small upper
    rw [lowercaseChar_ascii small, lower]
  · have plain : c ≠ 'İ' := by
      intro same
      rw [same] at dotted
      exact absurd dotted (by decide)
    have none : lowercaseRuns.find? (fun run => run.maps c.toNat) = none := by
      simpa only [List.find?_eq_none, Bool.not_eq_true] using others
    rw [lowercaseChar_wide small plain, none]

theorem toNat_ofNat_or_nul (code : Nat) :
    (Char.ofNat code).toNat = code ∨ Char.ofNat code = '\x00' := by
  by_cases valid : code.isValidChar
  · left
    rw [Char.ofNat, dif_pos valid]
    rfl
  · right
    rw [Char.ofNat, dif_neg valid]
    rfl

theorem lowercaseChar_ofNat {code : Nat} (unmapped : ∀ run ∈ mappedRuns, run.maps code = false) :
    lowercaseChar (Char.ofNat code) = [Char.ofNat code] := by
  rcases toNat_ofNat_or_nul code with same | nul
  · exact lowercaseChar_unmapped (by rwa [same])
  · rw [nul]
    rfl

@[simp] theorem lowercaseChar_dotted : lowercaseChar 'İ' = ['i', '\u0307'] :=
  rfl

theorem sigmas_checked : lowercaseChar 'Σ' ≠ ['Σ'] ∧ lowercaseChar 'σ' = ['σ'] ∧
    lowercaseChar 'ς' = ['ς'] ∧ ∀ d ∈ lowercaseChar 'İ', lowercaseChar d = [d] := by
  decide +kernel

theorem lowercaseChar_cases (c : Char) : c.toNat < 128 ∨ c = 'İ' ∨ lowercaseChar c = [c] ∨
    ∃ run ∈ lowercaseRuns, run.maps c.toNat ∧
      lowercaseChar c = [Char.ofNat (c.toNat + run.shift).toNat] := by
  by_cases small : c.toNat < 128
  · exact Or.inl small
  by_cases dotted : c = 'İ'
  · exact Or.inr (Or.inl dotted)
  have same := lowercaseChar_wide small dotted
  cases found : lowercaseRuns.find? fun run : CaseRun => run.maps c.toNat with
  | none =>
      rw [found] at same
      exact Or.inr (Or.inr (Or.inl same))
  | some run =>
      rw [found] at same
      exact Or.inr (Or.inr (Or.inr ⟨run, List.mem_of_find?_eq_some found,
        List.find?_some (p := fun run : CaseRun => run.maps c.toNat) found, same⟩))

theorem lowercaseChar_of_mem {c d : Char} (member : d ∈ lowercaseChar c) :
    lowercaseChar d = [d] := by
  rcases lowercaseChar_cases c with small | rfl | same | ⟨run, among, maps, same⟩
  · have lowered := of_ascii (q := fun c => lowercaseChar c.toLower = lowercaseChar c)
      (fun code small => (ascii_checked code small).1) small
    rw [lowercaseChar_ascii small] at member lowered
    rw [List.mem_singleton.mp member, lowered]
  · exact sigmas_checked.2.2.2 d member
  · rw [same, List.mem_singleton] at member
    rw [member, same]
  · rw [same, List.mem_singleton] at member
    rw [member]
    apply lowercaseChar_ofNat
    intro other mapped
    exact not_maps_lowered mapped among maps

theorem eq_of_mem_lowercaseChar {c d : Char} (member : d ∈ lowercaseChar c)
    (mark : d = '(' ∨ d = ')') : c = d := by
  rcases lowercaseChar_cases c with small | rfl | same | ⟨run, among, maps, same⟩
  · have lowered := of_ascii (q := fun c => c.toLower = '(' ∨ c.toLower = ')' → c = c.toLower)
      (fun code small => (ascii_checked code small).2.2.2.2.2) small
    rw [lowercaseChar_ascii small, List.mem_singleton] at member
    rw [member] at mark ⊢
    exact lowered mark
  · rw [lowercaseChar_dotted] at member
    revert mark
    simp only [List.mem_cons, List.not_mem_nil, or_false] at member
    rcases member with rfl | rfl <;> decide
  · rw [same, List.mem_singleton] at member
    exact member.symm
  · have large := runs_checked.2 run among
    have least : run.first ≤ c.toNat := by
      simp only [CaseRun.maps, Bool.and_eq_true, decide_eq_true_eq] at maps
      exact maps.1.1
    rw [same, List.mem_singleton] at member
    rcases toNat_ofNat_or_nul (c.toNat + run.shift).toNat with code | nul
    · have bound : d.toNat < 65 := by
        rcases mark with rfl | rfl <;> decide
      rw [← member] at code
      omega
    · rw [nul] at member
      exact absurd mark (by rw [member]; decide)

theorem meetsCased_cons (c : Char) (text : List Char) : meetsCased (c :: text) =
    if caseIgnorableCodePoints.contains c then meetsCased text else casedCodePoints.contains c := by
  by_cases ignorable : caseIgnorableCodePoints.contains c <;> simp [meetsCased, ignorable]

theorem meetsCased_congr {text other : List Char}
    (same : text.map Char.toLower = other.map Char.toLower) :
    meetsCased text = meetsCased other := by
  induction text generalizing other with
  | nil => rw [List.map_eq_nil_iff.mp same.symm]
  | cons c text ih =>
      obtain ⟨d, others, rfl, first, later⟩ := List.map_eq_cons_iff.mp same.symm
      rw [meetsCased_cons, meetsCased_cons, caseIgnorable_congr first, cased_congr first,
        ih later.symm]

theorem lowercase_congr {text other : List Char}
    (same : text.map Char.toLower = other.map Char.toLower) : lowercase text = lowercase other := by
  have general : ∀ before before', before.map Char.toLower = before'.map Char.toLower →
      lowercase.go before text = lowercase.go before' other := by
    induction text generalizing other with
    | nil =>
        intro _ _ _
        rw [List.map_eq_nil_iff.mp same.symm]
        rfl
    | cons c text ih =>
        obtain ⟨d, others, rfl, first, later⟩ := List.map_eq_cons_iff.mp same.symm
        intro before before' sameBefore
        rw [lowercase.go, lowercase.go, sigma_congr first, lowercaseChar_congr first,
          meetsCased_congr sameBefore, meetsCased_congr later,
          ih later.symm (c :: before) (d :: before') (by simp [first, sameBefore])]
  exact general [] [] rfl

theorem ne_sigma_of_low {c : Char} (low : lowercaseChar c = [c]) : c ≠ 'Σ' := by
  rintro rfl
  exact sigmas_checked.1 low

theorem lowercase_eq_self {text : List Char} (low : ∀ c ∈ text, lowercaseChar c = [c]) :
    lowercase text = text := by
  have general : ∀ before, lowercase.go before text = text := by
    induction text with
    | nil => exact fun _ => rfl
    | cons c rest ih =>
        obtain ⟨here, later⟩ := List.forall_mem_cons.mp low
        intro before
        simp [lowercase.go, ne_sigma_of_low here, here, ih later]
  exact general []

/-- What stands in the lower case of a text comes from one of its characters; `σ` and `ς` both come
from `Σ`. -/
theorem mem_lowercase {text : List Char} {d : Char} (member : d ∈ lowercase text) :
    d = 'σ' ∨ d = 'ς' ∨ ∃ c ∈ text, d ∈ lowercaseChar c := by
  rw [lowercase] at member
  generalize [] = before at member
  induction text generalizing before with
  | nil => exact absurd member List.not_mem_nil
  | cons c rest ih =>
      simp only [lowercase.go, List.mem_append] at member
      rcases member with here | later
      · split at here
        · split at here <;> simp_all
        · exact Or.inr (Or.inr ⟨c, List.mem_cons_self, here⟩)
      · rcases ih (c :: before) later with sigma | final | ⟨e, inRest, source⟩
        · exact Or.inl sigma
        · exact Or.inr (Or.inl final)
        · exact Or.inr (Or.inr ⟨e, List.mem_cons_of_mem c inRest, source⟩)

theorem low_of_mem_lowercase {text : List Char} {d : Char} (member : d ∈ lowercase text) :
    lowercaseChar d = [d] := by
  rcases mem_lowercase member with rfl | rfl | ⟨c, _, here⟩
  · exact sigmas_checked.2.1
  · exact sigmas_checked.2.2.1
  · exact lowercaseChar_of_mem here

theorem not_mem_lowercase {text : List Char} {d : Char} (mark : d = '(' ∨ d = ')')
    (absent : d ∉ text) : d ∉ lowercase text := by
  intro member
  rcases mem_lowercase member with sigma | final | ⟨c, inText, here⟩
  · subst sigma
    revert mark
    decide
  · subst final
    revert mark
    decide
  · rw [eq_of_mem_lowercaseChar here mark] at inText
    exact absent inText

/-- Whether a character has no case and ends a word that may end with a sigma. -/
def isFence (c : Char) : Bool :=
  lowercaseChar c == [c] && !caseIgnorableCodePoints.contains c && !casedCodePoints.contains c

theorem low_of_isFence {c : Char} (fence : isFence c) : lowercaseChar c = [c] := by
  simp only [isFence, Bool.and_eq_true, beq_iff_eq] at fence
  exact fence.1.1

theorem isFence_of_isBlank {c : Char} (blank : isBlank c) : isFence c := by
  have all : ∀ code ∈ blankCodes, isFence (Char.ofNat code) := by decide +kernel
  have here := all c.toNat (toNat_mem_blankCodes blank)
  rwa [Char.ofNat_toNat] at here

theorem stops_unfenced {text : List Char} (stops : Stops isSolid text) :
    Stops (fun c => !isFence c) text := by
  apply stops.mono
  intro c unfenced
  cases blank : isBlank c with
  | false => rw [isSolid, blank, Bool.not_false]
  | true =>
      rw [isFence_of_isBlank blank, Bool.not_true] at unfenced
      contradiction

theorem stops_unfenced_of_blanks {blanks : List Char} (blank : ∀ c ∈ blanks, isBlank c) :
    Stops (fun c => !isFence c) blanks :=
  stops_unfenced (stops_isSolid_of_blanks blank)

theorem meetsCased_fence {c : Char} (fence : isFence c) (text rest : List Char) :
    meetsCased (text ++ c :: rest) = meetsCased text := by
  simp only [isFence, Bool.and_eq_true, Bool.not_eq_true'] at fence
  induction text with
  | nil => simp [meetsCased, fence.1.2, fence.2]
  | cons d text ih => rw [List.cons_append, meetsCased_cons, meetsCased_cons, ih]

theorem go_behind_fence {c : Char} (fence : isFence c) (read before text : List Char) :
    lowercase.go (read ++ c :: before) text = lowercase.go read text := by
  induction text generalizing read with
  | nil => rfl
  | cons d text ih =>
      rw [lowercase.go, lowercase.go, meetsCased_fence fence, ← List.cons_append, ih]

theorem go_fence {c : Char} (fence : isFence c) (before text rest : List Char) :
    lowercase.go before (text ++ c :: rest) = lowercase.go before text ++ c :: lowercase rest := by
  have low := low_of_isFence fence
  induction text generalizing before with
  | nil =>
      have behind := go_behind_fence fence [] before rest
      rw [List.nil_append] at behind
      simp [lowercase.go, ne_sigma_of_low low, low, behind, lowercase]
  | cons d text ih =>
      simp only [List.cons_append, lowercase.go, meetsCased_fence fence, ih, List.append_assoc]

theorem lowercase_fence {c : Char} (fence : isFence c) (text rest : List Char) :
    lowercase (text ++ c :: rest) = lowercase text ++ c :: lowercase rest :=
  go_fence fence [] text rest

theorem lowercase_append {rest : List Char} (fenced : Stops (fun c => !isFence c) rest)
    (text : List Char) : lowercase (text ++ rest) = lowercase text ++ lowercase rest := by
  cases rest with
  | nil => simp [lowercase, lowercase.go]
  | cons c rest =>
      have fence : isFence c := by simpa using stops_cons_iff.mp fenced
      have alone := lowercase_fence fence [] rest
      rw [List.nil_append] at alone
      rw [lowercase_fence fence, alone]
      rfl

theorem lowercase_blanks {blanks : List Char} (blank : ∀ c ∈ blanks, isBlank c) :
    lowercase blanks = blanks :=
  lowercase_eq_self fun c member => low_of_isFence (isFence_of_isBlank (blank c member))

theorem lowercase_append_blanks {blanks : List Char} (blank : ∀ c ∈ blanks, isBlank c)
    (text : List Char) : lowercase (text ++ blanks) = lowercase text ++ blanks := by
  rw [lowercase_append (stops_unfenced_of_blanks blank), lowercase_blanks blank]

theorem lowercase_blanks_append {blanks : List Char} (blank : ∀ c ∈ blanks, isBlank c)
    (text : List Char) : lowercase (blanks ++ text) = blanks ++ lowercase text := by
  induction blanks with
  | nil => rfl
  | cons c blanks ih =>
      obtain ⟨first, later⟩ := List.forall_mem_cons.mp blank
      have apart := lowercase_fence (isFence_of_isBlank first) [] (blanks ++ text)
      rw [ih later] at apart
      exact apart

theorem Respaced.meetsCased_eq {text other : List Char} (respaced : Respaced text other) :
    meetsCased text = meetsCased other := by
  have fenced : ∀ gap text : List Char, gap ≠ [] → (∀ c ∈ gap, isBlank c) →
      meetsCased (gap ++ text) = false := by
    intro gap text filled blank
    obtain ⟨c, gap, rfl⟩ := List.exists_cons_of_ne_nil filled
    exact meetsCased_fence (isFence_of_isBlank (blank c List.mem_cons_self)) [] _
  induction respaced with
  | nil => rfl
  | char c _ ih => rw [meetsCased_cons, meetsCased_cons, ih]
  | run filled blank filled' blank' _ _ =>
      rw [fenced _ _ filled blank, fenced _ _ filled' blank']

theorem go_gap_low {gap : List Char} (filled : gap ≠ []) (blank : ∀ c ∈ gap, isBlank c)
    (before text : List Char) : lowercase.go before (gap ++ text) = gap ++ lowercase text := by
  obtain ⟨c, gap, rfl⟩ := List.exists_cons_of_ne_nil filled
  obtain ⟨first, later⟩ := List.forall_mem_cons.mp blank
  have apart := go_fence (isFence_of_isBlank first) before [] (gap ++ text)
  rwa [lowercase_blanks_append later] at apart

theorem Respaced.lowercase {text other : List Char} (respaced : Respaced text other) :
    Respaced (Text.lowercase text) (Text.lowercase other) := by
  have general : ∀ before, Respaced (lowercase.go before text) (lowercase.go before other) := by
    induction respaced with
    | nil => exact fun _ => .nil
    | char c respaced ih =>
        intro before
        simp only [lowercase.go, respaced.meetsCased_eq]
        exact (Respaced.refl _).append (ih (c :: before))
    | run filled blank filled' blank' _ ih =>
        intro before
        rw [go_gap_low filled blank, go_gap_low filled' blank']
        exact .run filled blank filled' blank' (ih [])
  exact general []

end SqlTemplate.Text
