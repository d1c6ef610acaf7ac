import SqlTemplate.Ident
import SqlTemplate.Proofs.Result

/-! Identifiers are written as the texts they are read from. -/

namespace SqlTemplate.Ident

def dotted : List (List Char) → List Char
  | [] => []
  | [part] => part
  | part :: rest => part ++ '.' :: dotted rest

@[simp] theorem dotted_cons_cons (part next : List Char) (rest : List (List Char)) :
    dotted (part :: next :: rest) = part ++ '.' :: dotted (next :: rest) := rfl

theorem textOf_eq_dotted (parts : List Part) : textOf parts = dotted (parts.map Part.text) := by
  induction parts with
  | nil => rfl
  | cons part rest ih =>
      cases rest with
      | nil => rfl
      | cons next rest =>
          change part.text ++ '.' :: textOf (next :: rest) = _
          rw [ih]
          rfl

theorem exists_cons_of_splitParts? {inQuotes : Bool} {text : List Char} {parts : List (List Char)}
    (split : splitParts? inQuotes text = some parts) : ∃ part rest, parts = part :: rest := by
  cases text with
  | nil =>
      simp only [splitParts?] at split
      split at split
      · cases split
      · cases split
        exact ⟨_, _, rfl⟩
  | cons c rest =>
      simp only [splitParts?] at split
      split at split
      · obtain ⟨others, _, rfl⟩ := Option.map_eq_some_iff.mp split
        exact ⟨_, _, rfl⟩
      · split at split
        · cases split
          exact ⟨_, _, rfl⟩
        · cases split

theorem dotted_of_splitParts? {inQuotes : Bool} {text : List Char} {parts : List (List Char)}
    (split : splitParts? inQuotes text = some parts) : dotted parts = text := by
  induction text generalizing inQuotes parts with
  | nil =>
      simp only [splitParts?] at split
      split at split
      · cases split
      · cases split
        rfl
  | cons c rest ih =>
      simp only [splitParts?] at split
      split at split
      next dot =>
        obtain ⟨others, later, rfl⟩ := Option.map_eq_some_iff.mp split
        obtain ⟨next, others, rfl⟩ := exists_cons_of_splitParts? later
        rw [dotted_cons_cons, ih later, dot.1]
        rfl
      next =>
        split at split
        next part others later =>
          cases split
          have whole := ih later
          cases others with
          | nil => rw [← whole]; rfl
          | cons next others =>
              rw [← whole, dotted_cons_cons, dotted_cons_cons]
              rfl
        next => cases split

theorem double_undouble {text : List Char} (paired : hasLoneQuote text = false) :
    double (undouble text) = text := by
  fun_induction undouble text with
  | case1 => rfl
  | case2 rest ih =>
      simp only [hasLoneQuote] at paired
      simp only [double, if_true, ih paired]
  | case3 c rest single ih =>
      rw [hasLoneQuote] at paired
      · simp only [Bool.or_eq_false_iff, beq_eq_false_iff_ne] at paired
        simp only [double, paired.1, if_false, ih paired.2]
      · exact single

theorem between_of_betweenQuotes? {rest inner : List Char}
    (between : betweenQuotes? ('"' :: rest) = some inner) : rest = inner ++ ['"'] := by
  simp only [betweenQuotes?] at between
  split at between
  next last =>
    cases between
    obtain ⟨inner, rfl⟩ := List.getLast?_eq_some_iff.mp last
    rw [List.dropLast_concat]
  next => cases between

theorem text_of_readPart {text : List Char} {part : Part} (accepted : readPart text = .ok part) :
    part.text = text := by
  unfold readPart at accepted
  split at accepted
  next => cases accepted
  next rest =>
    split at accepted
    next => cases accepted
    next => cases accepted
    next inner _ between =>
      split at accepted
      next => cases accepted
      next paired =>
        cases accepted
        rw [Part.text, double_undouble (by simpa using paired), between_of_betweenQuotes? between]
  next c rest _ =>
    split at accepted
    next => cases accepted; rfl
    next => cases accepted

theorem texts_of_mapM_readPart {texts : List (List Char)} {parts : List Part}
    (accepted : texts.mapM readPart = .ok parts) : parts.map Part.text = texts := by
  induction texts generalizing parts with
  | nil => cases accepted; rfl
  | cons text rest ih =>
      rw [List.mapM_cons] at accepted
      obtain ⟨part, first, accepted⟩ := Result.bind_eq_ok_iff.mp accepted
      obtain ⟨others, later, accepted⟩ := Result.bind_eq_ok_iff.mp accepted
      cases accepted
      rw [List.map_cons, text_of_readPart first, ih later]

theorem text_of_read {text : List Char} {ident : Ident} (accepted : Ident.read text = .ok ident) :
    ident.text = text := by
  unfold Ident.read at accepted
  split at accepted
  next => cases accepted
  next =>
    split at accepted
    next => cases accepted
    next =>
      split at accepted
      next => cases accepted
      next parts split =>
        obtain ⟨idents, read, accepted⟩ := Result.bind_eq_ok_iff.mp accepted
        cases accepted
        rw [Ident.text, textOf_eq_dotted, texts_of_mapM_readPart read, dotted_of_splitParts? split]

theorem splitParts?_of_plain {text : List Char} (plain : ∀ c ∈ text, c ≠ '.' ∧ c ≠ '"') :
    splitParts? false text = some [text] := by
  induction text with
  | nil => rfl
  | cons c rest ih =>
      obtain ⟨here, later⟩ := List.forall_mem_cons.mp plain
      simp only [splitParts?, here.1, here.2, false_and, if_false, ih later]

theorem name_of_read {text : List Char} {ident : Ident} (accepted : Ident.read text = .ok ident)
    (plain : ∀ c ∈ text, c ≠ '.' ∧ c ≠ '"') : ident.name = text := by
  unfold Ident.read at accepted
  rw [splitParts?_of_plain plain] at accepted
  split at accepted
  next => cases accepted
  next =>
    split at accepted
    next => cases accepted
    next =>
      obtain ⟨parts, read, accepted⟩ := Result.bind_eq_ok_iff.mp accepted
      cases accepted
      obtain ⟨part, rfl⟩ : ∃ part, parts = [part] := by
        have one : parts.length = 1 := by
          simpa using congrArg List.length (texts_of_mapM_readPart read)
        exact List.length_eq_one_iff.mp one
      have written : part.text = text := by
        simpa using texts_of_mapM_readPart read
      cases part with
      | bare name => exact written
      | quoted name =>
          have quote : '"' ∈ text := by
            rw [← written]
            exact List.mem_cons_self
          exact absurd rfl (plain '"' quote).2

end SqlTemplate.Ident
