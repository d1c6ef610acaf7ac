/-! What follows a given start of a text. -/

namespace SqlTemplate.Text

def after? : List Char → List Char → Option (List Char)
  | [], text => some text
  | _ :: _, [] => none
  | s :: start, c :: text => if s = c then after? start text else none

theorem after?_eq_some_iff {start text rest : List Char} :
    after? start text = some rest ↔ text = start ++ rest := by
  fun_induction after? start text with
  | case1 text => simp [eq_comm]
  | case2 => simp
  | case3 s start text ih => simp [ih]
  | case4 s start c text different => simp [Ne.symm different]

@[simp] theorem after?_append (start rest : List Char) : after? start (start ++ rest) = some rest :=
  after?_eq_some_iff.mpr rfl

def beginsWith (start text : List Char) : Bool :=
  (after? start text).isSome

def splitAtFirst? (stop : List Char) : List Char → Option (List Char × List Char)
  | [] => if stop.isEmpty then some ([], []) else none
  | c :: text =>
    match after? stop (c :: text) with
    | some rest => some ([], rest)
    | none => (splitAtFirst? stop text).map fun (before, rest) => (c :: before, rest)

theorem eq_append_of_splitAtFirst? {stop text before rest : List Char}
    (found : splitAtFirst? stop text = some (before, rest)) : text = before ++ stop ++ rest := by
  induction text generalizing before with
  | nil =>
    simp only [splitAtFirst?] at found
    split at found
    · rename_i empty
      simp_all
    · simp at found
  | cons c text ih =>
    simp only [splitAtFirst?] at found
    split at found
    · rename_i after here
      simp only [Option.some.injEq, Prod.mk.injEq] at found
      rw [after?_eq_some_iff.mp here, ← found.1, ← found.2]
      rfl
    · obtain ⟨⟨earlier, later⟩, parts, same⟩ := Option.map_eq_some_iff.mp found
      simp only [Prod.mk.injEq] at same
      rw [same.2] at parts
      rw [ih parts, ← same.1]
      simp

end SqlTemplate.Text
