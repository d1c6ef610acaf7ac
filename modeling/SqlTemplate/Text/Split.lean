/-! Splitting a text at a separator. -/

namespace SqlTemplate.Text

def split (separator : Char) : List Char → List (List Char)
  | [] => [[]]
  | c :: rest =>
    if c = separator then [] :: split separator rest
    else
      match split separator rest with
      | piece :: pieces => (c :: piece) :: pieces
      | [] => [[c]]

theorem split_ne_nil (separator : Char) (text : List Char) : split separator text ≠ [] := by
  fun_cases split separator text <;> simp

@[simp] theorem intersperse_split (separator : Char) (text : List Char) :
    ((split separator text).intersperse [separator]).flatten = text := by
  induction text with
  | nil => rfl
  | cons c rest ih =>
    obtain ⟨piece, pieces, parts⟩ := List.exists_cons_of_ne_nil (split_ne_nil separator rest)
    simp only [split, parts] at ih ⊢
    split
    · rename_i same
      simpa [same] using ih
    · cases pieces <;> simpa using ih

end SqlTemplate.Text
