/-! Lists of named entries in ascending order of their names. -/

namespace SqlTemplate.Keyed

variable {α : Type}

def Ascending (entries : List (String × α)) : Prop :=
  entries.Pairwise fun a b => a.1 < b.1

def insert (name : String) (value : α) : List (String × α) → List (String × α)
  | [] => [(name, value)]
  | (other, old) :: rest =>
    if name < other then (name, value) :: (other, old) :: rest
    else if name = other then (name, value) :: rest
    else (other, old) :: insert name value rest

def find? (name : String) : List (String × α) → Option α
  | [] => none
  | (other, value) :: rest => if name = other then some value else find? name rest

theorem lt_of_not_lt_of_ne {a b : String} (notBelow : ¬a < b) (different : a ≠ b) : b < a := by
  by_cases below : b < a
  · exact below
  · exact absurd (String.le_antisymm (String.not_lt.mp below) (String.not_lt.mp notBelow)) different

theorem mem_insert {name : String} {value : α} {entries : List (String × α)} {entry : String × α}
    (member : entry ∈ insert name value entries) : entry = (name, value) ∨ entry ∈ entries := by
  induction entries with
  | nil => simpa [insert] using member
  | cons first rest ih =>
    obtain ⟨other, old⟩ := first
    simp only [insert] at member
    split at member
    · simpa using member
    · split at member
      · rcases List.mem_cons.mp member with here | later
        · exact Or.inl here
        · exact Or.inr (List.mem_cons_of_mem _ later)
      · rcases List.mem_cons.mp member with here | later
        · exact Or.inr (here ▸ List.mem_cons_self)
        · rcases ih later with new | old
          · exact Or.inl new
          · exact Or.inr (List.mem_cons_of_mem _ old)

theorem ascending_insert {name : String} {value : α} {entries : List (String × α)}
    (ascending : Ascending entries) : Ascending (insert name value entries) := by
  induction entries with
  | nil => simp [insert, Ascending]
  | cons first rest ih =>
    obtain ⟨other, old⟩ := first
    obtain ⟨above, ordered⟩ := List.pairwise_cons.mp ascending
    simp only [insert]
    split
    · rename_i below
      refine List.pairwise_cons.mpr ⟨fun entry member => ?_, ascending⟩
      rcases List.mem_cons.mp member with here | later
      · exact here ▸ below
      · exact String.lt_trans below (above entry later)
    · split
      · rename_i same
        exact List.pairwise_cons.mpr ⟨fun entry member => same ▸ above entry member, ordered⟩
      · rename_i notBelow different
        refine List.pairwise_cons.mpr ⟨fun entry member => ?_, ih ordered⟩
        rcases mem_insert member with new | old
        · exact new ▸ lt_of_not_lt_of_ne notBelow different
        · exact above entry old

@[simp] theorem find?_insert (name other : String) (value : α) (entries : List (String × α)) :
    find? other (insert name value entries) =
      if other = name then some value else find? other entries := by
  induction entries with
  | nil => simp [insert, find?]
  | cons first rest ih =>
    obtain ⟨key, old⟩ := first
    simp only [insert]
    split
    · simp [find?]
    · split
      · rename_i same
        subst same
        by_cases here : other = name <;> simp [find?, here]
      · rename_i different
        by_cases here : other = key
        · have : other ≠ name := fun eq => different (eq.symm.trans here)
          simp [find?, here, Ne.symm different]
        · simp [find?, here, ih]

end SqlTemplate.Keyed
