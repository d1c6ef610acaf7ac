import SqlTemplate.Args

/-! What is found under a name is the entry of that name. -/

namespace SqlTemplate

variable {α : Type}

theorem Keyed.find?_of_mem {entries : List (String × α)} (ascending : Keyed.Ascending entries)
    {name : String} {value : α} (member : (name, value) ∈ entries) :
    Keyed.find? name entries = some value := by
  induction entries with
  | nil => cases member
  | cons first rest ih =>
      obtain ⟨other, old⟩ := first
      obtain ⟨above, ordered⟩ := List.pairwise_cons.mp ascending
      rcases List.mem_cons.mp member with here | later
      · cases here
        simp [Keyed.find?]
      · have different : name ≠ other := by
          intro same
          exact String.lt_irrefl _ (same ▸ above (name, value) later)
        simp [Keyed.find?, different, ih ordered later]

theorem Keyed.mem_of_find? {entries : List (String × α)} {name : String} {value : α}
    (found : Keyed.find? name entries = some value) : (name, value) ∈ entries := by
  induction entries with
  | nil => cases found
  | cons first rest ih =>
      rw [Keyed.find?] at found
      split at found
      next same =>
        cases found
        rw [same]
        exact List.mem_cons_self
      next => exact List.mem_cons_of_mem _ (ih found)

theorem Keyed.mem_names_iff {entries : List (String × α)} {name : String} :
    name ∈ entries.map Prod.fst ↔ (Keyed.find? name entries).isSome := by
  induction entries with
  | nil => simp [Keyed.find?]
  | cons first rest ih =>
      obtain ⟨other, value⟩ := first
      by_cases here : name = other
      · simp [Keyed.find?, here]
      · simp [Keyed.find?, here, ← ih]

theorem Keyed.eq_of_find? {entries others : List (String × α)}
    (ascending : Keyed.Ascending entries) (ascendingOthers : Keyed.Ascending others)
    (same : ∀ name, Keyed.find? name entries = Keyed.find? name others) : entries = others := by
  have distinct : ∀ {list : List (String × α)}, Keyed.Ascending list → list.Nodup := by
    intro list below
    refine List.Pairwise.imp ?_ below
    rintro a b less rfl
    exact String.lt_irrefl a.1 less
  have members : ∀ entry, entry ∈ entries ↔ entry ∈ others := by
    rintro ⟨name, value⟩
    constructor
    · intro member
      exact mem_of_find? ((same name).symm.trans (find?_of_mem ascending member))
    · intro member
      exact mem_of_find? ((same name).trans (find?_of_mem ascendingOthers member))
  have permuted := (List.perm_ext_iff_of_nodup (distinct ascending)
    (distinct ascendingOthers)).mpr members
  apply permuted.eq_of_pairwise _ ascending ascendingOthers
  intro a b _ _ below above
  exact absurd (String.lt_trans below above) (String.lt_irrefl a.1)

theorem Keyed.names_eq_of_find? {β : Type} {entries : List (String × α)}
    {others : List (String × β)} (ascending : Keyed.Ascending entries)
    (ascendingOthers : Keyed.Ascending others)
    (same : ∀ name, (Keyed.find? name entries).isSome = (Keyed.find? name others).isSome) :
    entries.map Prod.fst = others.map Prod.fst := by
  have ordered : (entries.map Prod.fst).Pairwise (· < ·) := List.pairwise_map.mpr ascending
  have orderedOthers : (others.map Prod.fst).Pairwise (· < ·) :=
    List.pairwise_map.mpr ascendingOthers
  have distinct : ∀ {names : List String}, names.Pairwise (· < ·) → names.Nodup := by
    intro names below
    refine List.Pairwise.imp ?_ below
    rintro a b less rfl
    exact String.lt_irrefl a less
  have permuted := (List.perm_ext_iff_of_nodup (distinct ordered) (distinct orderedOthers)).mpr
    fun name => by rw [Keyed.mem_names_iff, Keyed.mem_names_iff, same]
  apply permuted.eq_of_pairwise _ ordered orderedOthers
  intro a b _ _ below above
  exact absurd (String.lt_trans below above) (String.lt_irrefl a)

namespace Args

def SameKeys (args other : Args) : Prop :=
  ∀ name, args.contains name = other.contains name

def names (args : Args) : List String := args.entries.map Prod.fst

def values (args : Args) : List Value := args.entries.map Prod.snd

@[simp] theorem length_values (args : Args) : args.values.length = args.names.length := by
  simp [names, values]

theorem sameKeys_iff {args other : Args} : args.SameKeys other ↔ args.names = other.names := by
  constructor
  · intro same
    exact Keyed.names_eq_of_find? args.ascending other.ascending same
  · intro same name
    rw [Bool.eq_iff_iff, contains, contains, get?, get?, ← Keyed.mem_names_iff,
      ← Keyed.mem_names_iff]
    exact Iff.of_eq (congrArg (name ∈ ·) same)

theorem value_of_name {args : Args} {place : Nat} {name : String}
    (there : args.names[place]? = some name) :
    ∃ value, args.get? name = some value ∧ args.values[place]? = some value := by
  simp only [names, List.getElem?_map, Option.map_eq_some_iff] at there
  obtain ⟨⟨_, value⟩, entry, rfl⟩ := there
  refine ⟨value, Keyed.find?_of_mem args.ascending (List.mem_of_getElem? entry), ?_⟩
  simp only [values, List.getElem?_map, entry, Option.map_some]

end Args

end SqlTemplate
