import SqlTemplate.Proofs.Template.Direct

/-!
Slots stand for computations without being confused with text: on texts without NUL, compiling
through slots is compiling each stretch of text on its own.
-/

namespace SqlTemplate.Template

open Direct

variable {τ : Type}

/-- The text of some stretches, where slots counted from `slot` stand for the computations. -/
def slotted (slot : Nat) (text : List Char) : List (τ × List Char) → List Char
  | [] => text
  | (_, after) :: later => text ++ Placeholder.slotText slot ++ slotted (slot + 1) after later

@[simp]
theorem slotted_append (slot : Nat) (first second : List Char) (later : List (τ × List Char)) :
    slotted slot (first ++ second) later = first ++ slotted slot second later := by
  cases later <;> simp [slotted]

theorem splice_eq (slot : Nat) (fragments : List String) (embedded : List (Embedded τ)) :
    splice slot fragments embedded =
      (slotted slot (stretches fragments embedded).1 (stretches fragments embedded).2,
        (stretches fragments embedded).2.map Prod.fst) := by
  fun_induction splice slot fragments embedded with
  | case1 => rfl
  | case2 => rfl
  | case3 slot fragment fragments value embedded text computes spliced ih =>
      rw [spliced] at ih
      simp only [Prod.mk.injEq] at ih
      simp [stretches, ih.1, ih.2]
  | case4 slot fragment fragments compute embedded text computes spliced ih =>
      rw [spliced] at ih
      simp only [Prod.mk.injEq] at ih
      simp only [stretches, slotted, ih.1, ih.2, List.map_cons]

def piecesOf (slot : Nat) : List (Item τ) → List Piece
  | [] => []
  | .char c :: rest => .char c :: piecesOf slot rest
  | .named name tag :: rest => .mark (.named name tag) :: piecesOf slot rest
  | .computed _ :: rest => .mark (.slot (Number.digits slot)) :: piecesOf (slot + 1) rest

theorem stops_slotText (slot : Nat) (rest : List Char) :
    Text.Stops (· != '\x00') (Placeholder.slotText slot ++ rest) := by
  rw [Placeholder.slotText, Placeholder.slotOpening_eq]
  exact Text.stops_cons_iff.mpr (by decide)

theorem isDecimalDigit_of_mem_digits {slot : Nat} {c : Char} (member : c ∈ Number.digits slot) :
    Text.isDecimalDigit c := by
  have digit := Number.isDigit_of_mem_digits member
  have ascii : c.toNat < 128 := by
    simp only [Char.isDigit, Bool.and_eq_true, decide_eq_true_eq] at digit
    have upper : c.toNat ≤ 57 := digit.2
    omega
  simp [Text.isDecimalDigit, ascii, digit]

theorem read?_eq_slot_iff {text digits rest : List Char} :
    Placeholder.read? text = some (.slot digits, rest) ↔
      text = Placeholder.slotOpening ++ (digits ++ '\x00' :: rest) ∧ digits ≠ [] ∧
        ∀ c ∈ digits, Text.isDecimalDigit c := by
  constructor
  · intro found
    unfold Placeholder.read? at found
    split at found
    next =>
      obtain ⟨_, _, same, _⟩ := Placeholder.readNamed?_eq_some_iff.mp found
      cases same
    next =>
      split at found
      next after opened =>
        rw [Text.after?_eq_some_iff.mp opened]
        simp only [Placeholder.readSlot?] at found
        split at found
        next closed =>
          split at found
          next => cases found
          next filled =>
            cases found
            refine ⟨?_, by simpa using filled, ?_⟩
            · rw [← closed, List.takeWhile_append_dropWhile]
            · intro c member
              exact List.all_eq_true.mp List.all_takeWhile c member
        next => cases found
      next => cases found
  · rintro ⟨rfl, filled, inside⟩
    have closing : Text.Stops Text.isDecimalDigit ('\x00' :: rest) :=
      Text.stops_cons_iff.mpr (by decide)
    have opened := Text.after?_append Placeholder.slotOpening (digits ++ '\x00' :: rest)
    unfold Placeholder.read?
    split
    next same =>
      rw [Placeholder.slotOpening_eq] at same
      simp at same
    next =>
      rw [opened]
      simp only [Placeholder.readSlot?, Text.takeWhile_append_of_stops inside closing,
        Text.dropWhile_append_of_stops inside closing]
      simp [filled]

@[simp] theorem read?_slotText (slot : Nat) (rest : List Char) :
    Placeholder.read? (Placeholder.slotText slot ++ rest) =
      some (.slot (Number.digits slot), rest) := by
  rw [read?_eq_slot_iff]
  refine ⟨by simp [Placeholder.slotText], Number.digits_ne_nil slot, ?_⟩
  intro c member
  exact isDecimalDigit_of_mem_digits member

theorem split_scanned (slot : Nat) {run more : List Char} {items rest : List (Item τ)}
    (scanned : Scanned run items) (clean : '\x00' ∉ run) (ends : Text.Stops (· != '\x00') more)
    (after : Piece.split more = piecesOf slot rest) :
    Piece.split (run ++ more) = piecesOf slot (items ++ rest) := by
  induction scanned with
  | done => exact after
  | mark marked _ ih =>
      have found := Placeholder.marked_iff_read?.mp (marked.append ends)
      rw [Piece.split_of_read? found, ih fun member => clean (marked.rest_subset member)]
      rfl
  | @char c run items unmarked _ ih =>
      have nothing : Placeholder.read? (c :: (run ++ more)) = none := by
        cases found : Placeholder.read? (c :: (run ++ more)) with
        | none => rfl
        | some result =>
            obtain ⟨placeholder, out⟩ := result
            cases placeholder with
            | named name tag =>
                -- No character of a placeholder is a NUL, so it ends within the stretch, where
                -- none was found.
                have whole : Placeholder.Marked ((c :: run) ++ more) name tag out :=
                  Placeholder.marked_iff_read?.mpr found
                obtain ⟨_, _, marked⟩ := whole.of_append ends
                exact absurd marked (unmarked _ _ _)
            | slot digits =>
                have nul := Placeholder.eq_nul_of_read?_slot found
                exact absurd (nul ▸ List.mem_cons_self) clean
      rw [List.cons_append, Piece.split_cons nothing,
        ih fun member => clean (List.mem_cons_of_mem c member)]
      rfl

theorem split_slotted (slot : Nat) {text : List Char} {later : List (τ × List Char)}
    {items : List (Item τ)} (reads : Reads text later items) (clean : '\x00' ∉ text)
    (cleanLater : ∀ entry ∈ later, '\x00' ∉ entry.2) :
    Piece.split (slotted slot text later) = piecesOf slot items := by
  induction reads generalizing slot with
  | @last text items scanned =>
      have whole : Piece.split (text ++ []) = piecesOf slot (items ++ []) :=
        split_scanned slot scanned clean Text.stops_nil Piece.split_nil
      simpa [slotted] using whole
  | @next text after compute later items rest scanned _ ih =>
      have cleanAfter := cleanLater (compute, after) List.mem_cons_self
      have tail := ih (slot + 1) cleanAfter
        fun entry member => cleanLater entry (List.mem_cons_of_mem _ member)
      rw [slotted, List.append_assoc]
      apply split_scanned slot scanned clean (stops_slotText _ _)
      rw [Piece.split_of_read? (read?_slotText _ _), tail]
      rfl

def computesOf : List (Item τ) → List τ
  | [] => []
  | .computed compute :: rest => compute :: computesOf rest
  | .char _ :: rest => computesOf rest
  | .named _ _ :: rest => computesOf rest

/-- Slots of which the first are taken and the others still hold their computations. -/
def slotsFrom (taken : Nat) (computes : List τ) : List (Option τ) :=
  List.replicate taken none ++ computes.map some

theorem takeSlot_digits (taken : Nat) (compute : τ) (computes : List τ) :
    takeSlot (slotsFrom taken (compute :: computes)) (Number.digits taken) =
      .ok (.ofSlot taken compute, slotsFrom (taken + 1) computes) := by
  have number : slotNumber? (Number.digits taken) = some taken := by
    have ascii : (Number.digits taken).all Char.isDigit := by
      rw [List.all_eq_true]
      intro c member
      exact Number.isDigit_of_mem_digits member
    rw [slotNumber?, if_pos ascii, Number.ofDigits_digits]
  have held : (slotsFrom taken (compute :: computes))[taken]? = some (some compute) := by
    simp [slotsFrom]
  have left : (slotsFrom taken (compute :: computes)).set taken none =
      slotsFrom (taken + 1) computes := by
    simp [slotsFrom, List.replicate_succ']
  simp only [takeSlot, number, held, left]

def segmentsOf (slot : Nat) : List (Item τ) → Except TemplateError (List (Statement.Segment τ))
  | [] => .ok []
  | .char c :: rest => (segmentsOf slot rest).map (.char c :: ·)
  | .named name tag :: rest => do
    let type ← ParamType.ofTagIfAny tag
    (segmentsOf slot rest).map (.param (.ofName (String.ofList name) type) :: ·)
  | .computed compute :: rest =>
    (segmentsOf (slot + 1) rest).map (.param (.ofSlot slot compute) :: ·)

/-- Slots are met in the order they were numbered in: when `taken` of them are taken, the next slot
holds the next computation. -/
theorem resolveAll_piecesOf (taken : Nat) (items : List (Item τ)) :
    resolveAll (slotsFrom taken (computesOf items)) (piecesOf taken items) =
      (segmentsOf taken items).map fun segments =>
        (segments, slotsFrom (taken + (computesOf items).length) []) := by
  induction items generalizing taken with
  | nil => rfl
  | cons item rest ih =>
      cases item with
      | char c =>
          simp only [piecesOf, computesOf, segmentsOf]
          rw [resolveAll_char, ih]
          cases segmentsOf taken rest <;> rfl
      | named name tag =>
          simp only [piecesOf, computesOf, segmentsOf]
          cases declared : ParamType.ofTagIfAny tag with
          | error e =>
              have refused : resolve (slotsFrom taken (computesOf rest)) (.named name tag) =
                  .error e := by
                rw [resolve, declared]
                rfl
              rw [resolveAll_mark_error refused]
              rfl
          | ok type =>
              have resolved : resolve (slotsFrom taken (computesOf rest)) (.named name tag) =
                  .ok (.ofName (String.ofList name) type, slotsFrom taken (computesOf rest)) := by
                rw [resolve, declared]
                rfl
              rw [resolveAll_mark resolved, ih]
              change _ = ((segmentsOf taken rest).map _).map _
              cases segmentsOf taken rest <;> rfl
      | computed compute =>
          have resolved : resolve (slotsFrom taken (compute :: computesOf rest))
              (.slot (Number.digits taken)) =
                .ok (.ofSlot taken compute, slotsFrom (taken + 1) (computesOf rest)) :=
            takeSlot_digits taken compute (computesOf rest)
          have length : taken + (compute :: computesOf rest).length =
              taken + 1 + (computesOf rest).length := by
            simp only [List.length_cons]
            omega
          simp only [piecesOf, computesOf, segmentsOf]
          rw [length, resolveAll_mark resolved, ih]
          cases segmentsOf (taken + 1) rest <;> rfl

theorem segmentsOf_map (next slot : Nat) (items : List (Item τ)) :
    ((segmentsOf slot items).map fun segments =>
        (Statement.textOf next segments, Statement.paramsOf segments)) =
      (paramsOf slot items).map fun params => (textOf next items, params) := by
  induction items generalizing next slot with
  | nil => rfl
  | cons item rest ih =>
      cases item with
      | char c =>
          have tail := ih next slot
          simp only [segmentsOf, paramsOf]
          cases segments : segmentsOf slot rest <;> cases params : paramsOf slot rest <;>
            simp_all [Except.map, Statement.textOf, Statement.paramsOf, textOf]
      | named name tag =>
          have tail := ih (next + 1) slot
          simp only [segmentsOf, paramsOf]
          cases ParamType.ofTagIfAny tag with
          | error e => rfl
          | ok type =>
              change ((segmentsOf slot rest).map _).map _ = ((paramsOf slot rest).map _).map _
              cases segments : segmentsOf slot rest <;> cases params : paramsOf slot rest <;>
                simp_all [Except.map, Statement.textOf, Statement.paramsOf, textOf,
                  Statement.marker, Param.ofName]
      | computed compute =>
          have tail := ih (next + 1) (slot + 1)
          simp only [segmentsOf, paramsOf]
          cases segments : segmentsOf (slot + 1) rest <;>
            cases params : paramsOf (slot + 1) rest <;>
              simp_all [Except.map, Statement.textOf, Statement.paramsOf, textOf,
                Statement.marker, Param.ofSlot]

theorem segmentsOf_ofSegments (items : List (Item τ)) :
    (segmentsOf 0 items).map Statement.ofSegments = assemble items := by
  have same := segmentsOf_map 1 0 items
  rw [assemble]
  cases segments : segmentsOf 0 items <;> cases params : paramsOf 0 items <;>
    simp_all [Except.map, Statement.ofSegments]

@[simp] theorem computesOf_append (items rest : List (Item τ)) :
    computesOf (items ++ rest) = computesOf items ++ computesOf rest := by
  fun_induction computesOf items <;> simp_all [computesOf]

theorem computesOf_scanned {text : List Char} {items : List (Item τ)}
    (scanned : Scanned text items) : computesOf items = [] := by
  induction scanned with
  | done => rfl
  | mark _ _ ih => exact ih
  | char _ _ ih => exact ih

theorem computesOf_reads {text : List Char} {later : List (τ × List Char)}
    {items : List (Item τ)} (reads : Reads text later items) :
    computesOf items = later.map Prod.fst := by
  induction reads with
  | last scanned => exact computesOf_scanned scanned
  | next scanned _ ih =>
      rw [computesOf_append, computesOf_scanned scanned, computesOf, ih]
      rfl

/-- No literal fragment and no text of a spliced value holds a NUL. -/
def Clean (fragments : List String) (embedded : List (Embedded τ)) : Prop :=
  (∀ fragment ∈ fragments, '\x00' ∉ fragment.toList) ∧
    ∀ value, .raw value ∈ embedded → '\x00' ∉ value.display.toList

theorem Clean.tail {fragment : String} {fragments : List String} {first : Embedded τ}
    {embedded : List (Embedded τ)} (clean : Clean (fragment :: fragments) (first :: embedded)) :
    Clean fragments embedded := by
  constructor
  · intro other member
    exact clean.1 other (List.mem_cons_of_mem _ member)
  · intro value member
    exact clean.2 value (List.mem_cons_of_mem _ member)

theorem stretches_clean {fragments : List String} {embedded : List (Embedded τ)}
    (clean : Clean fragments embedded) :
    '\x00' ∉ (stretches fragments embedded).1 ∧
      ∀ entry ∈ (stretches fragments embedded).2, '\x00' ∉ entry.2 := by
  fun_induction stretches fragments embedded with
  | case1 => simp
  | case2 fragment fragments => exact ⟨clean.1 fragment List.mem_cons_self, by simp⟩
  | case3 fragment fragments value embedded ih =>
      obtain ⟨first, others⟩ := ih clean.tail
      refine ⟨?_, others⟩
      simp only [List.mem_append, not_or]
      exact ⟨⟨clean.1 fragment List.mem_cons_self, clean.2 value List.mem_cons_self⟩, first⟩
  | case4 fragment fragments compute embedded ih =>
      obtain ⟨first, others⟩ := ih clean.tail
      refine ⟨clean.1 fragment List.mem_cons_self, ?_⟩
      rintro entry member
      rcases List.mem_cons.mp member with here | later
      · exact here ▸ first
      · exact others entry later

theorem compile_of_split {fragments : List String} {embedded : List (Embedded τ)}
    {items : List (Item τ)} (balanced : fragments.length = embedded.length + 1)
    (reads : Reads (stretches fragments embedded).1 (stretches fragments embedded).2 items)
    (split : Piece.split (splice 0 fragments embedded).1 = piecesOf 0 items) :
    compile fragments embedded = assemble items := by
  have slots : (splice 0 fragments embedded).2.map some = slotsFrom 0 (computesOf items) := by
    rw [splice_eq, computesOf_reads reads]
    rfl
  rw [compile_of_balanced balanced, split, slots, resolveAll_piecesOf, ← segmentsOf_ofSegments]
  cases segmentsOf 0 items with
  | error e => rfl
  | ok segments =>
      -- Every slot was taken by its own marker, so none is left over.
      change (if _ then _ else _) = _
      rw [if_neg (by simp [slotsFrom])]
      rfl

theorem compile_of_reads {fragments : List String} {embedded : List (Embedded τ)}
    {items : List (Item τ)} (balanced : fragments.length = embedded.length + 1)
    (clean : Clean fragments embedded)
    (reads : Reads (stretches fragments embedded).1 (stretches fragments embedded).2 items) :
    compile fragments embedded = assemble items := by
  obtain ⟨first, later⟩ := stretches_clean clean
  apply compile_of_split balanced reads
  rw [splice_eq]
  exact split_slotted 0 reads first later

/-- Slots are not seen in what is compiled: on texts without NUL, the statement is put together
from the one reading of the stretches between the computations, and the only failure is the first
tag that names no type. -/
theorem compile_eq_direct {fragments : List String} {embedded : List (Embedded τ)}
    (balanced : fragments.length = embedded.length + 1) (clean : Clean fragments embedded) :
    ∃ items : List (Item τ),
      (∀ other, Reads (stretches fragments embedded).1 (stretches fragments embedded).2 other ↔
        other = items) ∧
      compile fragments embedded = assemble items ∧
      ((∃ e, compile fragments embedded = .error e) ↔ ∃ tag ∈ tags items, ¬IsTag tag) ∧
      ∀ e, compile fragments embedded = .error e ↔
        ∃ tag, FirstUnknown (tags items) tag ∧ e = .unknownType (String.ofList tag) := by
  obtain ⟨items, reads⟩ := exists_reads (stretches fragments embedded).1
    (stretches fragments embedded).2
  have same := compile_of_reads balanced clean reads
  have fails : ∀ e, compile fragments embedded = .error e ↔
      ∃ tag, FirstUnknown (tags items) tag ∧ e = .unknownType (String.ofList tag) := by
    intro e
    rw [same, assemble, Result.map_eq_error_iff, paramsOf_eq_error_iff]
  refine ⟨items, ?_, same, ?_, fails⟩
  · intro other
    constructor
    · exact reads.unique
    · rintro rfl
      exact reads
  · rw [← exists_firstUnknown_iff]
    constructor
    · rintro ⟨e, failed⟩
      obtain ⟨tag, unknown, _⟩ := (fails e).mp failed
      exact ⟨tag, unknown⟩
    · rintro ⟨tag, unknown⟩
      exact ⟨_, (fails _).mpr ⟨tag, unknown, rfl⟩⟩

theorem compile_eq_direct_spliced :
    let fragments := ["SELECT ", " WHERE a = $(a.b):Integer AND b = ", ":x $(c"]
    let embedded : List (Embedded Nat) := [.raw (.text "$(d)"), .computed 7]
    Clean fragments embedded ∧
      (∃ items, (∀ other, Reads (stretches fragments embedded).1
          (stretches fragments embedded).2 other ↔ other = items) ∧
        compile fragments embedded = assemble items) ∧
      (compile fragments embedded).toOption = some
        ⟨"SELECT $1 WHERE a = $2 AND b = $3:x $(c",
          [⟨"d", .string, .named⟩, ⟨"a.b", .integer, .named⟩,
            ⟨"__transform_0__", .string, .computed 7⟩]⟩ := by
  intro fragments embedded
  have clean : Clean fragments embedded := by
    simp [Clean, fragments, embedded, Value.display]
  obtain ⟨items, unique, same, _⟩ := compile_eq_direct (by rfl) clean
  exact ⟨clean, ⟨items, unique, same⟩, by decide +kernel⟩

end SqlTemplate.Template
