import BranchDistance.Proofs.Text.LowerCase
import BranchDistance.Row

/-!
# The history of a row

What a row holds after a sequence of insertions (`Row.IsHistory`).  Names are kept folded,
and folding a second time does nothing, so the cells of a row build the row again.
-/

namespace BranchDistance

namespace Cell

/-- The names that a cell is known by. -/
def names (cell : Cell) : Option String × String := (cell.table, cell.column)

/-- The cell under the folded forms of its names. -/
def folded (cell : Cell) : Cell :=
  ⟨cell.table.map Text.casefold, Text.casefold cell.column, cell.value⟩

/-- The cell has the column that is asked for, and its table is the one that is asked for, unless
one of the two is left open. -/
def Answers (cell : Cell) (table : Option String) (column : String) : Prop :=
  cell.column = column ∧ (table = none ∨ cell.table = none ∨ cell.table = table)

theorem folded_folded (cell : Cell) : cell.folded.folded = cell.folded := by
  have htwice : Text.casefold ∘ Text.casefold = Text.casefold := funext Text.casefold_casefold
  simp only [folded, Option.map_map, htwice, Text.casefold_casefold]

end Cell

namespace Row

/-! ### One insertion -/

theorem hasNames_iff {cell other : Cell} :
    hasNames cell.table cell.column other = true ↔ other.names = cell.names := by
  simp [hasNames, Cell.names]

/-- A cell takes the place of one of the same names, or goes to the end. -/
theorem place_cases (cell : Cell) (cells : List Cell) :
    (∃ before old after, cells = before ++ old :: after ∧ old.names = cell.names ∧
      place cell cells = before ++ cell :: after) ∨
    ((∀ other ∈ cells, other.names ≠ cell.names) ∧ place cell cells = cells ++ [cell]) := by
  induction cells with
  | nil => exact .inr ⟨by simp, rfl⟩
  | cons first rest ih =>
    by_cases hfirst : hasNames cell.table cell.column first = true
    · refine .inl ⟨[], first, rest, rfl, hasNames_iff.1 hfirst, ?_⟩
      rw [place, if_pos hfirst]
      rfl
    · rw [place, if_neg hfirst]
      rcases ih with ⟨before, old, after, hcells, hnames, hplace⟩ | ⟨hother, hplace⟩
      · exact .inl ⟨first :: before, old, after, by rw [hcells]; rfl, hnames, by rw [hplace]; rfl⟩
      · refine .inr ⟨?_, by rw [hplace]; rfl⟩
        intro other hmem
        rcases List.mem_cons.1 hmem with rfl | hrest
        · exact fun h => hfirst (hasNames_iff.2 h)
        · exact hother other hrest

theorem place_of_forall_ne {cell : Cell} {cells : List Cell}
    (h : ∀ other ∈ cells, other.names ≠ cell.names) : place cell cells = cells ++ [cell] := by
  rcases place_cases cell cells with ⟨before, old, after, rfl, hnames, -⟩ | ⟨-, hplace⟩
  · exact absurd hnames (h old (by simp))
  · exact hplace

theorem ofCells_append (cells : List Cell) (cell : Cell) :
    (ofCells (cells ++ [cell])).cells = place cell.folded (ofCells cells).cells := by
  rw [ofCells, List.foldl_append]
  rfl

/-! ### A sequence of insertions -/

section EraseDups

variable {α : Type} [BEq α] [LawfulBEq α] {a : α} {as : List α}

theorem eraseDups_concat_of_mem (h : a ∈ as) : (as ++ [a]).eraseDups = as.eraseDups := by
  rw [List.eraseDups_append]
  simp [List.removeAll, h]

theorem eraseDups_concat_of_notMem (h : a ∉ as) :
    (as ++ [a]).eraseDups = as.eraseDups ++ [a] := by
  rw [List.eraseDups_append]
  simp [List.removeAll, h, List.eraseDups_cons]

end EraseDups

/-- Cells are what a sequence of insertions leaves: each name once and folded, in the order in which
the names came first, with the value that came last. -/
structure IsHistory (inserts cells : List Cell) : Prop where
  distinct : (cells.map Cell.names).Nodup
  folded : ∀ cell ∈ cells, cell.folded = cell
  order : cells.map Cell.names = (inserts.map fun insert => insert.folded.names).eraseDups
  latest : ∀ cell ∈ cells, ∃ before insert after, inserts = before ++ insert :: after ∧
    insert.folded = cell ∧ ∀ later ∈ after, later.folded.names ≠ cell.names

namespace IsHistory

variable {inserts cells : List Cell}

theorem nil : IsHistory [] [] where
  distinct := List.nodup_nil
  folded := by simp
  order := rfl
  latest := by simp

/-- The value of a cell stays the last one when something else is inserted. -/
theorem latest_of_ne (h : IsHistory inserts cells) {cell insert : Cell} (hcell : cell ∈ cells)
    (hne : insert.folded.names ≠ cell.names) :
    ∃ before found after, inserts ++ [insert] = before ++ found :: after ∧ found.folded = cell ∧
      ∀ later ∈ after, later.folded.names ≠ cell.names := by
  obtain ⟨before, found, after, rfl, hfound, hafter⟩ := h.latest cell hcell
  refine ⟨before, found, after ++ [insert], by simp, hfound, ?_⟩
  intro later hlater
  rcases List.mem_append.1 hlater with hold | hnew
  · exact hafter later hold
  · rw [List.mem_singleton.1 hnew]
    exact hne

theorem replace {before after : List Cell} {old insert : Cell}
    (h : IsHistory inserts (before ++ old :: after)) (hnames : old.names = insert.folded.names) :
    IsHistory (inserts ++ [insert]) (before ++ insert.folded :: after) := by
  have hsame : (before ++ insert.folded :: after).map Cell.names =
      (before ++ old :: after).map Cell.names := by
    rw [List.map_append, List.map_cons, ← hnames, List.map_append, List.map_cons]
  have hne : ∀ cell, cell ∈ before ∨ cell ∈ after → insert.folded.names ≠ cell.names := by
    have hdistinct := h.distinct
    rw [List.map_append, List.map_cons, List.nodup_middle, List.nodup_cons, hnames,
      ← List.map_append] at hdistinct
    intro cell hcell heq
    apply hdistinct.1
    rw [heq]
    exact List.mem_map_of_mem (List.mem_append.2 hcell)
  constructor
  · rw [hsame]
    exact h.distinct
  · intro cell hcell
    rcases List.mem_append.1 hcell with hbefore | hrest
    · exact h.folded cell (by simp [hbefore])
    · rcases List.mem_cons.1 hrest with rfl | hafter
      · exact insert.folded_folded
      · exact h.folded cell (by simp [hafter])
  · have hknown : insert.folded.names ∈ inserts.map fun insert => insert.folded.names := by
      rw [← List.mem_eraseDups, ← h.order, ← hnames]
      exact List.mem_map_of_mem (by simp)
    rw [hsame, h.order, List.map_append, List.map_singleton, eraseDups_concat_of_mem hknown]
  · intro cell hcell
    rcases List.mem_append.1 hcell with hbefore | hrest
    · exact h.latest_of_ne (by simp [hbefore]) (hne cell (.inl hbefore))
    · rcases List.mem_cons.1 hrest with rfl | hafter
      · exact ⟨inserts, insert, [], rfl, rfl, by simp⟩
      · exact h.latest_of_ne (by simp [hafter]) (hne cell (.inr hafter))

theorem extend (h : IsHistory inserts cells) {insert : Cell}
    (hnew : ∀ cell ∈ cells, cell.names ≠ insert.folded.names) :
    IsHistory (inserts ++ [insert]) (cells ++ [insert.folded]) := by
  have hnames : insert.folded.names ∉ cells.map Cell.names := by
    intro hmem
    obtain ⟨cell, hcell, heq⟩ := List.mem_map.1 hmem
    exact hnew cell hcell heq
  constructor
  · rw [List.map_append, List.map_singleton, List.nodup_append_comm]
    exact List.nodup_cons.2 ⟨hnames, h.distinct⟩
  · intro cell hcell
    rcases List.mem_append.1 hcell with hold | hlast
    · exact h.folded cell hold
    · rw [List.mem_singleton.1 hlast]
      exact insert.folded_folded
  · rw [h.order, List.mem_eraseDups] at hnames
    rw [List.map_append, h.order, List.map_append, List.map_singleton, List.map_singleton,
      eraseDups_concat_of_notMem hnames]
  · intro cell hcell
    rcases List.mem_append.1 hcell with hold | hlast
    · exact h.latest_of_ne hold (Ne.symm (hnew cell hold))
    · rw [List.mem_singleton.1 hlast]
      exact ⟨inserts, insert, [], rfl, rfl, by simp⟩

/-- One more insertion. -/
theorem place (h : IsHistory inserts cells) (insert : Cell) :
    IsHistory (inserts ++ [insert]) (place insert.folded cells) := by
  rcases place_cases insert.folded cells with ⟨before, old, after, rfl, hnames, hplace⟩ |
    ⟨hnew, hplace⟩
  · rw [hplace]
    exact h.replace hnames
  · rw [hplace]
    exact h.extend hnew

/-- The cells that insertions leave are left as they are when they are inserted themselves. -/
theorem ofCells_eq (h : IsHistory inserts cells) : (ofCells cells).cells = cells := by
  have hdistinct := h.distinct
  have hfolded := h.folded
  clear h
  induction cells using List.reverseRecOn with
  | nil => rfl
  | append_singleton cells cell ih =>
    rw [List.map_append, List.map_singleton, List.nodup_append_comm] at hdistinct
    obtain ⟨hnew, hcells⟩ := List.nodup_cons.1 hdistinct
    rw [ofCells_append, ih hcells fun other hother => hfolded other (by simp [hother]),
      hfolded cell (by simp)]
    apply place_of_forall_ne
    intro other hother heq
    apply hnew
    rw [← heq]
    exact List.mem_map_of_mem hother

end IsHistory

theorem isHistory_ofCells (inserts : List Cell) : IsHistory inserts (ofCells inserts).cells := by
  induction inserts using List.reverseRecOn with
  | nil => exact .nil
  | append_singleton inserts insert ih =>
    rw [ofCells_append]
    exact ih.place insert

/-! ### Looking up columns -/

section Lookup

variable {row : Row} {table : Option String} {column : String}

theorem answers_iff {cell : Cell} :
    answers table column cell = true ↔ cell.Answers table column := by
  obtain ⟨actual, _, _⟩ := cell
  rcases table with - | wanted
  · simp [answers, Cell.Answers]
  · rcases actual with - | actual
    · simp [answers, Cell.Answers]
    · simp [answers, Cell.Answers, eq_comm (a := wanted)]

theorem get?_eq_none_iff :
    row.get? table column = none ↔ ∀ cell ∈ row.cells, answers table column cell = false := by
  simp [get?]

theorem get?_eq_some_iff {value : Value} : row.get? table column = some value ↔
    ∃ before cell after, row.cells = before ++ cell :: after ∧
      answers table column cell = true ∧ cell.value = value ∧
      ∀ earlier ∈ before, answers table column earlier = false := by
  rw [get?, Option.map_eq_some_iff]
  simp only [List.find?_eq_some_iff_append, Bool.not_eq_true']
  constructor
  · rintro ⟨cell, ⟨hanswers, before, after, hcells, hbefore⟩, hvalue⟩
    exact ⟨before, cell, after, hcells, hanswers, hvalue, hbefore⟩
  · rintro ⟨before, cell, after, hcells, hanswers, hvalue, hbefore⟩
    exact ⟨cell, ⟨hanswers, before, after, hcells, hbefore⟩, hvalue⟩

end Lookup

/-- A row is the history of its insertions, a column has the value of the first cell that answers
for it, and the cells of a row build the row again. -/
theorem ofCells_history (inserts : List Cell) :
    IsHistory inserts (ofCells inserts).cells ∧
    (∀ table column value, (ofCells inserts).get? table column = some value ↔
      ∃ before cell after, (ofCells inserts).cells = before ++ cell :: after ∧
        cell.Answers table column ∧ cell.value = value ∧
        ∀ earlier ∈ before, ¬ earlier.Answers table column) ∧
    (∀ table column, (ofCells inserts).get? table column = none ↔
      ∀ cell ∈ (ofCells inserts).cells, ¬ cell.Answers table column) ∧
    ofCells (ofCells inserts).cells = ofCells inserts := by
  refine ⟨isHistory_ofCells inserts, ?_, ?_, ?_⟩
  · intro table column value
    simp only [get?_eq_some_iff, ← answers_iff, Bool.not_eq_true]
  · intro table column
    simp only [get?_eq_none_iff, ← answers_iff, Bool.not_eq_true]
  · rw [Row.mk.injEq]
    exact (isHistory_ofCells inserts).ofCells_eq

end Row

end BranchDistance
