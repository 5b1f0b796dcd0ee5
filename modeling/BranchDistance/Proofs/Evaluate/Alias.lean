import BranchDistance.Evaluate.Condition
import BranchDistance.Proofs.Row

/-!
# Short names of tables

Reading a condition under short names is reading it with the short names written out.

* Changing the columns of a condition and looking them up elsewhere are the same
  (`Setting.outcome_mapColumns`): an evaluation knows a column only by its value.
* A column under a short name is looked up in the table that the name stands for and then under the
  name itself.  If no cell is labelled with the name, the second look finds nothing that the first
  one does not, since a cell without a table answers both (`Row.get?_eq_none_of_hidden`).
-/

namespace BranchDistance

/-! ### Changing columns -/

/-- The operand with all its columns changed. -/
def Operand.mapColumns (f : Column → Column) : Operand → Operand
  | column c => column (f c)
  | literal v => literal v
  | arithmetic op left right => arithmetic op (left.mapColumns f) (right.mapColumns f)

theorem Operand.mapColumns_id (o : Operand) : o.mapColumns id = o := by
  induction o with
  | column c => rfl
  | literal v => rfl
  | arithmetic op left right ihl ihr => rw [mapColumns, ihl, ihr]

namespace Condition

mutual

/-- The condition with all its columns changed. -/
def mapColumns (f : Column → Column) : Condition → Condition
  | compare relation left right => compare relation (left.mapColumns f) (right.mapColumns f)
  | and children => and (mapColumnsOfAll f children)
  | or children => or (mapColumnsOfAll f children)
  | not inner => not (inner.mapColumns f)
  | isNull operand negated => isNull (operand.mapColumns f) negated
  | between operand low high =>
    between (operand.mapColumns f) (low.mapColumns f) (high.mapColumns f)
  | inList operand candidates =>
    inList (operand.mapColumns f) (candidates.map (Operand.mapColumns f))
  | inQuery operand query => inQuery (operand.mapColumns f) query
  | like operand pattern negated foldCase =>
    like (operand.mapColumns f) (pattern.mapColumns f) negated foldCase
  | .exists query => .exists query

/-- Several conditions with all their columns changed. -/
def mapColumnsOfAll (f : Column → Column) : List Condition → List Condition
  | [] => []
  | child :: rest => child.mapColumns f :: mapColumnsOfAll f rest

end

end Condition

section Substitution

variable {scope scope' : Scope} {f : Column → Column}

theorem Operand.value?_mapColumns (h : ∀ c, scope'.get? (f c) = scope.get? c) (o : Operand) :
    (o.mapColumns f).value? scope' = o.value? scope := by
  induction o with
  | column c => simp only [mapColumns, value?, h c]
  | literal v => rfl
  | arithmetic op left right ihl ihr => simp only [mapColumns, value?, ihl, ihr]

namespace Leaf

variable (config : Config)

theorem against_mapColumns (h : ∀ c, scope'.get? (f c) = scope.get? c) (relation : Relation)
    (v : Value) (o : Operand) :
    against config scope' relation v (o.mapColumns f) = against config scope relation v o := by
  rw [against, against, Operand.value?_mapColumns h]

end Leaf

namespace Setting

variable (setting : Setting)

mutual

/-- A condition whose columns have the values elsewhere that they have here is evaluated in the same
way. -/
theorem outcome_mapColumns (h : ∀ c, scope'.get? (f c) = scope.get? c) : (c : Condition) →
    setting.outcome scope' (c.mapColumns f) = setting.outcome scope c
  | .compare relation left right => by
    simp only [Condition.mapColumns, outcome, Leaf.compare, Operand.value?_mapColumns h]
  | .and children => by
    simp only [Condition.mapColumns, outcome, conjunction_mapColumns h children]
  | .or children => by
    simp only [Condition.mapColumns, outcome, disjunction_mapColumns h children]
  | .not inner => by
    simp only [Condition.mapColumns, outcome, outcome_mapColumns h inner]
  | .isNull operand negated => by
    simp only [Condition.mapColumns, outcome, Leaf.isNull, Operand.value?_mapColumns h]
  | .between operand low high => by
    simp only [Condition.mapColumns, outcome, Leaf.between, Leaf.against,
      Operand.value?_mapColumns h]
  | .inList operand candidates => by
    have hagainst (v : Value) : Leaf.against setting.config scope' .eq v ∘ Operand.mapColumns f =
        Leaf.against setting.config scope .eq v := by
      funext o
      exact Leaf.against_mapColumns setting.config h .eq v o
    simp only [Condition.mapColumns, outcome, Leaf.inList, List.map_map, hagainst,
      Operand.value?_mapColumns h]
  | .inQuery operand query => by
    simp only [Condition.mapColumns, outcome, inQuery, Operand.value?_mapColumns h]
  | .like operand pattern negated foldCase => by
    simp only [Condition.mapColumns, outcome, Leaf.like, Operand.value?_mapColumns h]
  | .exists query => by
    simp only [Condition.mapColumns, outcome]

theorem conjunction_mapColumns (h : ∀ c, scope'.get? (f c) = scope.get? c) :
    (cs : List Condition) → (total : Outcome) →
    setting.conjunction scope' total (Condition.mapColumnsOfAll f cs) =
      setting.conjunction scope total cs
  | [], total => by
    simp only [Condition.mapColumnsOfAll, conjunction]
  | c :: cs, total => by
    simp only [Condition.mapColumnsOfAll, conjunction, outcome_mapColumns h c,
      conjunction_mapColumns h cs]

theorem disjunction_mapColumns (h : ∀ c, scope'.get? (f c) = scope.get? c) :
    (cs : List Condition) → (best : Option Outcome) →
    setting.disjunction scope' best (Condition.mapColumnsOfAll f cs) =
      setting.disjunction scope best cs
  | [], best => by
    simp only [Condition.mapColumnsOfAll, disjunction]
  | c :: cs, best => by
    simp only [Condition.mapColumnsOfAll, disjunction, outcome_mapColumns h c,
      disjunction_mapColumns h cs]

end

end Setting

end Substitution

namespace Condition

mutual

theorem mapColumns_id : (c : Condition) → c.mapColumns id = c
  | compare relation left right => by
    rw [mapColumns, Operand.mapColumns_id, Operand.mapColumns_id]
  | and children => by rw [mapColumns, mapColumnsOfAll_id children]
  | or children => by rw [mapColumns, mapColumnsOfAll_id children]
  | not inner => by rw [mapColumns, mapColumns_id inner]
  | isNull operand negated => by rw [mapColumns, Operand.mapColumns_id]
  | between operand low high => by
    rw [mapColumns, Operand.mapColumns_id, Operand.mapColumns_id, Operand.mapColumns_id]
  | inList operand candidates => by
    have hmap : Operand.mapColumns id = id := funext Operand.mapColumns_id
    rw [mapColumns, hmap, List.map_id, id]
  | inQuery operand query => by rw [mapColumns, Operand.mapColumns_id]
  | like operand pattern negated foldCase => by
    rw [mapColumns, Operand.mapColumns_id, Operand.mapColumns_id]
  | .exists query => rfl

theorem mapColumnsOfAll_id (cs : List Condition) : mapColumnsOfAll id cs = cs := by
  cases cs with
  | nil => rfl
  | cons c cs => rw [mapColumnsOfAll, mapColumns_id c, mapColumnsOfAll_id cs]

end

end Condition

/-- An evaluation knows its row and the short names by the values of the columns alone. -/
theorem Setting.outcome_congr (setting : Setting) {scope scope' : Scope}
    (h : ∀ c, scope'.get? c = scope.get? c) (c : Condition) :
    setting.outcome scope' c = setting.outcome scope c := by
  have hid := setting.outcome_mapColumns (f := id) h c
  rwa [Condition.mapColumns_id] at hid

/-! ### Looking up columns -/

namespace Row

variable {row : Row} {column : String}

theorem hasTable_eq_false_iff {table : String} :
    row.hasTable table = false ↔ ∀ cell ∈ row.cells, cell.table ≠ some table := by
  simp [hasTable]

/-- A table that no cell is labelled with has only the columns that every table has. -/
theorem get?_eq_none_of_hidden {hidden table : String} (hhidden : row.hasTable hidden = false)
    (h : row.get? (some table) column = none) : row.get? (some hidden) column = none := by
  rw [get?_eq_none_iff] at h ⊢
  rw [hasTable_eq_false_iff] at hhidden
  intro cell hcell
  have hother := hhidden cell hcell
  have hnone := h cell hcell
  cases htable : cell.table with
  | none => simpa [answers, htable] using hnone
  | some label =>
    have hne : hidden ≠ label := by
      rintro rfl
      exact hother htable
    simp [answers, htable, hne]

/-- If every cell has a table, a table that no cell is labelled with has no columns. -/
theorem get?_eq_none_of_labelled {table : String} (hlabels : ∀ cell ∈ row.cells, cell.table ≠ none)
    (htable : row.hasTable table = false) : row.get? (some table) column = none := by
  rw [get?_eq_none_iff]
  rw [hasTable_eq_false_iff] at htable
  intro cell hcell
  cases hlabel : cell.table with
  | none => exact absurd hlabel (hlabels cell hcell)
  | some label =>
    have hne : table ≠ label := by
      rintro rfl
      exact htable cell hcell hlabel
    simp [answers, hlabel, hne]

end Row

namespace Aliases

/-- The column with the short name of its table, if it has one, written out. -/
def writtenOut (aliases : Aliases) (c : Column) : Column :=
  ⟨c.table.map fun name => (aliases.get? name).getD name, c.name⟩

end Aliases

namespace Scope

variable {row : Row} {aliases : Aliases}

theorem get?_of_noAliases (c : Column) :
    (⟨row, .empty⟩ : Scope).get? c = row.get? c.table c.name := by
  rcases c with ⟨- | table, name⟩
  · rfl
  · rfl

/-- Short names that label no cells may be written out. -/
theorem get?_writtenOut
    (h : ∀ name table, aliases.get? name = some table → table ≠ name → row.hasTable name = false)
    (c : Column) :
    (⟨row, .empty⟩ : Scope).get? (aliases.writtenOut c) = (⟨row, aliases⟩ : Scope).get? c := by
  rw [get?_of_noAliases]
  rcases c with ⟨- | name, column⟩
  · rfl
  · cases halias : aliases.get? name with
    | none => simp [get?, Aliases.writtenOut, halias]
    | some table =>
      cases hfound : row.get? (some table) column with
      | some v => simp [get?, Aliases.writtenOut, halias, hfound]
      | none =>
        have hname : row.get? (some name) column = none := by
          by_cases hsame : table = name
          · rwa [hsame] at hfound
          · exact Row.get?_eq_none_of_hidden (h name table halias hsame) hfound
        simp [get?, Aliases.writtenOut, halias, hfound, hname]

/-- Short names of tables that the row does not have are of no effect. -/
theorem get?_of_absent (hlabels : ∀ cell ∈ row.cells, cell.table ≠ none)
    (h : ∀ name table, aliases.get? name = some table → row.hasTable table = false)
    (c : Column) : (⟨row, aliases⟩ : Scope).get? c = (⟨row, .empty⟩ : Scope).get? c := by
  rw [get?_of_noAliases]
  rcases c with ⟨- | name, column⟩
  · rfl
  · cases halias : aliases.get? name with
    | none => simp [get?, halias]
    | some table =>
      have hfound : row.get? (some table) column = none :=
        Row.get?_eq_none_of_labelled hlabels (h name table halias)
      simp [get?, halias, hfound]

end Scope

/-! ### Evaluating under short names -/

/-- Two ways in which short names do not show.  If no cell is labelled with a short name of another
table, a condition is evaluated as it is with the short names written out.  If no cell is labelled
with a table that has a short name, and every cell is labelled, it is evaluated as it is without
them.  Both concern the outcome and all that is done to find it, so also the queries that a driver
receives. -/
theorem Setting.aliases_transparent (setting : Setting) (row : Row) (aliases : Aliases)
    (c : Condition) :
    ((∀ name table, aliases.get? name = some table → table ≠ name → row.hasTable name = false) →
      setting.outcome ⟨row, aliases⟩ c =
        setting.outcome ⟨row, .empty⟩ (c.mapColumns aliases.writtenOut)) ∧
    ((∀ cell ∈ row.cells, cell.table ≠ none) →
      (∀ name table, aliases.get? name = some table → row.hasTable table = false) →
      setting.outcome ⟨row, aliases⟩ c = setting.outcome ⟨row, .empty⟩ c) := by
  constructor
  · intro hhidden
    exact (setting.outcome_mapColumns (Scope.get?_writtenOut hhidden) c).symm
  · intro hlabels habsent
    exact setting.outcome_congr (Scope.get?_of_absent hlabels habsent) c

/-- `u` stands for `users`: over a row of `users` it may be written out, and over a row of `u`
itself it is of no effect. -/
theorem Setting.aliases_transparent_users :
    let setting : Setting := { config := {} }
    let aliases : Aliases := ⟨[("u", "users")]⟩
    let oldEnough (table : String) : Condition := .and [
      .compare .ge (.column ⟨some table, "age"⟩) (.column ⟨some table, "limit"⟩),
      .exists "SELECT 1 FROM u"]
    let users : Row := ⟨[⟨some "users", "age", .int 20⟩, ⟨none, "limit", .int 18⟩]⟩
    let u : Row := ⟨[⟨some "u", "age", .int 17⟩, ⟨some "u", "limit", .int 18⟩]⟩
    setting.outcome ⟨users, aliases⟩ (oldEnough "u") =
        setting.outcome ⟨users, .empty⟩ (oldEnough "users") ∧
      setting.outcome ⟨u, aliases⟩ (oldEnough "u") =
        setting.outcome ⟨u, .empty⟩ (oldEnough "u") := by
  intro setting aliases oldEnough users u
  have halias (name table : String) (h : aliases.get? name = some table) :
      name = "u" ∧ table = "users" := by
    simp only [aliases, Aliases.get?, List.lookup_cons, List.lookup_nil] at h
    split at h
    · next heq => exact ⟨beq_iff_eq.1 heq, (Option.some.inj h).symm⟩
    · cases h
  constructor
  · refine (setting.aliases_transparent users aliases (oldEnough "u")).1 ?_
    intro name table h _
    obtain ⟨rfl, rfl⟩ := halias name table h
    decide
  · refine (setting.aliases_transparent u aliases (oldEnough "u")).2 (by decide) ?_
    intro name table h
    obtain ⟨rfl, rfl⟩ := halias name table h
    decide

end BranchDistance
