import AlertRelay.Database.Query
import AlertRelay.Proofs.Preference.Rows
import AlertRelay.Value.Json
import Mathlib.Logic.Function.Basic

/-!
Tables of a database, and what statements do to them.

A `Command` is a statement of the part of SQL that is needed here: `Command.text` writes it, and
`Command.meaning?` is what PostgreSQL makes of it.  `none` means that nothing is said: the
statement fails, or is not of this part.  The order of the records of a table means nothing, and
a look-up may give what it finds in any order (`Meaning.Gives`).

A table `Holds` named rows if its records are theirs.  Taking records away, adding one and
putting one in the place of another do to such a table what the same changes do to the rows
(`Holds.delete`, `Holds.append`, `Holds.upserted`).
-/

namespace AlertRelay.Database

open Assoc (Keyed rows names)

/-- The types of columns. -/
inductive ColumnType where
  | integer
  | text
  | jsonb
deriving DecidableEq, Repr

/-- A column, and whether it is `NOT NULL`. -/
structure Column where
  name : String
  type : ColumnType
  required : Bool
deriving DecidableEq, Repr

/-- A part of the key of a table: a column, in which `NULL` may count as the empty text. -/
structure KeyPart where
  column : String
  orEmpty : Bool
deriving DecidableEq, Repr

/-- A table.  No two of its records have the same key. -/
structure Table where
  name : String
  columns : List Column
  key : List KeyPart
deriving DecidableEq, Repr

/-- What stands in one column of a record.  Integers are whole numbers of 32 bits. -/
inductive Cell where
  | null
  | integer (n : Double)
  | text (s : String)
  | document (v : Value)

/-- A record: its cells by the names of their columns. -/
abbrev Record := Assoc Cell

/-- The records of each table, by its name. -/
abbrev Contents := String → List Record

/-- Whether a number is a whole number of 32 bits. -/
def isInt32 : Double → Bool
  | .finite q => q.den == 1 && decide (-2147483648 ≤ q.num) && decide (q.num ≤ 2147483647)
  | _ => false

/-- A text that the database can store. -/
def Storable (s : String) : Prop :=
  '\x00' ∉ s.toList

instance (s : String) : Decidable (Storable s) :=
  inferInstanceAs (Decidable ('\x00' ∉ s.toList))

namespace Cell

def isNull : Cell → Bool
  | .null => true
  | _ => false

/-- A cell in which `NULL` counts as the empty text. -/
def orEmpty : Cell → Cell
  | .null => .text ""
  | c => c

/-- The comparison `=`: nothing is equal to `NULL`.  Documents are not compared. -/
def equal : Cell → Cell → Bool
  | .integer n, .integer m => n == m
  | .text s, .text t => s == t
  | _, _ => false

/-- The comparison `IS NOT DISTINCT FROM`, which tells `NULL` from everything else. -/
def notDistinct : Cell → Cell → Bool
  | .null, .null => true
  | a, b => a.equal b

/-- A number or a text as a document. -/
def ofDocument? : Value → Option Cell
  | .number n => some (.document (.number n))
  | .text s => if Storable s then some (.document (.text s)) else none
  | _ => none

/-- The cell that a parameter is for a column of a type; a document is given by its JSON text. -/
def ofValue? : ColumnType → Value → Option Cell
  | _, .undefined => some .null
  | _, .null => some .null
  | .integer, .number n => if isInt32 n then some (.integer n) else none
  | .text, .text s => if Storable s then some (.text s) else none
  | .jsonb, .text s => (Value.ofJson? s).bind ofDocument?
  | _, _ => none

/-- The texts that a parameter is for a column of texts. -/
def ofTexts? : Value → Option (List Cell)
  | .list none items => items.mapM (ofValue? .text)
  | _ => none

@[simp] theorem equal_integer (n m : Double) : (integer n).equal (integer m) = (n == m) := rfl

@[simp] theorem equal_text (s t : String) : (text s).equal (text t) = (s == t) := rfl

@[simp] theorem equal_null (c : Cell) : c.equal .null = false := by
  cases c <;> rfl

@[simp] theorem ofValue?_null (type : ColumnType) : ofValue? type .null = some .null := by
  cases type <;> rfl

@[simp] theorem ofValue?_number (n : Double) :
    ofValue? .integer (.number n) = if isInt32 n then some (.integer n) else none := rfl

@[simp] theorem ofValue?_text (s : String) :
    ofValue? .text (.text s) = if Storable s then some (.text s) else none := rfl

/-- The value that is given for a cell. -/
def value : Cell → Value
  | .null => .null
  | .integer n => .number n
  | .text s => .text s
  | .document v => v

end Cell

/-- The cell of a column. -/
def Record.cell (r : Record) (column : String) : Cell :=
  (Assoc.get? column r).getD .null

@[simp] theorem Record.cell_cons (name : String) (c : Cell) (rest : Record) (column : String) :
    Record.cell ((name, c) :: rest) column =
      if name = column then c else Record.cell rest column := by
  simp only [Record.cell, Assoc.get?]
  split <;> rfl

/-- The cell that counts in a key. -/
def KeyPart.cell (part : KeyPart) (r : Record) : Cell :=
  if part.orEmpty then (Record.cell r part.column).orEmpty else Record.cell r part.column

/-- How a column is compared with a parameter. -/
inductive Comparison where
  | equal
  | notDistinct
  | among
deriving DecidableEq, Repr

/-- The text of a comparison with a parameter. -/
def Comparison.text (parameter : String) : Comparison → String
  | .equal => " = " ++ parameter
  | .notDistinct => " IS NOT DISTINCT FROM " ++ parameter
  | .among => " = ANY(" ++ parameter ++ "::text[])"

/-- A condition on a column, which is compared with a parameter of its own. -/
structure Condition where
  column : String
  comparison : Comparison
deriving DecidableEq, Repr

namespace Table

/-- The type of a column. -/
@[simp] def type? (t : Table) (column : String) : Option ColumnType :=
  (t.columns.find? (·.name == column)).map (·.type)

/-- Whether two records have the same key. -/
def clash (t : Table) (r s : Record) : Bool :=
  t.key.all fun part => (part.cell r).equal (part.cell s)

/-- What a condition asks of a record, given its parameter. -/
@[simp] def test? (t : Table) (c : Condition) (v : Value) : Option (Record → Bool) :=
  match t.type? c.column, c.comparison with
  | some .jsonb, _ => none
  | some type, .equal =>
    (Cell.ofValue? type v).map fun cell r => (Record.cell r c.column).equal cell
  | some type, .notDistinct =>
    (Cell.ofValue? type v).map fun cell r => (Record.cell r c.column).notDistinct cell
  | some .text, .among =>
    (Cell.ofTexts? v).map fun cells r => cells.any (Record.cell r c.column).equal
  | _, _ => none

/-- What conditions ask of a record together, given their parameters in order. -/
@[simp] def tests? (t : Table) : List Condition → List Value → Option (Record → Bool)
  | [], [] => some fun _ => true
  | c :: conditions, v :: params =>
    match t.test? c v, t.tests? conditions params with
    | some test, some tests => some fun r => test r && tests r
    | _, _ => none
  | _, _ => none

/-- The cells of columns, given their parameters in order. -/
def cells? (t : Table) : List String → List Value → Option Record
  | [], [] => some []
  | column :: columns, v :: params =>
    match (t.type? column).bind (Cell.ofValue? · v), t.cells? columns params with
    | some cell, some cells => some ((column, cell) :: cells)
    | _, _ => none
  | _, _ => none

/-- The record with the given parameters in some columns and `NULL` in the others, where this is
allowed. -/
def record? (t : Table) (columns : List String) (params : List Value) : Option Record :=
  (t.cells? columns params).bind fun cells =>
    if t.columns.all fun c => !(c.required && (Record.cell cells c.name).isNull) then
      some (t.columns.map fun c => (c.name, Record.cell cells c.name))
    else none

/-- A record with the cell of another one in a column, unless they are the same there. -/
def overwritten (column : String) (r old : Record) : Record :=
  if (Record.cell old column).notDistinct (Record.cell r column) then old
  else Assoc.put column (Record.cell r column) old

/-- The records of a table with a new one; if its key is there, it only overwrites a column. -/
def upserted (t : Table) (column : String) (r : Record) (records : List Record) : List Record :=
  if records.any (t.clash r) then
    records.map fun old => if t.clash r old then overwritten column r old else old
  else records ++ [r]

/-- The parameters for columns as they are written in a statement. -/
def placeholders (t : Table) (columns : List String) : List String :=
  (columns.zipIdx 1).map fun (column, n) =>
    if t.type? column = some .jsonb then "$" ++ toString n ++ "::jsonb" else "$" ++ toString n

end Table

/-- A statement about a table. -/
inductive Command where
  | insert (t : Table) (columns : List String)
  | upsert (t : Table) (columns : List String) (changed : String)
  | delete (t : Table) (conditions : List Condition)
  | select (t : Table) (columns : List String) (conditions : List Condition) (limit : Option Nat)

/-- What a statement comes to: what it finds, how much of it is given at most, and the contents
of the database afterwards. -/
structure Meaning where
  found : List Row
  limit : Option Nat
  after : Contents

/-- An answer gives what is found in some order, up to the limit. -/
def Meaning.Gives (m : Meaning) (answer : List Row) : Prop :=
  ∃ found, found.Perm m.found ∧ answer = m.limit.elim found found.take

namespace Command

/-- Names with commas between them. -/
def listed (names : List String) : String :=
  ", ".intercalate names

/-- The text of conditions, which take the parameters in order. -/
def whereText (conditions : List Condition) : String :=
  " WHERE " ++ " AND ".intercalate
    ((conditions.zipIdx 1).map fun (c, n) => c.column ++ c.comparison.text ("$" ++ toString n))

/-- The text of an insertion. -/
def insertText (t : Table) (columns : List String) : String :=
  "INSERT INTO " ++ t.name ++ " (" ++ listed columns ++ ") VALUES (" ++
    listed (t.placeholders columns) ++ ")"

/-- The text of a statement. -/
def text : Command → String
  | .insert t columns => insertText t columns
  | .upsert t columns changed =>
    insertText t columns ++ " ON CONFLICT (" ++ listed (t.key.map (·.column)) ++
      ") DO UPDATE SET " ++ changed ++ " = EXCLUDED." ++ changed ++ " WHERE " ++ t.name ++ "." ++
      changed ++ " IS DISTINCT FROM EXCLUDED." ++ changed
  | .delete t conditions => "DELETE FROM " ++ t.name ++ whereText conditions
  | .select t columns conditions limit =>
    "SELECT " ++ listed columns ++ " FROM " ++ t.name ++ whereText conditions ++
      limit.elim "" fun n => " LIMIT " ++ toString n

/-- What a statement comes to with parameters.  An insertion fails if the key is there. -/
def meaning? (params : List Value) (contents : Contents) : Command → Option Meaning
  | .insert t columns =>
    (t.record? columns params).bind fun r =>
      if (contents t.name).any (t.clash r) then none
      else some ⟨[], none, Function.update contents t.name (contents t.name ++ [r])⟩
  | .upsert t columns changed =>
    if t.type? changed = some .jsonb then none
    else (t.record? columns params).map fun r =>
      ⟨[], none, Function.update contents t.name (t.upserted changed r (contents t.name))⟩
  | .delete t conditions =>
    (t.tests? conditions params).map fun test =>
      ⟨[], none, Function.update contents t.name ((contents t.name).filter fun r => !test r)⟩
  | .select t columns conditions limit =>
    (t.tests? conditions params).map fun test =>
      ⟨((contents t.name).filter test).map fun r =>
          .ofFields (columns.map fun column => (column, (Record.cell r column).value)),
        limit, contents⟩

end Command

section Holds

variable {α : Type} {record : α → Record} {nameOf : α → String} {a : Assoc α}
  {records : List Record}

/-- A table holds the records of named rows, each of them once. -/
def Holds (record : α → Record) (a : Assoc α) (records : List Record) : Prop :=
  records.Perm ((rows a).map record)

namespace Holds

theorem mem_iff (h : Holds record a records) {r : Record} :
    r ∈ records ↔ ∃ row ∈ rows a, record row = r := by
  rw [List.Perm.mem_iff h, List.mem_map]

/-- The records that are kept are those of the rows that are kept. -/
theorem filter (h : Holds record a records) {keep : Record → Bool} (keepRow : α → Bool)
    (hkeep : ∀ row ∈ rows a, keep (record row) = keepRow row) :
    Holds record (a.filter fun p => keepRow p.2) (records.filter keep) := by
  have hrecords : ((rows a).map record).filter keep = ((rows a).filter keepRow).map record := by
    rw [List.filter_map]
    exact congrArg (List.map record) (List.filter_congr hkeep)
  rw [Holds, Assoc.rows_filter, ← hrecords]
  exact List.Perm.filter keep h

/-- A new record goes with a row of a new name. -/
theorem append (h : Holds record a records) {name : String} (hname : name ∉ names a) (v : α) :
    Holds record (Assoc.put name v a) (records ++ [record v]) := by
  rw [Holds, Assoc.put_of_not_mem v hname, rows, List.map_append, List.map_append]
  exact List.Perm.append_right _ h

end Holds

/-- Conditions with parameters ask of the record of a row what is asked of the row. -/
def Asks (t : Table) (conditions : List Condition) (params : List Value) (record : α → Record)
    (p : α → Bool) : Prop :=
  ∃ test, t.tests? conditions params = some test ∧ ∀ row, test (record row) = p row

/-- A record goes with a row that is put in, if keys and names tell the same rows apart. -/
theorem Holds.upserted (h : Holds record a records) (ha : Keyed nameOf a) {t : Table}
    {column : String} {v : α}
    (hclash : ∀ row ∈ rows a, t.clash (record v) (record row) = decide (nameOf row = nameOf v))
    (hover : ∀ row ∈ rows a, nameOf row = nameOf v →
      Table.overwritten column (record v) (record row) = record v) :
    Holds record (Assoc.put (nameOf v) v a) (t.upserted column (record v) records) := by
  have hany : records.any (t.clash (record v)) = true ↔ nameOf v ∈ names a := by
    rw [List.any_eq_true, ha.names_eq, List.mem_map]
    constructor
    · rintro ⟨r, hr, hsame⟩
      obtain ⟨row, hrow, rfl⟩ := h.mem_iff.mp hr
      rw [hclash row hrow, decide_eq_true_iff] at hsame
      exact ⟨row, hrow, hsame⟩
    · rintro ⟨row, hrow, hname⟩
      exact ⟨record row, h.mem_iff.mpr ⟨row, hrow, rfl⟩, by simp [hclash row hrow, hname]⟩
  unfold Table.upserted
  by_cases hname : nameOf v ∈ names a
  · rw [if_pos (hany.mpr hname), Holds, ha.rows_put hname, List.map_map]
    refine (List.Perm.map _ h).trans (List.Perm.of_eq ?_)
    rw [List.map_map]
    refine List.map_congr_left ?_
    intro row hrow
    simp only [Function.comp_apply, hclash row hrow, decide_eq_true_eq]
    by_cases hsame : nameOf row = nameOf v
    · rw [if_pos hsame, if_pos hsame, hover row hrow hsame]
    · rw [if_neg hsame, if_neg hsame]
  · rw [if_neg (mt hany.mp hname)]
    exact h.append hname v

/-- A deletion takes away the records of the rows that are asked for. -/
theorem Holds.delete {t : Table} {contents : Contents} (h : Holds record a (contents t.name))
    {conditions : List Condition} {params : List Value} {drops : α → Bool}
    (hasks : Asks t conditions params record drops) :
    ∃ left, (Command.delete t conditions).meaning? params contents =
        some ⟨[], none, Function.update contents t.name left⟩ ∧
      Holds record (a.filter fun p => !drops p.2) left := by
  obtain ⟨test, htests, htest⟩ := hasks
  refine ⟨_, by rw [Command.meaning?, htests, Option.map_some], ?_⟩
  exact h.filter (fun row => !drops row) fun row _ => by rw [htest]

/-- A look-up finds the rows that are asked for, and changes nothing. -/
theorem Holds.select {t : Table} {contents : Contents} (h : Holds record a (contents t.name))
    {conditions : List Condition} {params : List Value} {wants : α → Bool}
    (hasks : Asks t conditions params record wants) (columns : List String)
    (limit : Option Nat) :
    ∃ found, (Command.select t columns conditions limit).meaning? params contents =
        some ⟨found, limit, contents⟩ ∧
      found.Perm (((rows a).filter wants).map fun row => .ofFields (columns.map fun column =>
        (column, (Record.cell (record row) column).value))) := by
  obtain ⟨test, htests, htest⟩ := hasks
  refine ⟨_, by rw [Command.meaning?, htests, Option.map_some], ?_⟩
  have hfound := h.filter wants fun row _ => htest row
  rw [Holds, Assoc.rows_filter] at hfound
  refine (hfound.map _).trans (List.Perm.of_eq ?_)
  rw [List.map_map]
  rfl

end Holds

end AlertRelay.Database
