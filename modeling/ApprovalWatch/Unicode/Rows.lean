import ApprovalWatch.Text.Digits

/-!
# Tables of characters

A table holds rows of numbers. The first two numbers of a row are the first and the last character
that it speaks of, and the rows are in the order of their characters.
-/

namespace ApprovalWatch.Unicode

/-- The rows of a table, in order. -/
structure Rows where
  rows : Array (Array Nat)

namespace Rows

/-! ## Reading a table -/

/-- A table under construction: complete rows, the row at hand, and the number at hand. -/
structure Draft where
  rows : Array (Array Nat)
  row : Array Nat
  number : Option Nat

namespace Draft

/-- The draft with its number complete. -/
def endNumber (d : Draft) : Draft :=
  match d.number with
  | some n => ⟨d.rows, d.row.push n, none⟩
  | none => d

/-- The draft with its row complete. -/
def endRow (d : Draft) : Draft :=
  let d := d.endNumber
  ⟨d.rows.push d.row, #[], none⟩

/-- The draft after one more character. -/
def step (d : Draft) (c : Char) : Draft :=
  match Digits.hexValue? c with
  | some v => { d with number := some (d.number.getD 0 * 16 + v) }
  | none => if c = ';' then d.endRow else d.endNumber

end Draft

/-- The table that a text spells: numbers of base sixteen, rows ended by semicolons. -/
def ofText (s : String) : Rows :=
  ⟨(s.foldl Draft.step ⟨#[], #[], none⟩).rows⟩

/-! ## Looking up -/

/-- The first character of a row. -/
def first (row : Array Nat) : Nat :=
  row.getD 0 0

/-- The last character of a row. -/
def last (row : Array Nat) : Nat :=
  row.getD 1 0

/-- How many of the rows between `lo` and `hi` begin at or before `n`, those before `lo` included.
All rows before `lo` do, and none from `hi` on does. -/
def countUpTo (t : Rows) (n lo hi : Nat) : Nat :=
  if lo < hi then
    let mid := (lo + hi) / 2
    if first (t.rows.getD mid #[]) ≤ n then t.countUpTo n (mid + 1) hi else t.countUpTo n lo mid
  else lo
termination_by hi - lo

/-- The row that speaks of the character `n`. -/
def find? (t : Rows) (n : Nat) : Option (Array Nat) :=
  (t.rows[t.countUpTo n 0 t.rows.size - 1]?).filter fun row => first row ≤ n ∧ n ≤ last row

end Rows

end ApprovalWatch.Unicode
