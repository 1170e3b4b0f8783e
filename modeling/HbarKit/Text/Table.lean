import HbarKit.Bytes.Hex

/-!
# Written tables of code points

A table is lines of rows with semicolons between them; a row is hexadecimal numbers with spaces
between them.
-/
namespace HbarKit.Text.Table

/-- What is known after some characters of a line: whole rows and whole numbers of the row being
read, both last one first, and the number being read. -/
structure Reading where
  rows : List (List Nat)
  row : List Nat
  number : Nat

def Reading.step (r : Reading) (c : Char) : Reading :=
  if c = ';' then ⟨(r.number :: r.row).reverse :: r.rows, [], 0⟩
  else if c = ' ' then ⟨r.rows, r.number :: r.row, 0⟩
  else ⟨r.rows, r.row, r.number * 16 + (Hex.digitValue? c).getD 0⟩

def lineRows (line : String) : List (List Nat) :=
  let r := line.toList.foldl Reading.step ⟨[], [], 0⟩
  ((r.number :: r.row).reverse :: r.rows).reverse

def rows (lines : List String) : List (List Nat) := lines.flatMap lineRows

/-- A table of ranges, in which a row of one number is a range of one. -/
def ranges (lines : List String) : List (Nat × Nat) :=
  (rows lines).map fun row => (row.headD 0, row.getLastD 0)

def mem (table : List (Nat × Nat)) (n : Nat) : Bool :=
  table.any fun r => r.1 ≤ n && n ≤ r.2

end HbarKit.Text.Table
