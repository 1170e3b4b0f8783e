import HbarKit.Text.Split
import HbarKit.Text.Table
import Mathlib.Data.List.Forall2
import Mathlib.Tactic

/-!
# Lines and their characters

Tables are kept as lines of text. To decide something about a table, its lines are first replaced by
their characters, for taking a text apart is slow to evaluate.
-/
namespace HbarKit.Text

/-- Lines and the characters that they are made of. -/
def Written (lines : List String) (css : List (List Char)) : Prop :=
  List.Forall₂ (fun line cs => line = String.ofList cs) lines css

theorem Written.map_toList {lines : List String} {css : List (List Char)} (h : Written lines css) :
    lines.map String.toList = css := by
  induction h with
  | nil => rfl
  | cons hline _ ih => rw [List.map_cons, ih, hline, String.toList_ofList]

/-- What is made of the characters of lines is made of the lines. -/
theorem Written.flatMap_toList {α : Type} {lines : List String} {css : List (List Char)}
    (h : Written lines css) (f : List Char → List α) :
    (lines.flatMap fun line => f line.toList) = css.flatMap f := by
  rw [← h.map_toList, List.flatMap_map]

/-- The rows of a line that is given by its characters. -/
def Table.rowsOf (cs : List Char) : List (List Nat) :=
  let r := cs.foldl Reading.step ⟨[], [], 0⟩
  ((r.number :: r.row).reverse :: r.rows).reverse

/-- What holds of the rows of the characters holds of the rows of the lines. -/
theorem Written.all_rows {lines : List String} {css : List (List Char)} (h : Written lines css)
    {check : List Nat → Bool} (hcheck : (css.flatMap Table.rowsOf).all check = true) :
    (Table.rows lines).all check = true := by
  have hrows : Table.rows lines = css.flatMap Table.rowsOf := h.flatMap_toList Table.rowsOf
  rw [hrows, hcheck]

end HbarKit.Text
