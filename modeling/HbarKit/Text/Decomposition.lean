import HbarKit.Text.DecompositionTable

/-!
# Compatibility decomposition

The normal form NFKD of a text: every character is replaced by its full compatibility
decomposition, and then each run of combining characters is put into the order of their classes,
characters of one class keeping their order. ASCII text is its own normal form.
-/
namespace HbarKit.Text

/-- A Hangul syllable is its two or three conjoining letters. -/
def decomposeHangul (n : Nat) : List Nat :=
  let i := n - 0xAC00
  let lead := 0x1100 + i / 588
  let vowel := 0x1161 + i % 588 / 28
  if i % 28 = 0 then [lead, vowel] else [lead, vowel, 0x11A7 + i % 28]

/-- The full compatibility decomposition of a code point above ASCII. -/
def tableDecomposition (n : Nat) : List Nat :=
  if 0xAC00 ≤ n ∧ n ≤ 0xD7A3 then decomposeHangul n
  else
    match singleDecompositions.find? fun
        | [first, count, _] => first ≤ n && n < first + count
        | _ => false with
    | some [first, _, target] => [n - first + target]
    | _ =>
      match longDecompositions.find? fun row => row.head? == some n with
      | some (_ :: target) => target
      | _ => [n]

def decomposeChar (c : Char) : List Char :=
  if c.toNat < 0x80 then [c] else (tableDecomposition c.toNat).map Char.ofNat

/-- The canonical combining class, zero for a character that starts a run. -/
def combiningClass (c : Char) : Nat :=
  if c.toNat < 0x300 then 0
  else
    match combiningRuns.find? fun
        | [first, last, _] => first ≤ c.toNat && c.toNat ≤ last
        | _ => false with
    | some [_, _, cls] => cls
    | _ => 0

/-- Puts a character with a combining class before the run that follows it, behind those of lower
class. -/
def insertMark (mark : Nat × Char) : List (Nat × Char) → List (Nat × Char)
  | [] => [mark]
  | next :: rest =>
    if mark.1 ≠ 0 ∧ next.1 ≠ 0 ∧ next.1 < mark.1 then next :: insertMark mark rest
    else mark :: next :: rest

def orderMarks (cs : List Char) : List Char :=
  (cs.foldr (fun c acc => insertMark (combiningClass c, c) acc) []).map Prod.snd

def decomposeChars (cs : List Char) : List Char := orderMarks (cs.flatMap decomposeChar)

def decompose (s : String) : String := String.ofList (decomposeChars s.toList)

end HbarKit.Text
