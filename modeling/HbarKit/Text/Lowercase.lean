import HbarKit.Text.CaseTable

/-!
# Lowercase text

Every character is mapped by itself except the capital sigma, which becomes a final sigma at the
end of a word: a letter stands before it and none after it, characters without a say in case aside.
-/
namespace HbarKit.Text

def tableLowercase (n : Nat) : Nat :=
  match lowercaseRuns.find? fun r => r.contains n with
  | some r => r.lowercase n
  | none => n

def lowercaseChar (c : Char) : List Char :=
  if c.toNat < 0x80 then [c.toLower]
  else if c.toNat = 0x130 then ['i', Char.ofNat 0x307]
  else [Char.ofNat (tableLowercase c.toNat)]

/-- Whether the first character that is not ignored in matters of case has case. -/
def casedFirst (cs : List Char) : Bool :=
  match cs.dropWhile fun c => Table.mem caseIgnorableRanges c.toNat with
  | [] => false
  | c :: _ => Table.mem casedRanges c.toNat

/-- The lowercase of the rest of a text after the characters `before`, nearest one first. -/
def lowercaseAfter (before : List Char) : List Char → List Char
  | [] => []
  | c :: cs =>
    (if c.toNat = 0x3A3 then
      [if casedFirst before && !casedFirst cs then Char.ofNat 0x3C2 else Char.ofNat 0x3C3]
    else lowercaseChar c) ++ lowercaseAfter (c :: before) cs

def lowercase (s : String) : String := String.ofList (lowercaseAfter [] s.toList)

end HbarKit.Text
