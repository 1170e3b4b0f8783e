import HbarKit.Der.Element

/-!
# Algorithm identifiers

What algorithm a key or a cipher text is for: an object identifier and a parameter, which may be
any element and may be left out.
-/
namespace HbarKit.Der

def oid : Reader Oid := do
  let (tag, n) ← header
  if tag ≠ 0x06 then refuse (.otherTag (some 0x06) tag)
  if Oid.maxLength < n then refuse (.length 0x06)
  let content ← take n
  if (Oid.arcs? content).isNone then refuse .badOid
  return content

structure Algorithm where
  oid : Oid
  parameter : Option Element
  deriving DecidableEq

def algorithm : Reader Algorithm := sequence do
  return ⟨← located oid, ← located (optional (fun _ => true) element)⟩

def Algorithm.parameterOid? (a : Algorithm) : Option Oid := do
  let e ← a.parameter
  if e.tag = 0x06 ∧ (Oid.arcs? e.content).isSome then return e.content else none

end HbarKit.Der
