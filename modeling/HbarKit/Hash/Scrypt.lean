import HbarKit.Hash.Hmac
import HbarKit.Hash.Sha256

/-!
# scrypt

A key stretched out of a password so that much memory is needed. Lanes of words are filled by a
chain of mixing steps and then mixed again in an order that depends on what is found in them.
-/
namespace HbarKit.Hash.Scrypt

abbrev Words := Array UInt32

/-- Adds to the word at `target` the rotated sum of two others. -/
def turn (w : Words) : Nat × Nat × Nat × UInt32 → Words
  | (target, a, b, n) =>
    let sum := w.getD a 0 + w.getD b 0
    w.set! target (w.getD target 0 ^^^ ((sum <<< n) ||| (sum >>> (32 - n))))

/-- The sixteen turns on the columns and the sixteen on the rows. -/
def turns : List (Nat × Nat × Nat × UInt32) :=
  [(4, 0, 12, 7), (8, 4, 0, 9), (12, 8, 4, 13), (0, 12, 8, 18),
    (9, 5, 1, 7), (13, 9, 5, 9), (1, 13, 9, 13), (5, 1, 13, 18),
    (14, 10, 6, 7), (2, 14, 10, 9), (6, 2, 14, 13), (10, 6, 2, 18),
    (3, 15, 11, 7), (7, 3, 15, 9), (11, 7, 3, 13), (15, 11, 7, 18),
    (1, 0, 3, 7), (2, 1, 0, 9), (3, 2, 1, 13), (0, 3, 2, 18),
    (6, 5, 4, 7), (7, 6, 5, 9), (4, 7, 6, 13), (5, 4, 7, 18),
    (11, 10, 9, 7), (8, 11, 10, 9), (9, 8, 11, 13), (10, 9, 8, 18),
    (12, 15, 14, 7), (13, 12, 15, 9), (14, 13, 12, 13), (15, 14, 13, 18)]

def combine (f : UInt32 → UInt32 → UInt32) (a b : Words) : Words := Array.zipWith f a b

def core (w : Words) : Words := combine (· + ·) w (Nat.repeat (fun w => turns.foldl turn w) 4 w)

/-- One mixing step over groups of sixteen words: every group is added to the result before it and
mixed, and the results at even places come before those at odd places. -/
def mix (w : Words) : Words :=
  let groups := w.size / 16
  let group (w : Words) (i : Nat) := w.extract (16 * i) (16 * i + 16)
  let results := ((List.range groups).foldl (fun (acc : Words × Array Words) i =>
    let x := core (combine (· ^^^ ·) acc.1 (group w i))
    (x, acc.2.push x)) (group w (groups - 1), #[])).2
  let pick (first : Nat) := (List.range (groups / 2)).map fun i => results.getD (2 * i + first) #[]
  (pick 0 ++ pick 1).foldl (· ++ ·) #[]

/-- The place told by the first two words of the last group. -/
def place (cost : Nat) (w : Words) : Nat :=
  let i := w.size - 16
  ((w.getD i 0).toNat + UInt32.size * (w.getD (i + 1) 0).toNat) % cost

/-- A lane filled by `cost` mixing steps and mixed `cost` times more. -/
def mixLane (cost : Nat) (w : Words) : Words :=
  let filled := (List.range cost).foldl (fun (acc : Words × Array Words) _ =>
    (mix acc.1, acc.2.push acc.1)) (w, #[])
  (List.range cost).foldl (fun w _ =>
    mix (combine (· ^^^ ·) w (filled.2.getD (place cost w) #[]))) filled.1

def toWords : Bytes → List UInt32
  | a :: b :: c :: d :: rest =>
    (a.toUInt32 ||| (b.toUInt32 <<< 8) ||| (c.toUInt32 <<< 16) ||| (d.toUInt32 <<< 24)) ::
      toWords rest
  | _ => []

def ofWords (w : List UInt32) : Bytes :=
  w.flatMap fun (x : UInt32) =>
    [x.toUInt8, (x >>> 8).toUInt8, (x >>> 16).toUInt8, (x >>> 24).toUInt8]

/-- What the stretching costs: steps per lane, the size of a lane in 128 bytes, and lanes. -/
structure Cost where
  (steps size lanes : Nat)
  deriving DecidableEq

/-- The steps are a power of two that the size of a lane admits, and the lanes are few enough. -/
def Cost.isValid (c : Cost) : Bool :=
  Nat.pow 2 (Nat.log2 c.steps) == c.steps && 0 < c.size && 0 < c.lanes &&
    Nat.log2 c.steps < 16 * c.size && c.size * c.lanes < Nat.pow 2 30 &&
    128 * c.size * c.steps < UInt64.size && 128 * c.size * c.lanes < UInt64.size

end Scrypt

def scrypt (cost : Scrypt.Cost) (password salt : Bytes) (length : Nat) : Bytes :=
  let lanes := pbkdf2 sha256 password salt 1 (128 * cost.size * cost.lanes)
  let mixed := (List.range cost.lanes).flatMap fun i =>
    let lane := (lanes.drop (128 * cost.size * i)).take (128 * cost.size)
    Scrypt.ofWords (Scrypt.mixLane cost.steps (Scrypt.toWords lane).toArray).toList
  pbkdf2 sha256 password mixed 1 length

end HbarKit.Hash
