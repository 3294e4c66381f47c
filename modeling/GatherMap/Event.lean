import GatherMap.Key

/-!
# Build events

Building a keyset reports what it decides: which kind of keyset the selector picks, the mask
that ends the first phase of the mask search, each narrowing step of the second phase, the step
it refuses and the final mask. Each event has a level (`DEBUG` or `TRACE`) and a line of text;
masks are written in lowercase hexadecimal with `0x`.
-/

namespace GatherMap

/-- One decision taken while building a keyset. -/
inductive BuildEvent where
  /-- The selector picks an ordered keyset for `keys` keys, at most `threshold`. -/
  | chooseOrdered (keys threshold : Nat)
  /-- The selector picks a perfect-hash keyset for `keys` keys, more than `threshold`. -/
  | choosePerfect (keys threshold : Nat)
  /-- The first phase ends with a mask that separates all `keys` keys. -/
  | collisionFree (mask : UInt64) (keys weight : Nat)
  /-- The second phase drops a bit; the longest bucket is now `longest`. -/
  | narrowed (mask : UInt64) (longest : Nat)
  /-- The second phase stops: dropping another bit would leave a bucket of `longest` keys. -/
  | keeping (mask candidate : UInt64) (longest : Nat)
  /-- The mask the search settles on. -/
  | finalMask (mask : UInt64) (weight longest : Nat)
  deriving DecidableEq, Repr, Inhabited

namespace BuildEvent

/-- `DEBUG` or `TRACE`. -/
def level : BuildEvent → String
  | narrowed .. | keeping .. => "TRACE"
  | _ => "DEBUG"

/-- The event's text. -/
def text : BuildEvent → String
  | chooseOrdered n t => s!"{n} keys, at most {t}: using an ordered keyset"
  | choosePerfect n t => s!"{n} keys, more than {t}: using a perfect-hash keyset"
  | collisionFree m n w =>
    "collision-free mask " ++ hexText m.toNat ++ s!" for {n} keys, weight {w}"
  | narrowed c k => "narrowed mask to " ++ hexText c.toNat ++ s!", longest bucket {k}"
  | keeping m c k =>
    "keeping mask " ++ hexText m.toNat ++ ": " ++ hexText c.toNat ++ s!" has a bucket of {k} keys"
  | finalMask m w k => "final mask " ++ hexText m.toNat ++ s!", weight {w}, longest bucket {k}"

/-- Level and text on one line. -/
def line (e : BuildEvent) : String := e.level ++ " " ++ e.text

end BuildEvent

end GatherMap
