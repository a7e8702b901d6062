import PluginMerge.Text.Basic

/-!
# Octets of a text

UTF-8 in both directions. Reading never fails: it cuts the octets into units, each of which is a
character or an ill-formed stretch. A stretch is as long as it can be and still begin some
character, so the first octet that breaks a character is judged anew.

* `Octets.units`: the units of a list of octets.
* `Octets.decode`: every ill-formed stretch becomes one replacement character.
* `Octets.decodeStrict?`: no ill-formed stretch is allowed.
* `Octets.encode`: the octets of a text.
-/

namespace PluginMerge

/-- The content of a file. -/
abbrev Octets := List UInt8

namespace Octets

/-- A character that has begun and is not complete. -/
structure Pending where
  /-- The number of octets still to come. -/
  need : Nat
  /-- The least next octet. -/
  low : Nat
  /-- The greatest next octet. -/
  high : Nat
  /-- The bits of the code point so far. -/
  bits : Nat
  deriving DecidableEq, Repr

/-- What an octet at the start of a unit says. -/
inductive Lead where
  /-- It is a character by itself. -/
  | single (c : Char)
  /-- It begins a character of several octets. -/
  | begins (p : Pending)
  /-- It begins no character. -/
  | illFormed
  deriving DecidableEq, Repr

/-- The table of leading octets. The bounds on the second octet leave out overlong forms,
surrogates and values behind U+10FFFF. -/
def lead (b : UInt8) : Lead :=
  let n := b.toNat
  if n ≤ 0x7F then .single (Char.ofNat n)
  else if n ≤ 0xC1 then .illFormed
  else if n ≤ 0xDF then .begins ⟨1, 0x80, 0xBF, n - 0xC0⟩
  else if n = 0xE0 then .begins ⟨2, 0xA0, 0xBF, 0⟩
  else if n = 0xED then .begins ⟨2, 0x80, 0x9F, 0xD⟩
  else if n ≤ 0xEF then .begins ⟨2, 0x80, 0xBF, n - 0xE0⟩
  else if n = 0xF0 then .begins ⟨3, 0x90, 0xBF, 0⟩
  else if n ≤ 0xF3 then .begins ⟨3, 0x80, 0xBF, n - 0xF0⟩
  else if n = 0xF4 then .begins ⟨3, 0x80, 0x8F, 4⟩
  else .illFormed

/-- A character that has taken one more octet. -/
def Pending.take (p : Pending) (b : UInt8) : Pending :=
  ⟨p.need - 1, 0x80, 0xBF, p.bits * 64 + (b.toNat - 0x80)⟩

/-- Whether an octet continues a character. -/
def Pending.accepts (p : Pending) (b : UInt8) : Bool :=
  decide (p.low ≤ b.toNat) && decide (b.toNat ≤ p.high)

/-- The units of a list of octets, after the octets of an incomplete character. A unit without a
character is an ill-formed stretch. -/
def unitsFrom : Option Pending → Octets → List (Option Char)
  | none, [] => []
  | some _, [] => [none]
  | none, b :: rest =>
    match lead b with
    | .single c => some c :: unitsFrom none rest
    | .begins p => unitsFrom (some p) rest
    | .illFormed => none :: unitsFrom none rest
  | some p, b :: rest =>
    if p.accepts b then
      if p.need ≤ 1 then some (Char.ofNat (p.take b).bits) :: unitsFrom none rest
      else unitsFrom (some (p.take b)) rest
    else
      match lead b with
      | .single c => none :: some c :: unitsFrom none rest
      | .begins q => none :: unitsFrom (some q) rest
      | .illFormed => none :: none :: unitsFrom none rest

/-- The units of a list of octets. -/
def units (octets : Octets) : List (Option Char) := unitsFrom none octets

/-- The character that stands for an ill-formed stretch. -/
def replacement : Char := Char.ofNat 0xFFFD

/-- The text of a list of octets, with a replacement character for every ill-formed stretch. -/
def decode (octets : Octets) : Text := (units octets).map (·.getD replacement)

/-- The text of a list of octets, if they are well-formed throughout. -/
def decodeStrict? (octets : Octets) : Option Text := (units octets).mapM id

/-- The octets of a text. -/
def encode (s : Text) : Octets := s.flatMap String.utf8EncodeChar

end Octets

end PluginMerge
