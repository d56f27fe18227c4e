/-! # Modifiers

The keywords that may stand in front of a declaration or member. A set of them is a word of
thirteen bits, one for each keyword, so two sets are equal exactly if they hold the same keywords
and no other bits exist.
-/

set_option autoImplicit false

namespace ScalaFacade

/-- A modifier keyword. -/
inductive Modifier where
  | exported
  | ambient
  | publicAccess
  | privateAccess
  | protectedAccess
  | static
  | readonly
  | accessor
  | abstract
  | async
  | default
  | const
  | override
deriving DecidableEq, Repr

/-- All modifiers, each at the place of its bit. -/
def Modifier.all : List Modifier :=
  [.exported, .ambient, .publicAccess, .privateAccess, .protectedAccess, .static, .readonly,
    .accessor, .abstract, .async, .default, .const, .override]

/-- The word that a modifier is written with. -/
def Modifier.keyword : Modifier → String
  | .exported => "export"
  | .ambient => "declare"
  | .publicAccess => "public"
  | .privateAccess => "private"
  | .protectedAccess => "protected"
  | .static => "static"
  | .readonly => "readonly"
  | .accessor => "accessor"
  | .abstract => "abstract"
  | .async => "async"
  | .default => "default"
  | .const => "const"
  | .override => "override"

/-- The modifier that a word stands for. -/
def Modifier.ofKeyword? (word : String) : Option Modifier :=
  Modifier.all.find? fun m => m.keyword == word

/-- A set of modifiers. -/
structure Modifiers where
  bits : BitVec 13
deriving DecidableEq, Repr

namespace Modifiers

/-- The set without any modifier. -/
def none : Modifiers := ⟨0⟩

/-- The set of one modifier. -/
def single (m : Modifier) : Modifiers := ⟨BitVec.twoPow 13 (Modifier.all.idxOf m)⟩

/-- The modifiers of either set. -/
def union (a b : Modifiers) : Modifiers := ⟨a.bits ||| b.bits⟩

/-- Whether the set holds a modifier. -/
def contains (set : Modifiers) (m : Modifier) : Bool := set.bits.getLsbD (Modifier.all.idxOf m)

/-- The set of all modifiers in a list. -/
def ofList (modifiers : List Modifier) : Modifiers :=
  modifiers.foldl (fun set m => set.union (single m)) none

/-- The modifiers of a set, in the order of their bits. -/
def toList (set : Modifiers) : List Modifier := Modifier.all.filter set.contains

/-- The set as a number, read off its bits. -/
def toNat (set : Modifiers) : Nat := set.bits.toNat

end Modifiers

end ScalaFacade
