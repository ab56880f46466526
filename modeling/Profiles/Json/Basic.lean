/-!
# JSON values

A document as a tree. The members of an object keep their order, and a name may come more than once;
looking a member up finds the last of that name. A number written without fraction and exponent is an
`int`; any other is a `decimal`, its digits and a power of ten, so that no digit is lost. A minus sign
before a bare zero makes a `decimal` too, since no integer has it.

A reader of JSON may bound what it takes. Here a document nests at most `maxDepth` levels deep, and each of
its numbers, whatever it is for, lies in the range of double precision: rounded to the nearest number of
that format it is finite. `withinLimits` tells whether a value keeps to both.
-/

namespace Profiles

/-- A JSON value. -/
inductive Json where
  | null
  | bool (value : Bool)
  | int (value : Int)
  /-- The number `mantissa * 10 ^ exponent`. -/
  | decimal (mantissa exponent : Int)
  | str (text : String)
  | arr (items : List Json)
  | obj (members : List (String × Json))

namespace Json

/-- The members of an object; any other value has none. -/
def members : Json → List (String × Json)
  | obj members => members
  | _ => []

/-- The value of the last member with the given name. -/
def field? (value : Json) (name : String) : Option Json := value.members.reverse.lookup name

/-- The text of a string; any other value has none. -/
def str? : Json → Option String
  | str text => some text
  | _ => none

/-- The truth value that a value is, if it is one. -/
def bool? : Json → Option Bool
  | bool value => some value
  | _ => none

/-- The value of a whole number that is not negative and takes at most 64 bits. -/
def word? : Json → Option Nat
  | int (.ofNat n) => if n < 0x10000000000000000 then some n else none
  | _ => none

/-- The items of an array; any other value has none. -/
def arr? : Json → Option (List Json)
  | arr items => some items
  | _ => none

/-- The string in a member that must be there. -/
def text? (value : Json) (name : String) : Option String := do (← value.field? name).str?

/-- A member that may be left out: `some none` where it is absent, `none` where it is there and not of the
kind that `read` takes. -/
def optional? {α : Type} (value : Json) (name : String) (read : Json → Option α) :
    Option (Option α) :=
  match value.field? name with
  | none => some none
  | some member => (read member).map some

/-! ### Limits -/

/-- The greatest number of arrays and objects that may lie one in another. -/
def maxDepth : Nat := 127

mutual

/-- How many arrays and objects lie one in another, at the most. -/
def depth : Json → Nat
  | arr items => depthOfItems items + 1
  | obj members => depthOfMembers members + 1
  | _ => 0

/-- The depth of the deepest of some values. -/
def depthOfItems : List Json → Nat
  | [] => 0
  | item :: items => max item.depth (depthOfItems items)

/-- The depth of the deepest of some members. -/
def depthOfMembers : List (String × Json) → Nat
  | [] => 0
  | (_, value) :: members => max value.depth (depthOfMembers members)

end

/-- The least size that double precision rounds to infinity: halfway from its largest number to the next
power of two. -/
def overflow : Nat := Nat.pow 2 1024 - Nat.pow 2 970

/-- Whether the number of the given digits and power of ten is in the range of double precision. -/
def inRange (mantissa exponent : Int) : Bool :=
  let size := mantissa.natAbs
  let places : Int := (Nat.toDigits 10 size).length + exponent
  -- only a number of just as many places as the bound is worked out, so a huge exponent costs nothing
  size = 0 || places < 309 || (places = 309 &&
    match exponent with
    | .ofNat e => size * Nat.pow 10 e < overflow
    -- both sides are multiplied, so that nothing is rounded
    | .negSucc e => size < overflow * Nat.pow 10 (e + 1))

mutual

/-- Whether all numbers in a value are in range. -/
def numbersInRange : Json → Bool
  | int value => inRange value 0
  | decimal mantissa exponent => inRange mantissa exponent
  | arr items => itemsInRange items
  | obj members => membersInRange members
  | _ => true

/-- Whether all numbers in some items are in range. -/
def itemsInRange : List Json → Bool
  | [] => true
  | item :: items => item.numbersInRange && itemsInRange items

/-- Whether all numbers in the values of some members are in range. -/
def membersInRange : List (String × Json) → Bool
  | [] => true
  | (_, value) :: members => value.numbersInRange && membersInRange members

end

/-- **Whether a value keeps to the limits.** -/
def withinLimits (value : Json) : Bool := value.depth ≤ maxDepth && value.numbersInRange

end Json

end Profiles
