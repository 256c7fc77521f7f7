import TierHeap.Number.Shortest

/-!
# JSON values

Objects keep the order of their members.  `canonical` gives every object the form of a
dictionary: members in ascending order of their keys, the last of several equal keys kept.
-/

namespace TierHeap

/-- A JSON number: a natural number below `2 ^ 64`, a negative whole number down to
`-2 ^ 63`, or a double. -/
inductive JsonNumber where
  | natural (n : Nat)
  | negative (size : Nat)
  | double (x : Binary64)
  deriving DecidableEq, Repr

/-- A JSON value. -/
inductive Json where
  | null
  | bool (value : Bool)
  | number (value : JsonNumber)
  | string (text : String)
  | array (items : List Json)
  | object (members : List (String × Json))
  deriving Inhabited

namespace Json

def nat (n : Nat) : Json :=
  .number (.natural n)

def int (n : Int) : Json :=
  .number (if n < 0 then .negative n.natAbs else .natural n.natAbs)

def ofOption
    {α : Type}
    (encode : α → Json) : Option α → Json
  | none => .null
  | some value => encode value

def ofList
    {α : Type}
    (encode : α → Json)
    (items : List α) : Json :=
  .array (items.map encode)

/-- Put a member into a list of members in ascending order, in place of an equal key. -/
def insertMember
    (key : String)
    (value : Json) : List (String × Json) → List (String × Json)
  | [] => [(key, value)]
  | (other, held) :: rest =>
      if key < other then (key, value) :: (other, held) :: rest
      else if key = other then (key, value) :: rest
      else (other, held) :: insertMember key value rest

/-- Members in ascending order of their keys, the last of equal keys kept. -/
def sortMembers (members : List (String × Json)) : List (String × Json) :=
  members.foldl (fun sorted member => insertMember member.1 member.2 sorted) []

mutual

def canonical : Json → Json
  | .array items => .array (canonicalItems items)
  | .object members => .object (sortMembers (canonicalMembers members))
  | .null => .null
  | .bool value => .bool value
  | .number value => .number value
  | .string text => .string text

def canonicalItems : List Json → List Json
  | [] => []
  | item :: rest => canonical item :: canonicalItems rest

def canonicalMembers : List (String × Json) → List (String × Json)
  | [] => []
  | (key, value) :: rest => (key, canonical value) :: canonicalMembers rest

end

def members? : Json → Option (List (String × Json))
  | .object members => some members
  | _ => none

def items? : Json → Option (List Json)
  | .array items => some items
  | _ => none

def string? : Json → Option String
  | .string text => some text
  | _ => none

def nat? : Json → Option Nat
  | .number (.natural n) => some n
  | _ => none

def int? : Json → Option Int
  | .number (.natural n) => some n
  | .number (.negative n) => some (-n)
  | _ => none

def bool? : Json → Option Bool
  | .bool value => some value
  | _ => none

/-- The member of an object with a given key; the first of equal keys. -/
def get?
    (key : String)
    (value : Json) : Option Json :=
  value.members?.bind fun members => members.lookup key

mutual

/-- The same value with other values for some keys, wherever they occur. -/
def override (replacement : String → Option Json) : Json → Json
  | .array items => .array (overrideItems replacement items)
  | .object members => .object (overrideMembers replacement members)
  | .null => .null
  | .bool value => .bool value
  | .number value => .number value
  | .string text => .string text

def overrideItems (replacement : String → Option Json) : List Json → List Json
  | [] => []
  | item :: rest => override replacement item :: overrideItems replacement rest

def overrideMembers (replacement : String → Option Json) :
    List (String × Json) → List (String × Json)
  | [] => []
  | (key, value) :: rest =>
      (key, (replacement key).getD (override replacement value)) ::
        overrideMembers replacement rest

end

end Json

end TierHeap
