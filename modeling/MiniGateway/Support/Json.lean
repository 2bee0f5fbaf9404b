import MiniGateway.Support.Text

/-!
# Support — Json

JSON values, and how a derived deserialiser reads them.

A deserialiser gives nothing where the real one gives an error.  A struct is read from an object,
field by field: unknown members are skipped, a known one that comes twice is an error, and one that
is missing is an error unless the field has a default.  It is also read from an array, its items in
the order of the fields.
-/

namespace MiniGateway

/-- A JSON value; a number is an integer, or anything else it can be written as. -/
inductive Json where
  | null
  | bool (b : Bool)
  | int (n : Int)
  | float (numeral : Text)
  | str (s : Text)
  | arr (items : List Json)
  | obj (members : List (Text × Json))

namespace Json

variable {α : Type}

def asString : Json → Option Text
  | .str s => some s
  | _ => none

def asU16 : Json → Option Nat
  | .int n => if 0 ≤ n ∧ n < 65536 then some n.toNat else none
  | _ => none

def asVec (item : Json → Option α) : Json → Option (List α)
  | .arr items => items.mapM item
  | _ => none

/-- What a struct finds of its fields, in their order. -/
def fields (names : List Text) : Json → Option (List (Option Json))
  | .obj members =>
      if names.all fun name => members.countP (·.1 == name) ≤ 1 then
        some (names.map fun name => members.lookup name)
      else none
  | .arr items =>
      if items.length ≤ names.length then some (names.mapIdx fun i _ => items[i]?) else none
  | _ => none

/-- A field without a default. -/
def required (read : Json → Option α) (field : Option Json) : Option α := field.bind read

/-- A field with one. -/
def withDefault (read : Json → Option α) (default : α) : Option Json → Option α
  | some json => read json
  | none => some default

end Json

end MiniGateway
