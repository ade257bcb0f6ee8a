import ApiDescription.Decimal
import ApiDescription.Entries

/-!
# JSON values

A JSON value as every document is held once it is read: objects keep the order of their members, a
number is an integer or a double, and each of the six kinds of value has a name that messages use.

Objects that are read have no repeated member name; `Json.WellFormed` says so at every depth.
-/

namespace ApiDescription

/-- A JSON number: an integer between the least signed and the greatest unsigned number of 64
bits, or a double. -/
inductive Json.Number where
  /-- An integer. -/
  | int (value : Int)
  /-- A double. -/
  | float (value : Float)
deriving Inhabited, Repr

/-- A JSON value. -/
inductive Json where
  /-- The value `null`. -/
  | null
  /-- A truth value. -/
  | bool (value : Bool)
  /-- A number. -/
  | number (value : Json.Number)
  /-- A text. -/
  | string (value : String)
  /-- A list of values. -/
  | array (items : List Json)
  /-- Values under member names, in order. -/
  | object (members : List (String × Json))
deriving Inhabited, Repr

namespace Json

/-- The six kinds of JSON value. -/
inductive Kind where
  | null | boolean | number | string | array | object
deriving DecidableEq, Repr, Inhabited

/-- The word for a kind in messages. -/
def Kind.name : Kind → String
  | .null => "null"
  | .boolean => "boolean"
  | .number => "number"
  | .string => "string"
  | .array => "array"
  | .object => "object"

/-- The kind of a value. -/
def kind : Json → Kind
  | .null => .null
  | .bool _ => .boolean
  | .number _ => .number
  | .string _ => .string
  | .array _ => .array
  | .object _ => .object

/-- The member of an object under a name; no other value has members. -/
def member? : Json → String → Option Json
  | .object members, name => Entries.get? members name
  | _, _ => none

/-- The text of a string. -/
def string? : Json → Option String
  | .string s => some s
  | _ => none

/-- The truth value of a boolean. -/
def bool? : Json → Option Bool
  | .bool b => some b
  | _ => none

/-- The members of an object. -/
def members? : Json → Option (Entries Json)
  | .object members => some members
  | _ => none

/-- The items of an array. -/
def items? : Json → Option (List Json)
  | .array items => some items
  | _ => none

/-- The double nearest to a number. -/
def Number.toFloat : Number → Float
  | .int (.ofNat n) => n.toUInt64.toFloat
  | .int (.negSucc n) => -((n + 1).toUInt64.toFloat)
  | .float f => f

/-- A number as a count: an integer that is not negative. -/
def Number.count? : Number → Option Nat
  | .int (.ofNat n) => some n
  | _ => none

/-- A value as a count. -/
def count? : Json → Option Nat
  | .number n => n.count?
  | _ => none

/-- The text of a number. -/
def Number.text : Number → String
  | .int n => toString n
  | .float f => Decimal.Layout.json.float f

mutual

/-- No object at any depth repeats a member name. -/
def WellFormed : Json → Prop
  | .array items => WellFormedItems items
  | .object members => (Entries.names members).Nodup ∧ WellFormedMembers members
  | _ => True

/-- All of the items are well formed. -/
def WellFormedItems : List Json → Prop
  | [] => True
  | item :: rest => item.WellFormed ∧ WellFormedItems rest

/-- The values of all members are well formed. -/
def WellFormedMembers : List (String × Json) → Prop
  | [] => True
  | (_, value) :: rest => value.WellFormed ∧ WellFormedMembers rest

end

end Json

end ApiDescription
