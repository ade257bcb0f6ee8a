import ApiDescription.Json.Reader.Skip
import ApiDescription.Options.Field

/-!
# Options as JSON

Options are an object whose unknown fields are passed over, or a list of the values of the first
fields in order.  A value that is refused is read to its end first, unless it is a list or an
object; the failure is where reading stands then.
-/

namespace ApiDescription.Options

open Json.Reader (peekToken skip word string colon anotherItem anotherMember finish)

/-- Why a JSON text gives no options. -/
inductive JsonProblem where
  /-- It breaks a rule of JSON. -/
  | rule (rule : Json.Rule)
  /-- A value is refused. -/
  | option (problem : OptionProblem)

/-- How JSON speaks of values. -/
def jsonWording : Wording := ⟨"null", .json⟩

/-- The message for a problem. -/
def JsonProblem.message : JsonProblem → String
  | .rule broken => broken.message
  | .option problem => problem.message jsonWording

/-- A reader of options. -/
abbrev JsonReader (α : Type) := StateT Json.Cursor (Except (JsonProblem × Json.Place)) α

/-- A reader of JSON as a reader of options. -/
def lift {α : Type} (r : Json.Reader α) : JsonReader α := fun c =>
  (r c).mapError fun f => (.rule f.rule, f.place)

/-- Fails at the next byte. -/
def failNext {α : Type} (rule : Json.Rule) : JsonReader α := lift (Json.Reader.failNext rule)

/-- Refuses what has been read. -/
def refuse {α : Type} (problem : OptionProblem) : JsonReader α := do
  throw (.option problem, (← get).place)

/-- Reads what is offered in place of something else. -/
def offer : JsonReader Offer := do
  match ← lift peekToken with
  | none => failNext .endInValue
  | some 'n' => lift (do skip; word ['u', 'l', 'l']); return .null
  | some 't' => lift (do skip; word ['r', 'u', 'e']); return .flag true
  | some 'f' => lift (do skip; word ['a', 'l', 's', 'e']); return .flag false
  | some '-' => return ofNumber (← lift (do skip; Json.Reader.number true))
  | some '"' => return .text (← lift (do skip; string))
  | some '[' => return .list
  | some '\x7b' => return .object
  | some c =>
    if c.isDigit then return ofNumber (← lift (Json.Reader.number false))
    else failNext .expectedValue
where
  /-- A number that is offered. -/
  ofNumber : Json.Number → Offer
    | .int n => .integer n
    | .float f => .float f

/-- Refuses the value that follows. -/
def expect {α : Type} (expected : String) : JsonReader α := do
  refuse (.mistyped (← offer) expected)

/-- Reads a truth value. -/
def jsonFlag : JsonReader Bool := do
  match ← lift peekToken with
  | some 't' => lift (do skip; word ['r', 'u', 'e']); return true
  | some 'f' => lift (do skip; word ['a', 'l', 's', 'e']); return false
  | _ => expect expectedFlag

/-- Reads a text or null. -/
def jsonText : JsonReader (Option String) := do
  match ← lift peekToken with
  | some 'n' => lift (do skip; word ['u', 'l', 'l']); return none
  | some '"' => return some (← lift (do skip; string))
  | _ => expect expectedText

/-- Reads a count. -/
def jsonCount : JsonReader Nat := do
  match ← offer with
  | .integer (.ofNat n) => return n
  | .integer n => refuse (.negative n)
  | other => refuse (.mistyped other expectedCount)

/-- The readers of values. -/
def jsonValue : ValueReader JsonReader := ⟨jsonText, jsonFlag, jsonCount⟩

/-- Reads the end of a list that has given all fields. -/
def listEnd : JsonReader Unit := do
  match ← lift peekToken with
  | none => failNext .endInList
  | some ']' => lift skip
  | some ',' =>
    lift skip
    match ← lift peekToken with
    | some ']' => failNext .trailingComma
    | _ => failNext .trailingCharacters
  | some _ => failNext .trailingCharacters

/-- Reads the values of fields in order, up to the end of the list. -/
def listed (o : Options) (first : Bool) : List OptionField → JsonReader Options
  | [] => do
    listEnd
    return o
  | field :: rest => do
    if ← lift (anotherItem first) then
      let change ← field.read jsonValue
      listed (change o) false rest
    else
      lift skip
      return o

/-- Refuses a field that is given again, once the end of the object is looked for. -/
def refuseRepeated {α : Type} (field : OptionField) : JsonReader α := do
  if (← lift peekToken) = some '\x7d' then lift skip
  refuse (.repeated field)

/-- Reads fields up to the end of the object, behind those already given. -/
def named (o : Options) (given : List OptionField) (first : Bool) : Nat → JsonReader Options
  | 0 => failNext .endInObject
  | bound + 1 => do
    if ← lift (anotherMember first) then
      let name ← lift (do skip; string)
      match OptionField.ofName? name with
      | some field =>
        if field ∈ given then refuseRepeated field
        lift colon
        let change ← field.read jsonValue
        named (change o) (field :: given) false bound
      | none =>
        lift colon
        lift Json.Reader.skipValue
        named o given false bound
    else
      lift skip
      return o

/-- Reads options. -/
def fromJson : JsonReader Options := do
  match ← lift peekToken with
  | some '[' =>
    lift skip
    listed .standard true OptionField.all
  | some '\x7b' =>
    lift skip
    named .standard [] true ((← get).rest.length + 1)
  | _ => expect expectedOptions

/-- The options that a JSON text gives. -/
def ofJsonText (text : String) : Except String Options :=
  let reader : JsonReader Options := do
    let o ← fromJson
    lift finish
    return o
  match reader.run (.start text) with
  | .ok (o, _) => .ok o
  | .error (problem, place) =>
    .error (optionsMessage (problem.message ++ " at line " ++ toString place.line ++ " column " ++
      toString place.column))

end ApiDescription.Options
