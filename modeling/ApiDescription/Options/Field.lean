import ApiDescription.Decimal
import ApiDescription.Options
import ApiDescription.Text.Quoted

/-!
# The fields of options

Options are written as an object in either format.  Each field takes a text, a truth value or a
count; a value of another kind is refused in words that say what it is and what was expected.
-/

namespace ApiDescription

/-- The fields of options, in the order in which a list gives them. -/
inductive OptionField where
  | baseUri | resolveExternal | maxDepth | validate | strict | warningsAsErrors
deriving DecidableEq, Repr, Inhabited

namespace OptionField

/-- All fields. -/
def all : List OptionField :=
  [.baseUri, .resolveExternal, .maxDepth, .validate, .strict, .warningsAsErrors]

/-- The name of a field. -/
def name : OptionField → String
  | .baseUri => "baseUri"
  | .resolveExternal => "resolveExternal"
  | .maxDepth => "maxDepth"
  | .validate => "validate"
  | .strict => "strict"
  | .warningsAsErrors => "warningsAsErrors"

/-- The field of a given name. -/
def ofName? (name : String) : Option OptionField := all.find? (·.name = name)

end OptionField

/-- A way to read each kind of value. -/
structure ValueReader (m : Type → Type) where
  /-- Reads a text, or that there is none. -/
  text : m (Option String)
  /-- Reads a truth value. -/
  flag : m Bool
  /-- Reads a count. -/
  count : m Nat

/-- Reads the value of a field, and gives the change that it makes. -/
def OptionField.read {m : Type → Type} [Monad m] (value : ValueReader m) (field : OptionField) :
    m (Options → Options) :=
  match field with
  | .baseUri => do
    let text ← value.text
    return fun o => { o with baseUri := text }
  | .resolveExternal => do
    let flag ← value.flag
    return fun o => { o with resolveExternal := flag }
  | .maxDepth => do
    let count ← value.count
    return fun o => { o with maxDepth := count }
  | .validate => do
    let flag ← value.flag
    return fun o => { o with validate := flag }
  | .strict => do
    let flag ← value.flag
    return fun o => { o with strict := flag }
  | .warningsAsErrors => do
    let flag ← value.flag
    return fun o => { o with warningsAsErrors := flag }

/-- What is written where a value of another kind is expected. -/
inductive Offer where
  /-- Null. -/
  | null
  /-- A truth value. -/
  | flag (value : Bool)
  /-- An integer. -/
  | integer (value : Int)
  /-- An integer that fits no 64 bits, with the word for its type. -/
  | wide (value : Int) (word : String)
  /-- A double. -/
  | float (value : Float)
  /-- A text. -/
  | text (value : String)
  /-- A list. -/
  | list
  /-- An object. -/
  | object

/-- How a format speaks of values. -/
structure Wording where
  /-- The word for null. -/
  null : String
  /-- How doubles are written. -/
  float : Decimal.Layout

/-- What is offered, in words. -/
def Offer.words (w : Wording) : Offer → String
  | .null => w.null
  | .flag b => "boolean \x60" ++ (if b then "true" else "false") ++ "\x60"
  | .integer n => "integer \x60" ++ toString n ++ "\x60"
  | .wide n word => "integer \x60" ++ toString n ++ "\x60 as " ++ word
  | .float f => "floating point \x60" ++ w.float.float f ++ "\x60"
  | .text s => "string " ++ Text.quoted s
  | .list => "sequence"
  | .object => "map"

/-- Why options are refused. -/
inductive OptionProblem where
  /-- Something else is offered than expected. -/
  | mistyped (offer : Offer) (expected : String)
  /-- A number is no count. -/
  | negative (value : Int)
  /-- A field is given twice. -/
  | repeated (field : OptionField)

/-- What is expected where the whole object stands. -/
def expectedOptions : String := "struct ImportOptions"

/-- What is expected where a count stands. -/
def expectedCount : String := "usize"

/-- What is expected where a truth value stands. -/
def expectedFlag : String := "a boolean"

/-- What is expected where a text stands. -/
def expectedText : String := "a string"

/-- The message for refused options. -/
def OptionProblem.message (w : Wording) : OptionProblem → String
  | .mistyped offer expected => "invalid type: " ++ offer.words w ++ ", expected " ++ expected
  | .negative value =>
    "invalid value: " ++ (Offer.integer value).words w ++ ", expected " ++ expectedCount
  | .repeated field => "duplicate field \x60" ++ field.name ++ "\x60"

/-- The message for a text that gives no options. -/
def optionsMessage (reason : String) : String := "Invalid import options: " ++ reason

end ApiDescription
