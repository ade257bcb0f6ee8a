import ApiDescription.Json

/-!
# Writing JSON text

The compact text of a value: no blanks, members in their order, strings with the escapes that JSON
requires and no others.
-/

namespace ApiDescription.Json

/-- A character inside a quoted string. -/
def escaped (c : Char) : String :=
  match c with
  | '"' => "\\\""
  | '\\' => "\\\\"
  | '\x08' => "\\b"
  | '\x0c' => "\\f"
  | '\n' => "\\n"
  | '\r' => "\\r"
  | '\t' => "\\t"
  | c =>
    if c.toNat < 0x20 then
      let digits := String.ofList (Nat.toDigits 16 c.toNat)
      "\\u" ++ "".pushn '0' (4 - digits.length) ++ digits
    else String.singleton c

/-- A string in quotes. -/
def quoted (text : String) : String :=
  text.foldl (fun done c => done ++ escaped c) "\"" ++ "\""

mutual

/-- Appends the text of a value. -/
def writeTo (done : String) : Json → String
  | .null => done ++ "null"
  | .bool b => done ++ (if b then "true" else "false")
  | .number n => done ++ n.text
  | .string s => done ++ quoted s
  | .array items => writeItems (done ++ "[") true items ++ "]"
  | .object members => writeMembers (done ++ "\x7b") true members ++ "\x7d"

/-- Appends the texts of items, with commas between them. -/
def writeItems (done : String) (first : Bool) : List Json → String
  | [] => done
  | item :: rest =>
    writeItems (writeTo (if first then done else done ++ ",") item) false rest

/-- Appends the texts of members, with commas between them. -/
def writeMembers (done : String) (first : Bool) : List (String × Json) → String
  | [] => done
  | (name, value) :: rest =>
    let named := (if first then done else done ++ ",") ++ quoted name ++ ":"
    writeMembers (writeTo named value) false rest

end

/-- The compact text of a value. -/
def write (value : Json) : String := writeTo "" value

end ApiDescription.Json
