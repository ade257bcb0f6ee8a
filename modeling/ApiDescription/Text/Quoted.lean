import ApiDescription.Text.Printable

/-!
# Texts quoted in messages

A text that a message quotes stands between double quotes.  Quotes and backslashes in it are
escaped, tabs and line breaks are written by their letter, and every other character that does not
print by itself is written by its code.
-/

namespace ApiDescription.Text

/-- A character by its code. -/
def codeEscape (c : Char) : String :=
  "\\u\x7b" ++ String.ofList (Nat.toDigits 16 c.toNat) ++ "\x7d"

/-- A character of a quoted text. -/
def quotedChar (c : Char) : String :=
  match c with
  | '\x00' => "\\0"
  | '\t' => "\\t"
  | '\n' => "\\n"
  | '\r' => "\\r"
  | '"' => "\\\""
  | '\\' => "\\\\"
  | c => if isPrintable c then String.singleton c else codeEscape c

/-- A text between quotes. -/
def quoted (text : String) : String :=
  text.foldl (fun done c => done ++ quotedChar c) "\"" ++ "\""

end ApiDescription.Text
