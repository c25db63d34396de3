import EchoProbe.Text.Digits
import EchoProbe.Text.Unshown

/-!
# Quoted text

Text between double quotes, so that a reader sees where it begins and ends and which
characters are in it. A quote and a backslash follow a backslash; tab, line feed,
carriage return and the null character have letters; every other character that does
not show is written by its number.
-/

namespace EchoProbe.Text

/-- A character inside quotes. -/
def quoteChar (c : Char) : String :=
  match c with
  | '\x00' => "\\0"
  | '\t' => "\\t"
  | '\r' => "\\r"
  | '\n' => "\\n"
  | '"' => "\\\""
  | '\\' => "\\\\"
  | c => if isUnshown c then "\\u\x7b" ++ hex c.toNat ++ "\x7d" else String.singleton c

/-- The text in quotes. -/
def quote (text : String) : String := "\"" ++ String.join (text.toList.map quoteChar) ++ "\""

end EchoProbe.Text
