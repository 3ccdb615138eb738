import DetectorReadout.Text.Visible

/-!
# Text between double quotes

A text is written between double quotes on one line, such that every character of it can be seen. Visible characters stand
for themselves, except for the double quote and the backslash, which a backslash precedes. An invisible character is written
as an escape: the usual letter, where it has one, or its code point.
-/

namespace DetectorReadout

namespace Text

/-- A lower-case hexadecimal numeral. -/
def hexadecimal (n : Nat) : String := String.ofList (Nat.toDigits 16 n)

/-- A character as it stands between double quotes. Tab, line feed, carriage return and NUL have short escapes; any other
invisible character is written by its code point in braces. -/
def quotedChar (c : Char) : String :=
  match c with
  | '"' => "\\\""
  | '\\' => "\\\\"
  | '\t' => "\\t"
  | '\n' => "\\n"
  | '\r' => "\\r"
  | '\x00' => "\\0"
  | c => if isVisible c then String.singleton c else "\\u\x7b" ++ hexadecimal c.toNat ++ "\x7d"

/-- A text between double quotes. -/
def quoted (s : String) : String := "\"" ++ String.join (s.toList.map quotedChar) ++ "\""

end Text

end DetectorReadout
