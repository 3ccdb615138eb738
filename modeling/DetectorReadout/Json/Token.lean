import DetectorReadout.Json.Numeral

/-!
# Tokens of a JSON text

`Token.scan` cuts a text into tokens by a machine that reads one character at a time. White space is space, tab, line feed
and carriage return. A string may hold any character but control characters, quotes and backslashes; escapes name 16-bit
units, and two of them that form a surrogate pair name one character.
-/

namespace DetectorReadout

/-- A token of a JSON text. -/
inductive Token where
  /-- Opening square bracket. -/
  | openArray
  /-- Closing square bracket. -/
  | closeArray
  /-- Opening brace. -/
  | openObject
  /-- Closing brace. -/
  | closeObject
  /-- Colon. -/
  | colon
  /-- Comma. -/
  | comma
  /-- A number, a truth value or the empty value. -/
  | atom (value : Json)
  /-- A string, which is also the key of a field. -/
  | text (value : Option String)
deriving Repr

namespace Token

/-- The text of a sequence of code points, in which a high and a low surrogate next to each other are one character. There
is none if another surrogate is left. -/
def textOfCodes : List Nat → Option (List Char)
  | [] => some []
  | [c] => if 0xd800 ≤ c ∧ c < 0xe000 then none else some [Char.ofNat c]
  | c :: d :: rest =>
    if 0xd800 ≤ c ∧ c < 0xdc00 ∧ 0xdc00 ≤ d ∧ d < 0xe000 then
      (textOfCodes rest).map (Char.ofNat (0x10000 + (c - 0xd800) * 0x400 + (d - 0xdc00)) :: ·)
    else if 0xd800 ≤ c ∧ c < 0xe000 then none
    else (textOfCodes (d :: rest)).map (Char.ofNat c :: ·)

/-- The code point that a letter behind a backslash stands for. -/
def escaped? : Char → Option Nat
  | '"' => some 0x22
  | '\\' => some 0x5c
  | '/' => some 0x2f
  | 'b' => some 0x08
  | 'f' => some 0x0c
  | 'n' => some 0x0a
  | 'r' => some 0x0d
  | 't' => some 0x09
  | _ => none

/-- The value of a hexadecimal digit. -/
def hexDigit? (c : Char) : Option Nat :=
  if '0' ≤ c ∧ c ≤ '9' then some (c.toNat - '0'.toNat)
  else if 'a' ≤ c ∧ c ≤ 'f' then some (c.toNat - 'a'.toNat + 10)
  else if 'A' ≤ c ∧ c ≤ 'F' then some (c.toNat - 'A'.toNat + 10)
  else none

/-- Where the machine stands: what the next character belongs to. Code points read so far are kept last one first. -/
inductive Scan where
  /-- Between two tokens. -/
  | between
  /-- Inside a word, with the characters that are still to come and the value of the whole. -/
  | word (rest : List Char) (value : Json)
  /-- Inside a numeral. -/
  | numeral (n : Numeral)
  /-- Inside a string. -/
  | string (codes : List Nat)
  /-- Behind a backslash. -/
  | escape (codes : List Nat)
  /-- Inside the digits of a unit, with the number of digits that are still to come and the value of those read. -/
  | unit (codes : List Nat) (left : Nat) (value : Nat)

namespace Scan

/-- The machine behind the first character of a token, together with the token if it is complete. -/
def start (c : Char) : Option (Scan × List Token) :=
  match c with
  | ' ' | '\t' | '\n' | '\r' => some (between, [])
  | '[' => some (between, [.openArray])
  | ']' => some (between, [.closeArray])
  | '{' => some (between, [.openObject])
  | '}' => some (between, [.closeObject])
  | ':' => some (between, [.colon])
  | ',' => some (between, [.comma])
  | '"' => some (string [], [])
  | 'n' => some (word ['u', 'l', 'l'] .null, [])
  | 't' => some (word ['r', 'u', 'e'] (.bool true), [])
  | 'f' => some (word ['a', 'l', 's', 'e'] (.bool false), [])
  | c => (Numeral.start? c).map fun n => (numeral n, [])

/-- The machine behind the next character, together with the tokens completed by it. -/
def next (s : Scan) (c : Char) : Option (Scan × List Token) :=
  match s with
  | between => start c
  | word [] _ => none
  | word [r] v => if c = r then some (between, [.atom v]) else none
  | word (r :: rest) v => if c = r then some (word rest v, []) else none
  | numeral n =>
    match n.push c with
    | some n => some (numeral n, [])
    | none => do
      let v ← n.value?
      let (s, tokens) ← start c
      some (s, .atom (.number v) :: tokens)
  | string codes =>
    if c = '"' then some (between, [.text ((textOfCodes codes.reverse).map String.ofList)])
    else if c = '\\' then some (escape codes, [])
    else if c.toNat < 0x20 then none
    else some (string (c.toNat :: codes), [])
  | escape codes =>
    if c = 'u' then some (unit codes 4 0, []) else (escaped? c).map fun code => (string (code :: codes), [])
  | unit codes left value =>
    (hexDigit? c).map fun d =>
      if left = 1 then (string ((value * 16 + d) :: codes), []) else (unit codes (left - 1) (value * 16 + d), [])

/-- The tokens completed by the end of the text. -/
def finish : Scan → Option (List Token)
  | between => some []
  | numeral n => n.value?.map fun v => [.atom (.number v)]
  | _ => none

end Scan

/-- The tokens of a text behind those already found, which stand last one first. -/
def scanFrom (s : Scan) (found : List Token) : List Char → Option (List Token)
  | [] => s.finish.map (found.reverse ++ ·)
  | c :: rest =>
    match s.next c with
    | some (s, tokens) => scanFrom s (tokens.reverse ++ found) rest
    | none => none

/-- The tokens of a text. -/
def scan (text : String) : Option (List Token) := scanFrom .between [] text.toList

end Token

end DetectorReadout
