import ServiceBindings.Text.PrintableTable

/-!
Quoted text. A character that is a control, attaches to the one before it or has no printable shape is written
as an escape. Two quotations share this rule: the one that error messages and descriptions of values use, and the
one of string literals in generated code, which differs on apostrophes and on the null character.
-/

namespace ServiceBindings.Text

/-- Whether a character is shown as itself in quoted text. -/
def isPrintable (c : Char) : Bool :=
  c = ' ' || !memRuns unprintable c.toNat

/-- Hexadecimal digits of a number, lowercase, without leading zeros. -/
def hex (n : Nat) : String :=
  String.ofList (Nat.toDigits 16 n)

/-- The escape that names a character by its code point. -/
def codePointEscape (c : Char) : String :=
  "\\u\x7b" ++ hex c.toNat ++ "\x7d"

/-- How a character other than an apostrophe appears in quoted text. -/
def quotedChar (c : Char) : String :=
  match c with
  | '\x00' => "\\0"
  | '\t' => "\\t"
  | '\r' => "\\r"
  | '\n' => "\\n"
  | '\\' => "\\\\"
  | '"' => "\\\""
  | c =>
    if memRuns graphemeExtend c.toNat then codePointEscape c
    else if isPrintable c then c.toString
    else codePointEscape c

/-- A text between quotation marks, as descriptions of values show it. -/
def quoted (s : String) : String :=
  "\"" ++ String.join (s.toList.map quotedChar) ++ "\""

/-- The characters of a string literal of generated code. A null character before an octal digit is written in the
longer form, so that the digit is not taken for part of the escape. -/
def literalChars : List Char → List String
  | [] => []
  | '\x00' :: rest =>
    (match rest with
      | d :: _ => if '0' ≤ d ∧ d ≤ '7' then "\\x00" else "\\0"
      | [] => "\\0") :: literalChars rest
  | c :: rest => quotedChar c :: literalChars rest

/-- A string literal of generated code. -/
def literal (s : String) : String :=
  "\"" ++ String.join (literalChars s.toList) ++ "\""

end ServiceBindings.Text
