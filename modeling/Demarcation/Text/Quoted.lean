/-
Quoted texts, as they stand in messages.

A quoted text shows every character: the usual escapes for a few of them, the
code point in braces for each other one that does not show by itself.
-/
import Demarcation.Text.Visible

namespace Demarcation.Text

/-- One character within quotes. -/
def shown (c : Char) : List Char :=
  match c with
  | '\x00' => ['\\', '0']
  | '\t' => ['\\', 't']
  | '\r' => ['\\', 'r']
  | '\n' => ['\\', 'n']
  | '"' => ['\\', '"']
  | '\\' => ['\\', '\\']
  | c =>
    if isVisible c then [c]
    else ['\\', 'u', '{'] ++ Nat.toDigits 16 c.toNat ++ ['}']

/-- A text within quotes. -/
def quoted (s : String) : String :=
  String.ofList ('"' :: s.toList.flatMap shown ++ ['"'])

example : quoted "a\"\t\x7f é" = "\"a\\\"\\t\\u\x7b7f\x7d é\"" := by decide +kernel

end Demarcation.Text
