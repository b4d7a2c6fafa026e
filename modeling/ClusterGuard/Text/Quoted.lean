import ClusterGuard.Text.Digits
import ClusterGuard.Text.Visible

/-!
# Quoted text

Model of the `Debug` form of a string.

`quoted s` is `s` between double quotes, with double quotes, backslashes and line breaks escaped
and every character without a visible form written as its number in hexadecimal.
-/

namespace ClusterGuard

/-- One character inside double quotes. -/
def quotedChar (c : Char) : List Char :=
  match c with
  | '\x00' => ['\\', '0']
  | '\t' => ['\\', 't']
  | '\r' => ['\\', 'r']
  | '\n' => ['\\', 'n']
  | '\\' => ['\\', '\\']
  | '"' => ['\\', '"']
  | c => if isVisible c then [c] else ['\\', 'u', '{'] ++ hexDigits c.toNat ++ ['}']

/-- A text between double quotes. -/
def quoted (s : String) : String := String.ofList ('"' :: s.toList.flatMap quotedChar ++ ['"'])

end ClusterGuard
