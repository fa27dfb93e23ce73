import TrustedKeyring.Text.Unprinted

/-!
# Quoted text

Text in quotes as descriptions of values show it: quotes, backslashes and line ends are escaped,
and characters that are not printed are shown by number.
-/

namespace TrustedKeyring.Text

def shown (c : Char) : List Char :=
  match c with
  | '"' => ['\\', '"']
  | '\\' => ['\\', '\\']
  | '\x00' => ['\\', '0']
  | '\n' => ['\\', 'n']
  | '\r' => ['\\', 'r']
  | '\t' => ['\\', 't']
  | c =>
    if isUnprinted c then ['\\', 'u', '{'] ++ Nat.toDigits 16 c.toNat ++ ['}']
    else [c]

def quoted (text : String) : String :=
  String.ofList ('"' :: text.toList.flatMap shown ++ ['"'])

end TrustedKeyring.Text
