import TreeFetch.Unicode.Property

/-!
# Quoted texts

A quoted text stands between double quotes and shows every character that could not be told apart by
eye: quotes, backslashes and the usual control characters by a backslash and a letter, characters
that attach to the one before them or that have no shape by their code point.
-/

namespace TreeFetch.Quoted

open Unicode

/-- The characters without a shape of their own, the space among them. -/
def shapeless : CharSet := .unions [control, format, privateUse, unassigned, separator]

def isPlain (c : Char) : Bool :=
  c = ' ' || !(shapeless.contains c || graphemeExtend.contains c)

def escape (c : Char) : List Char :=
  match c with
  | '\x00' => ['\\', '0']
  | '\t' => ['\\', 't']
  | '\r' => ['\\', 'r']
  | '\n' => ['\\', 'n']
  | '\\' => ['\\', '\\']
  | '"' => ['\\', '"']
  | _ => if isPlain c then [c] else ['\\', 'u', '\x7b'] ++ Nat.toDigits 16 c.toNat ++ ['\x7d']

end TreeFetch.Quoted

namespace TreeFetch

def quoted (text : String) : String :=
  "\"" ++ String.ofList (text.toList.flatMap Quoted.escape) ++ "\""

end TreeFetch
