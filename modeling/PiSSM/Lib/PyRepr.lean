import Mathlib.Tactic

/-!
Python's `repr` of a text: the quotes it stands in and the escapes of its characters.
-/

namespace PiSSM.Lib

/-- The digits of a character code in an escape. -/
def hexDigits (width code : Nat) : String :=
  String.ofList
    (((List.range width).map fun place => Nat.digitChar (code / 16 ^ place % 16)).reverse)

/-- The delimiter `repr` chooses: a double quote around a text that has single quotes
and no double ones. -/
def reprQuote (codes : List Nat) : Char :=
  if 39 ∈ codes ∧ 34 ∉ codes then '"' else '\''

/-- One character of a `repr`; `printable` decides which of the characters beyond ASCII
stand for themselves. -/
def reprChar (printable : Nat → Bool) (quote : Char) (code : Nat) : String :=
  if code = quote.toNat ∨ code = 92 then "\\" ++ String.singleton (Char.ofNat code)
  else if code = 9 then "\\t"
  else if code = 10 then "\\n"
  else if code = 13 then "\\r"
  else if 32 ≤ code ∧ code < 127 then String.singleton (Char.ofNat code)
  else if 127 < code ∧ printable code then String.singleton (Char.ofNat code)
  else if code < 0x100 then "\\x" ++ hexDigits 2 code
  else if code < 0x10000 then "\\u" ++ hexDigits 4 code
  else "\\U" ++ hexDigits 8 code

def quoted (printable : Nat → Bool) (codes : List Nat) : String :=
  let quote := reprQuote codes
  String.singleton quote ++ String.join (codes.map (reprChar printable quote)) ++
    String.singleton quote

end PiSSM.Lib
