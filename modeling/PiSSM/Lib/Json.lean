import Mathlib.Tactic

/-!
JSON values and the text `json.dumps` gives them with its default settings: the
separators `", "` and `": "`, and every character outside printable ASCII
escaped. The text of a value is therefore a single line of printable ASCII.
-/

namespace PiSSM.Lib

/-- Printable ASCII, from the blank to the tilde. -/
def isPrintable (c : Char) : Bool := 32 ≤ c.toNat ∧ c.toNat ≤ 126

/-- A finite float, named by the text `repr` gives it. -/
structure PyFloat where
  repr : List Char
  printable : ∀ c ∈ repr, isPrintable c = true

instance : DecidableEq PyFloat := fun left right =>
  decidable_of_iff (left.repr = right.repr) (by cases left; cases right; simp)

inductive JsonValue where
  | null
  | bool (value : Bool)
  | int (value : Int)
  | float (value : PyFloat)
  | str (value : String)
  | array (items : List JsonValue)
  | object (fields : List (String × JsonValue))

/-- `'{0:04x}'.format(code)` of a number below `0x10000`. -/
def hex4 (code : Nat) : List Char :=
  [code / 4096 % 16, code / 256 % 16, code / 16 % 16, code % 16].map Nat.digitChar

/-- A character as `ensure_ascii` renders it; one beyond the basic plane becomes a
pair of surrogates. -/
def escapeChar (c : Char) : List Char :=
  if c = '"' then ['\\', '"']
  else if c = '\\' then ['\\', '\\']
  else if c = '\n' then ['\\', 'n']
  else if c = '\r' then ['\\', 'r']
  else if c = '\t' then ['\\', 't']
  else if c.toNat = 12 then ['\\', 'f']
  else if c.toNat = 8 then ['\\', 'b']
  else if isPrintable c then [c]
  else if c.toNat < 0x10000 then '\\' :: 'u' :: hex4 c.toNat
  else
    '\\' :: 'u' :: hex4 (0xd800 + (c.toNat - 0x10000) / 1024 % 1024) ++
      '\\' :: 'u' :: hex4 (0xdc00 + (c.toNat - 0x10000) % 1024)

def dumpsString (text : String) : List Char :=
  '"' :: text.toList.flatMap escapeChar ++ ['"']

namespace JsonValue

mutual

def dumps : JsonValue → List Char
  | .null => "null".toList
  | .bool true => "true".toList
  | .bool false => "false".toList
  | .int value => (toString value).toList
  | .float value => value.repr
  | .str value => dumpsString value
  | .array items => '[' :: dumpsItems items ++ [']']
  | .object fields => '{' :: dumpsFields fields ++ ['}']

def dumpsItems : List JsonValue → List Char
  | [] => []
  | [item] => item.dumps
  | item :: next :: rest => item.dumps ++ ", ".toList ++ dumpsItems (next :: rest)

def dumpsFields : List (String × JsonValue) → List Char
  | [] => []
  | [(name, value)] => dumpsString name ++ ": ".toList ++ value.dumps
  | (name, value) :: next :: rest =>
      dumpsString name ++ ": ".toList ++ value.dumps ++ ", ".toList ++
        dumpsFields (next :: rest)

end

end JsonValue

/-- All characters of a text are printable. -/
def AllPrintable (text : List Char) : Prop := ∀ c ∈ text, isPrintable c = true

/-- A given text is checked character by character. -/
theorem AllPrintable.of_all {text : List Char} (hall : text.all isPrintable = true) :
    AllPrintable text :=
  List.all_eq_true.mp hall

theorem AllPrintable.append {left right : List Char} (hleft : AllPrintable left)
    (hright : AllPrintable right) : AllPrintable (left ++ right) := by
  intro c hmem
  rcases List.mem_append.mp hmem with hmem | hmem
  · exact hleft c hmem
  · exact hright c hmem

theorem AllPrintable.cons {c : Char} {text : List Char} (hc : isPrintable c = true)
    (htext : AllPrintable text) : AllPrintable (c :: text) := by
  intro other hmem
  rcases List.mem_cons.mp hmem with rfl | hmem
  · exact hc
  · exact htext other hmem

theorem hex4_printable (code : Nat) : AllPrintable (hex4 code) := by
  have hdigit : ∀ digit : Fin 16, isPrintable (Nat.digitChar digit) = true := by decide
  intro c hmem
  obtain ⟨digit, hdigits, rfl⟩ := List.mem_map.mp hmem
  have hlt : digit < 16 := by
    simp only [List.mem_cons, List.not_mem_nil, or_false] at hdigits
    omega
  exact hdigit ⟨digit, hlt⟩

theorem escapeChar_printable (c : Char) : AllPrintable (escapeChar c) := by
  have hescape (code : Nat) : AllPrintable ('\\' :: 'u' :: hex4 code) :=
    .cons (by decide) (.cons (by decide) (hex4_printable code))
  unfold escapeChar
  split_ifs with _ _ _ _ _ _ _ hprintable
  · exact .of_all (by decide)
  · exact .of_all (by decide)
  · exact .of_all (by decide)
  · exact .of_all (by decide)
  · exact .of_all (by decide)
  · exact .of_all (by decide)
  · exact .of_all (by decide)
  · exact .cons hprintable fun _ hmem => by cases hmem
  · exact hescape _
  · exact (hescape _).append (hescape _)

theorem dumpsString_printable (text : String) : AllPrintable (dumpsString text) := by
  have hbody : AllPrintable (text.toList.flatMap escapeChar) := by
    intro c hmem
    obtain ⟨source, _, hc⟩ := List.mem_flatMap.mp hmem
    exact escapeChar_printable source c hc
  exact .cons (by decide) (hbody.append (.cons (by decide) fun _ hmem => by cases hmem))

theorem natText_printable (n : Nat) : AllPrintable (toString n).toList := by
  rw [Nat.toString_eq_repr, Nat.toList_repr]
  intro c hmem
  have hdigit := Nat.isDigit_of_mem_toDigits (by omega) (by omega) hmem
  have hrange : 48 ≤ c.toNat ∧ c.toNat ≤ 57 := Char.isDigit_iff_toNat.mp hdigit
  exact decide_eq_true (by omega)

theorem intText_printable (n : Int) : AllPrintable (toString n).toList := by
  cases n with
  | ofNat n => exact natText_printable n
  | negSucc n =>
      have htext : (toString (Int.negSucc n)).toList = '-' :: (toString (n + 1)).toList := by
        have hrepr : toString (Int.negSucc n) = "-" ++ toString (n + 1) := rfl
        rw [hrepr, String.toList_append]
        rfl
      rw [htext]
      exact .cons (by decide) (natText_printable (n + 1))

mutual

theorem JsonValue.dumps_printable : ∀ value : JsonValue, AllPrintable value.dumps
  | .null => by
      rw [JsonValue.dumps]
      exact .of_all (by decide)
  | .bool true => by
      rw [JsonValue.dumps]
      exact .of_all (by decide)
  | .bool false => by
      rw [JsonValue.dumps]
      exact .of_all (by decide)
  | .int value => by
      rw [JsonValue.dumps]
      exact intText_printable value
  | .float value => by
      rw [JsonValue.dumps]
      exact value.printable
  | .str value => by
      rw [JsonValue.dumps]
      exact dumpsString_printable value
  | .array items => by
      rw [JsonValue.dumps]
      exact .cons (by decide) ((JsonValue.dumpsItems_printable items).append
        (.cons (by decide) fun _ hmem => by cases hmem))
  | .object fields => by
      rw [JsonValue.dumps]
      exact .cons (by decide) ((JsonValue.dumpsFields_printable fields).append
        (.cons (by decide) fun _ hmem => by cases hmem))

theorem JsonValue.dumpsItems_printable :
    ∀ items : List JsonValue, AllPrintable (JsonValue.dumpsItems items)
  | [] => fun _ hmem => by cases hmem
  | [item] => by
      rw [JsonValue.dumpsItems]
      exact JsonValue.dumps_printable item
  | item :: next :: rest => by
      have hseparator : AllPrintable ", ".toList := .of_all (by decide)
      rw [JsonValue.dumpsItems]
      exact ((JsonValue.dumps_printable item).append hseparator).append
        (JsonValue.dumpsItems_printable (next :: rest))

theorem JsonValue.dumpsFields_printable :
    ∀ fields : List (String × JsonValue), AllPrintable (JsonValue.dumpsFields fields)
  | [] => fun _ hmem => by cases hmem
  | [(name, value)] => by
      have hcolon : AllPrintable ": ".toList := .of_all (by decide)
      rw [JsonValue.dumpsFields]
      exact ((dumpsString_printable name).append hcolon).append
        (JsonValue.dumps_printable value)
  | (name, value) :: next :: rest => by
      have hcolon : AllPrintable ": ".toList := .of_all (by decide)
      have hseparator : AllPrintable ", ".toList := .of_all (by decide)
      rw [JsonValue.dumpsFields]
      exact ((((dumpsString_printable name).append hcolon).append
        (JsonValue.dumps_printable value)).append hseparator).append
        (JsonValue.dumpsFields_printable (next :: rest))

end

end PiSSM.Lib
