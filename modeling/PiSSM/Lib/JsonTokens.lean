import Mathlib.Data.List.TakeWhile
import PiSSM.Lib.Json

/-!
Readers of the strings and the numbers of JSON text. A string is read as UTF-16 code units,
so that two escapes may make up one character; a number is the longest text of characters
of numbers.
-/

namespace PiSSM.Lib

/-- The UTF-16 code units of a character. -/
def utf16Units (c : Char) : List Nat :=
  if c.toNat < 0x10000 then [c.toNat]
  else [0xd800 + (c.toNat - 0x10000) / 1024 % 1024, 0xdc00 + (c.toNat - 0x10000) % 1024]

/-- The characters of some code units, unless a surrogate is without its partner. -/
def ofUtf16Units : List Nat → Option (List Char)
  | [] => some []
  | unit :: rest =>
      if unit < 0xd800 ∨ 0xdfff < unit then
        (ofUtf16Units rest).map fun text => Char.ofNat unit :: text
      else
        match rest with
        | [] => none
        | low :: rest =>
            if unit < 0xdc00 ∧ 0xdc00 ≤ low ∧ low ≤ 0xdfff then
              (ofUtf16Units rest).map fun text =>
                Char.ofNat (0x10000 + (unit - 0xd800) * 1024 + (low - 0xdc00)) :: text
            else none

theorem ofUtf16Units_append (c : Char) (rest : List Nat) :
    ofUtf16Units (utf16Units c ++ rest) = (ofUtf16Units rest).map fun text => c :: text := by
  have hvalid : c.toNat < 0xd800 ∨ 0xdfff < c.toNat ∧ c.toNat < 0x110000 := c.valid
  unfold utf16Units
  split
  · next hsmall =>
      have hunit : c.toNat < 0xd800 ∨ 0xdfff < c.toNat := by omega
      rw [List.singleton_append, ofUtf16Units.eq_def]
      dsimp only
      rw [if_pos hunit, Char.ofNat_toNat]
  · next hlarge =>
      have hhigh : ¬ (0xd800 + (c.toNat - 0x10000) / 1024 % 1024 < 0xd800 ∨
          0xdfff < 0xd800 + (c.toNat - 0x10000) / 1024 % 1024) := by omega
      have hpair : 0xd800 + (c.toNat - 0x10000) / 1024 % 1024 < 0xdc00 ∧
          0xdc00 ≤ 0xdc00 + (c.toNat - 0x10000) % 1024 ∧
          0xdc00 + (c.toNat - 0x10000) % 1024 ≤ 0xdfff := by omega
      have hcode : 0x10000 + (0xd800 + (c.toNat - 0x10000) / 1024 % 1024 - 0xd800) * 1024 +
          (0xdc00 + (c.toNat - 0x10000) % 1024 - 0xdc00) = c.toNat := by omega
      rw [List.cons_append, List.singleton_append, ofUtf16Units.eq_def]
      dsimp only
      rw [if_neg hhigh, if_pos hpair, hcode, Char.ofNat_toNat]

theorem ofUtf16Units_flatMap (text : List Char) :
    ofUtf16Units (text.flatMap utf16Units) = some text := by
  induction text with
  | nil => rfl
  | cons c rest ih => rw [List.flatMap_cons, ofUtf16Units_append, ih, Option.map_some]

def hexValue (c : Char) : Option Nat :=
  if '0' ≤ c ∧ c ≤ '9' then some (c.toNat - 48)
  else if 'a' ≤ c ∧ c ≤ 'f' then some (c.toNat - 87)
  else if 'A' ≤ c ∧ c ≤ 'F' then some (c.toNat - 55)
  else none

def hex4Value (a b c d : Char) : Option Nat := do
  return (← hexValue a) * 4096 + (← hexValue b) * 256 + (← hexValue c) * 16 + (← hexValue d)

/-- What a backslash and one character stand for. -/
def escapedUnit (c : Char) : Option Nat :=
  if c = '"' ∨ c = '\\' ∨ c = '/' then some c.toNat
  else if c = 'b' then some 8
  else if c = 't' then some 9
  else if c = 'n' then some 10
  else if c = 'f' then some 12
  else if c = 'r' then some 13
  else none

/-- The code units up to the closing quote and what follows it. -/
def readUnits : List Char → Option (List Nat × List Char)
  | [] => none
  | c :: rest =>
      if c = '"' then some ([], rest)
      else if c = '\\' then
        match rest with
        | 'u' :: a :: b :: c :: d :: rest =>
            (hex4Value a b c d).bind fun unit =>
              (readUnits rest).map fun (units, after) => (unit :: units, after)
        | c :: rest =>
            (escapedUnit c).bind fun unit =>
              (readUnits rest).map fun (units, after) => (unit :: units, after)
        | [] => none
      else if c.toNat < 32 then none
      else (readUnits rest).map fun (units, after) => (utf16Units c ++ units, after)

/-- A string after its opening quote. -/
def readString (text : List Char) : Option (String × List Char) :=
  (readUnits text).bind fun (units, after) =>
    (ofUtf16Units units).map fun chars => (String.ofList chars, after)

theorem hexValue_digitChar {digit : Nat} (hdigit : digit < 16) :
    hexValue (Nat.digitChar digit) = some digit := by
  have hall : ∀ digit : Fin 16, hexValue (Nat.digitChar digit) = some digit.val := by decide
  exact hall ⟨digit, hdigit⟩

theorem readUnits_hex4 {code : Nat} (hcode : code < 0x10000) (rest : List Char) :
    readUnits ('\\' :: 'u' :: hex4 code ++ rest) =
      (readUnits rest).map fun (units, after) => (code :: units, after) := by
  have hvalue : hex4Value (Nat.digitChar (code / 4096 % 16)) (Nat.digitChar (code / 256 % 16))
      (Nat.digitChar (code / 16 % 16)) (Nat.digitChar (code % 16)) = some code := by
    have hsum : code / 4096 % 16 * 4096 + code / 256 % 16 * 256 + code / 16 % 16 * 16 +
        code % 16 = code := by omega
    unfold hex4Value
    rw [hexValue_digitChar (by omega), hexValue_digitChar (by omega),
      hexValue_digitChar (by omega), hexValue_digitChar (by omega)]
    exact congrArg some hsum
  have hread : readUnits ('\\' :: 'u' :: hex4 code ++ rest) =
      (hex4Value (Nat.digitChar (code / 4096 % 16)) (Nat.digitChar (code / 256 % 16))
        (Nat.digitChar (code / 16 % 16)) (Nat.digitChar (code % 16))).bind fun unit =>
          (readUnits rest).map fun (units, after) => (unit :: units, after) := by
    simp [hex4, readUnits]
  rw [hread, hvalue, Option.bind_some]

/-- An escaped character is read as its code units. -/
theorem readUnits_escapeChar (c : Char) (rest : List Char) :
    readUnits (escapeChar c ++ rest) =
      (readUnits rest).map fun (units, after) => (utf16Units c ++ units, after) := by
  have hvalid : c.toNat < 0xd800 ∨ 0xdfff < c.toNat ∧ c.toNat < 0x110000 := c.valid
  unfold escapeChar
  split_ifs with hquote hbackslash hnewline hreturn htab hfeed hback hprintable hsmall
  · subst hquote
    rfl
  · subst hbackslash
    rfl
  · subst hnewline
    rfl
  · subst hreturn
    rfl
  · subst htab
    rfl
  · obtain rfl : c = Char.ofNat 12 := by rw [← hfeed, Char.ofNat_toNat]
    rfl
  · obtain rfl : c = Char.ofNat 8 := by rw [← hback, Char.ofNat_toNat]
    rfl
  · have hcontrol : ¬ c.toNat < 32 := by
      have hrange : 32 ≤ c.toNat ∧ c.toNat ≤ 126 := of_decide_eq_true hprintable
      omega
    rw [List.singleton_append, readUnits.eq_def]
    dsimp only
    rw [if_neg hquote, if_neg hbackslash, if_neg hcontrol]
  · have hunits : utf16Units c = [c.toNat] := if_pos hsmall
    rw [hunits]
    exact readUnits_hex4 hsmall rest
  · have hunits : utf16Units c = [0xd800 + (c.toNat - 0x10000) / 1024 % 1024,
        0xdc00 + (c.toNat - 0x10000) % 1024] := if_neg hsmall
    rw [hunits, List.append_assoc, readUnits_hex4 (by omega), readUnits_hex4 (by omega),
      Option.map_map]
    rfl

theorem readUnits_dumps (text rest : List Char) :
    readUnits (text.flatMap escapeChar ++ '"' :: rest) =
      some (text.flatMap utf16Units, rest) := by
  induction text with
  | nil =>
      rw [List.flatMap_nil, List.nil_append, readUnits.eq_def]
      rfl
  | cons c text ih =>
      rw [List.flatMap_cons, List.append_assoc, readUnits_escapeChar, ih, Option.map_some,
        List.flatMap_cons]

/-- A string is read back, whatever follows it. -/
theorem readString_dumps (text : String) (rest : List Char) :
    readString (text.toList.flatMap escapeChar ++ '"' :: rest) = some (text, rest) := by
  rw [readString, readUnits_dumps, Option.bind_some]
  dsimp only
  rw [ofUtf16Units_flatMap, Option.map_some, String.ofList_toList]

theorem readUnits_length {text after : List Char} {units : List Nat}
    (hread : readUnits text = some (units, after)) : after.length < text.length := by
  have hmap (first : List Nat) {rest : List Char} {units : List Nat}
      (hread : ((readUnits rest).map fun (units, after) => (first ++ units, after)) =
        some (units, after)) : ∃ units, readUnits rest = some (units, after) := by
    obtain ⟨⟨inner, _⟩, hinner, heq⟩ := Option.map_eq_some_iff.mp hread
    obtain ⟨_, rfl⟩ := Prod.mk.inj heq
    exact ⟨inner, hinner⟩
  fun_induction readUnits text generalizing units with
  | case1 => cases hread
  | case2 =>
      obtain ⟨_, rfl⟩ := Prod.mk.inj (Option.some.inj hread)
      exact Nat.lt_succ_self _
  | case3 _ _ _ _ _ _ ih =>
      obtain ⟨unit, _, hrest⟩ := Option.bind_eq_some_iff.mp hread
      obtain ⟨_, hunits⟩ := hmap [unit] hrest
      have hlt := ih hunits
      simp only [List.length_cons]
      omega
  | case4 _ _ _ _ ih =>
      obtain ⟨unit, _, hrest⟩ := Option.bind_eq_some_iff.mp hread
      obtain ⟨_, hunits⟩ := hmap [unit] hrest
      have hlt := ih hunits
      simp only [List.length_cons]
      omega
  | case5 => cases hread
  | case6 => cases hread
  | case7 _ _ _ _ _ ih =>
      obtain ⟨_, hunits⟩ := hmap _ hread
      exact Nat.lt_succ_of_lt (ih hunits)

theorem readString_length {text after : List Char} {value : String}
    (hread : readString text = some (value, after)) : after.length < text.length := by
  obtain ⟨⟨units, rest⟩, hunits, hchars⟩ := Option.bind_eq_some_iff.mp hread
  obtain ⟨chars, _, heq⟩ := Option.map_eq_some_iff.mp hchars
  obtain ⟨_, rfl⟩ := Prod.mk.inj heq
  exact readUnits_length hunits

/-- What may be part of a number. -/
def isNumberChar (c : Char) : Bool :=
  c.isDigit || c = '-' || c = '+' || c = '.' || c = 'e' || c = 'E'

theorem isNumberChar_printable {c : Char} (hnumber : isNumberChar c = true) :
    isPrintable c = true := by
  simp only [isNumberChar, Bool.or_eq_true, decide_eq_true_eq] at hnumber
  rcases hnumber with ((((hdigit | rfl) | rfl) | rfl) | rfl) | rfl
  · have hrange : 48 ≤ c.toNat ∧ c.toNat ≤ 57 := Char.isDigit_iff_toNat.mp hdigit
    exact decide_eq_true (by omega)
  · rfl
  · rfl
  · rfl
  · rfl
  · rfl

/-- What follows a number's digits, of which there is one at least. -/
def skipDigits (text : List Char) : Option (List Char) :=
  if text.takeWhile Char.isDigit = [] then none else some (text.dropWhile Char.isDigit)

/-- What follows an integer without sign, which has no leading zeros. -/
def skipNat : List Char → Option (List Char)
  | [] => none
  | c :: rest => if c = '0' then some rest else skipDigits (c :: rest)

def skipInt : List Char → Option (List Char)
  | [] => none
  | c :: rest => if c = '-' then skipNat rest else skipNat (c :: rest)

/-- What follows a fraction if there is one. -/
def skipFraction : List Char → Option (List Char)
  | [] => some []
  | c :: rest => if c = '.' then skipDigits rest else some (c :: rest)

def skipSign : List Char → List Char
  | [] => []
  | c :: rest => if c = '+' ∨ c = '-' then rest else c :: rest

/-- What follows an exponent if there is one. -/
def skipExponent : List Char → Option (List Char)
  | [] => some []
  | c :: rest => if c = 'e' ∨ c = 'E' then skipDigits (skipSign rest) else some (c :: rest)

def isIntText (text : List Char) : Bool := skipInt text = some []

def isFloatText (text : List Char) : Bool :=
  !isIntText text && ((skipInt text).bind skipFraction).bind skipExponent = some []

def natValue (digits : List Char) : Nat := Nat.ofDigitChars 10 digits 0

def intValue : List Char → Int
  | [] => 0
  | c :: rest => if c = '-' then -(natValue rest : Int) else natValue (c :: rest)

theorem takeWhile_printable (text : List Char) :
    ∀ c ∈ text.takeWhile isNumberChar, isPrintable c = true :=
  fun _ hmem => isNumberChar_printable (List.mem_takeWhile_imp hmem)

/-- The longest text of characters of numbers, if it is a number. -/
def readNumber (text : List Char) : Option (JsonValue × List Char) :=
  let token := text.takeWhile isNumberChar
  let after := text.dropWhile isNumberChar
  if isIntText token then some (.int (intValue token), after)
  else if isFloatText token then some (.float ⟨token, takeWhile_printable text⟩, after)
  else none

/-- A number ends before what follows it. -/
def NumberEnds (rest : List Char) : Prop := ∀ c ∈ rest.head?, isNumberChar c = false

theorem takeWhile_number {token rest : List Char} (htoken : ∀ c ∈ token, isNumberChar c = true)
    (hends : NumberEnds rest) : (token ++ rest).takeWhile isNumberChar = token := by
  rw [List.takeWhile_append_of_pos htoken]
  cases rest with
  | nil => rw [List.takeWhile_nil, List.append_nil]
  | cons c rest =>
      rw [List.takeWhile_cons_of_neg (by simp [hends c rfl]), List.append_nil]

theorem dropWhile_number {token rest : List Char} (htoken : ∀ c ∈ token, isNumberChar c = true)
    (hends : NumberEnds rest) : (token ++ rest).dropWhile isNumberChar = rest := by
  rw [List.dropWhile_append_of_pos htoken]
  cases rest with
  | nil => rfl
  | cons c rest => exact List.dropWhile_cons_of_neg (by simp [hends c rfl])

theorem toDigits_head {n : Nat} (hpos : 0 < n) :
    ∃ c rest, Nat.toDigits 10 n = c :: rest ∧ c ≠ '0' := by
  induction n using Nat.strong_induction_on with
  | _ n ih =>
      by_cases hsmall : n < 10
      · have hdigit : ∀ digit : Fin 10, digit.val ≠ 0 → Nat.digitChar digit ≠ '0' := by decide
        exact ⟨_, _, Nat.toDigits_of_lt_base hsmall,
          hdigit ⟨n, hsmall⟩ (Nat.ne_of_gt hpos)⟩
      · obtain ⟨c, rest, hdigits, hc⟩ := ih (n / 10) (by omega) (by omega)
        refine ⟨c, rest ++ [Nat.digitChar (n % 10)], ?_, hc⟩
        rw [Nat.toDigits_of_base_le (by decide) (by omega), hdigits, List.cons_append]

theorem skipDigits_toDigits (n : Nat) : skipDigits (Nat.toDigits 10 n) = some [] := by
  have hdigits : ∀ c ∈ Nat.toDigits 10 n, c.isDigit = true := fun c hmem =>
    Nat.isDigit_of_mem_toDigits (by decide) (by decide) hmem
  have htake : (Nat.toDigits 10 n).takeWhile Char.isDigit = Nat.toDigits 10 n :=
    List.takeWhile_eq_self_iff.mpr hdigits
  have hdrop : (Nat.toDigits 10 n).dropWhile Char.isDigit = [] :=
    List.dropWhile_eq_nil_iff.mpr hdigits
  rw [skipDigits, htake, if_neg Nat.toDigits_ne_nil, hdrop]

theorem skipNat_toDigits (n : Nat) : skipNat (Nat.toDigits 10 n) = some [] := by
  rcases Nat.eq_zero_or_pos n with rfl | hpos
  · rfl
  · obtain ⟨c, rest, hdigits, hc⟩ := toDigits_head hpos
    have hskip := skipDigits_toDigits n
    rw [hdigits] at hskip ⊢
    rw [skipNat, if_neg hc, hskip]

theorem toDigits_cons (n : Nat) :
    ∃ c rest, Nat.toDigits 10 n = c :: rest ∧ c.isDigit = true := by
  cases hdigits : Nat.toDigits 10 n with
  | nil => exact absurd hdigits Nat.toDigits_ne_nil
  | cons c rest =>
      refine ⟨c, rest, rfl, ?_⟩
      have hmem : c ∈ Nat.toDigits 10 n := by rw [hdigits]; exact List.mem_cons_self
      exact Nat.isDigit_of_mem_toDigits (by decide) (by decide) hmem

theorem natText (n : Nat) : (toString n).toList = Nat.toDigits 10 n := by
  rw [Nat.toString_eq_repr, Nat.toList_repr]

theorem negText (n : Nat) :
    (toString (Int.negSucc n)).toList = '-' :: Nat.toDigits 10 (n + 1) := by
  have hrepr : toString (Int.negSucc n) = "-" ++ toString (n + 1) := rfl
  rw [hrepr, String.toList_append, natText]
  rfl

/-- The text of an integer is one, of the same value. -/
theorem isIntText_toString (n : Int) :
    isIntText (toString n).toList = true ∧ intValue (toString n).toList = n := by
  cases n with
  | ofNat n =>
      obtain ⟨c, rest, hdigits, hdigit⟩ := toDigits_cons n
      have hsign : c ≠ '-' := by
        rintro rfl
        cases hdigit
      have hskip := skipNat_toDigits n
      have hvalue : natValue (Nat.toDigits 10 n) = n := Nat.ofDigitChars_ten_toDigits
      have htext : (toString (Int.ofNat n)).toList = c :: rest := (natText n).trans hdigits
      rw [hdigits] at hskip hvalue
      rw [htext, isIntText, skipInt, if_neg hsign, hskip, intValue, if_neg hsign, hvalue]
      exact ⟨rfl, rfl⟩
  | negSucc n =>
      have hvalue : natValue (Nat.toDigits 10 (n + 1)) = n + 1 := Nat.ofDigitChars_ten_toDigits
      rw [negText, isIntText, skipInt, if_pos rfl, skipNat_toDigits, intValue, if_pos rfl, hvalue]
      exact ⟨rfl, rfl⟩

theorem toString_numberChar (n : Int) : ∀ c ∈ (toString n).toList, isNumberChar c = true := by
  have hnat (n : Nat) : ∀ c ∈ Nat.toDigits 10 n, isNumberChar c = true := by
    intro c hmem
    have hdigit : c.isDigit = true :=
      Nat.isDigit_of_mem_toDigits (by decide) (by decide) hmem
    simp [isNumberChar, hdigit]
  cases n with
  | ofNat n =>
      have htext : (toString (Int.ofNat n)).toList = Nat.toDigits 10 n := natText n
      rw [htext]
      exact hnat n
  | negSucc n =>
      rw [negText]
      intro c hmem
      rcases List.mem_cons.mp hmem with rfl | hmem
      · rfl
      · exact hnat (n + 1) c hmem

theorem readNumber_int (n : Int) {rest : List Char} (hends : NumberEnds rest) :
    readNumber ((toString n).toList ++ rest) = some (.int n, rest) := by
  have hchars := toString_numberChar n
  obtain ⟨hint, hvalue⟩ := isIntText_toString n
  simp only [readNumber, takeWhile_number hchars hends, dropWhile_number hchars hends, hint,
    hvalue, if_true]

/-- The text of the float is a number. -/
def PyFloat.IsNumber (value : PyFloat) : Prop :=
  (∀ c ∈ value.repr, isNumberChar c = true) ∧ isFloatText value.repr = true

theorem readNumber_float {value : PyFloat} (hnumber : value.IsNumber) {rest : List Char}
    (hends : NumberEnds rest) : readNumber (value.repr ++ rest) = some (.float value, rest) := by
  obtain ⟨hchars, hfloat⟩ := hnumber
  have hint : isIntText value.repr = false := by
    simp only [isFloatText, Bool.and_eq_true, Bool.not_eq_true'] at hfloat
    exact hfloat.1
  simp only [readNumber, takeWhile_number hchars hends, dropWhile_number hchars hends, hint,
    hfloat, if_true, Bool.false_eq_true, if_false]

theorem readNumber_length {text after : List Char} {value : JsonValue}
    (hread : readNumber text = some (value, after)) : after.length < text.length := by
  have hlength : (text.takeWhile isNumberChar).length +
      (text.dropWhile isNumberChar).length = text.length := by
    rw [← List.length_append, List.takeWhile_append_dropWhile]
  unfold readNumber at hread
  dsimp only at hread
  cases htoken : text.takeWhile isNumberChar with
  | nil =>
      simp only [htoken] at hread
      cases hread
  | cons c rest =>
      rw [htoken, List.length_cons] at hlength
      split_ifs at hread
      · obtain ⟨_, rfl⟩ := Prod.mk.inj (Option.some.inj hread)
        omega
      · obtain ⟨_, rfl⟩ := Prod.mk.inj (Option.some.inj hread)
        omega

end PiSSM.Lib
