import PiSSM.Lib.PyRepr

/-!
YAML values as a safe loader constructs them for Python, with the Python operations
that code which takes them untyped performs: the membership test of a string, the
type name, and `str` and `repr`, which fail on a long integer and on a value nested too
deep. Only scalars are hashable, so the keys of a mapping and the members of a set are
scalars.
-/

namespace PiSSM.Lib

/-- A float and a date are named by their texts. -/
inductive YamlScalar where
  | null
  | bool (value : Bool)
  | int (value : Int)
  | float (repr : String)
  | str (value : String)
  | bytes (value : List UInt8)
  | date (text repr : String)
  | datetime (text repr : String)
  deriving DecidableEq

/-- The keys of a mapping are distinct. An ordered mapping is a list of pairs, and the
members of a set are listed in the order of its iteration. -/
inductive YamlValue where
  | scalar (value : YamlScalar)
  | seq (items : List YamlValue)
  | pairs (entries : List (YamlValue × YamlValue))
  | map (entries : List (YamlScalar × YamlValue))
  | set (members : List YamlScalar)

/-- What the text of a value depends on besides the value: which characters beyond ASCII
stand for themselves, how many digits an integer may have that is written out (any number
when this is 0), and how many calls of `repr` may be open at a time. -/
structure Rendering where
  printable : Nat → Bool
  maxDigits : Nat
  maxDepth : Nat

inductive RenderError where
  | tooManyDigits
  | tooDeep
  deriving DecidableEq

namespace YamlScalar

def repr (rendering : Rendering) : YamlScalar → Except RenderError String
  | .null => .ok "None"
  | .bool true => .ok "True"
  | .bool false => .ok "False"
  | .int value =>
      if 0 < rendering.maxDigits ∧ rendering.maxDigits < (toString value.natAbs).length then
        .error .tooManyDigits
      else
        .ok (toString value)
  | .float text => .ok text
  | .str value => .ok (quoted rendering.printable (value.toList.map Char.toNat))
  | .bytes value => .ok ("b" ++ quoted (fun _ => false) (value.map UInt8.toNat))
  | .date _ text => .ok text
  | .datetime _ text => .ok text

/-- `str(value)`. -/
def text (rendering : Rendering) : YamlScalar → Except RenderError String
  | .str value => .ok value
  | .date text _ => .ok text
  | .datetime text _ => .ok text
  | value => value.repr rendering

def typeName : YamlScalar → String
  | .null => "NoneType"
  | .bool _ => "bool"
  | .int _ => "int"
  | .float _ => "float"
  | .str _ => "str"
  | .bytes _ => "bytes"
  | .date _ _ => "datetime.date"
  | .datetime _ _ => "datetime.datetime"

end YamlScalar

namespace YamlValue

@[match_pattern] abbrev null : YamlValue := .scalar .null
@[match_pattern] abbrev bool (value : Bool) : YamlValue := .scalar (.bool value)
@[match_pattern] abbrev int (value : Int) : YamlValue := .scalar (.int value)
@[match_pattern] abbrev str (value : String) : YamlValue := .scalar (.str value)

/-- `depth` calls can still be opened. A pair is a tuple with a call of its own, and the
members of a set are rendered as a list. -/
def repr (rendering : Rendering) : Nat → YamlValue → Except RenderError String
  | 0, _ => .error .tooDeep
  | _ + 1, .scalar value => value.repr rendering
  | depth + 1, .seq items => do
      return "[" ++ ", ".intercalate (← items.mapM (repr rendering depth)) ++ "]"
  | depth + 1, .pairs entries => do
      let texts ← entries.mapM fun (key, value) =>
        match depth with
        | 0 => .error .tooDeep
        | inside + 1 => do
            return "(" ++ (← repr rendering inside key) ++ ", " ++
              (← repr rendering inside value) ++ ")"
      return "[" ++ ", ".intercalate texts ++ "]"
  | depth + 1, .map entries => do
      let texts ← entries.mapM fun (key, value) => do
        return (← repr rendering depth (.scalar key)) ++ ": " ++ (← repr rendering depth value)
      return "\x7b" ++ ", ".intercalate texts ++ "\x7d"
  | _ + 1, .set [] => .ok "set()"
  | depth + 1, .set members =>
      match depth with
      | 0 => .error .tooDeep
      | inside + 1 => do
          let texts ← members.mapM fun member => repr rendering inside (.scalar member)
          return "\x7b" ++ ", ".intercalate texts ++ "\x7d"

/-- `str(value)`; a container renders its items by `repr`. -/
def text (rendering : Rendering) : YamlValue → Except RenderError String
  | .scalar value => value.text rendering
  | value => value.repr rendering rendering.maxDepth

def typeName : YamlValue → String
  | .scalar value => value.typeName
  | .seq _ => "list"
  | .pairs _ => "list"
  | .map _ => "dict"
  | .set _ => "set"

/-- Whether the value equals this string. -/
def isStr (text : String) : YamlValue → Bool
  | .scalar value => value = .str text
  | _ => false

/-- The value of a key of a mapping. -/
def lookup (key : String) (entries : List (YamlScalar × YamlValue)) : Option YamlValue :=
  entries.lookup (.str key)

/-- `member in value`, or the text of the `TypeError` it raises. -/
def contains (member : String) : YamlValue → Except String Bool
  | .scalar (.str text) => .ok (decide (member.toList <:+: text.toList))
  | .scalar (.bytes _) => .error "a bytes-like object is required, not 'str'"
  | .scalar value => .error s!"argument of type '{value.typeName}' is not iterable"
  | .seq items => .ok (items.any (isStr member))
  | .pairs _ => .ok false
  | .map entries => .ok (lookup member entries).isSome
  | .set members => .ok (decide (.str member ∈ members))

end YamlValue

end PiSSM.Lib
