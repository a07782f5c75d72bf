import PiSSM.Lib.Dict
import PiSSM.Lib.JsonTokens

/-!
A reader of JSON text. Of several fields of one name it keeps the last. What is well-formed
it reads back from the text of `dumps`.
-/

namespace PiSSM.Lib

def isBlank (c : Char) : Bool := c = ' ' || c = '\t' || c = '\n' || c = '\r'

def skipBlanks (text : List Char) : List Char := text.dropWhile isBlank

/-- The object of some fields in the order in which they are written. -/
def objectOf (fields : List (String × JsonValue)) : JsonValue :=
  .object (fields.foldl (fun dict field => dict.set field.1 field.2) Dict.empty).items

def readWord (word : String) (value : JsonValue) (text : List Char) :
    Option (JsonValue × List Char) :=
  if word.toList <+: text then some (value, text.drop word.length) else none

section Sequences

variable {α : Type} (close : Char) (item : α) (read : List Char → Option (List α × List Char))

/-- What stands between brackets, if anything. -/
def readUnlessClosed (text : List Char) : Option (List α × List Char) :=
  match skipBlanks text with
  | [] => none
  | c :: after => if c = close then some ([], after) else read (c :: after)

/-- What follows an item: the closing bracket or more items. -/
def readRest (text : List Char) : Option (List α × List Char) :=
  match skipBlanks text with
  | [] => none
  | c :: after =>
      if c = close then some ([item], after)
      else if c = ',' then
        (read (skipBlanks after)).map fun (items, after) => (item :: items, after)
      else none

end Sequences

mutual

def readValue : Nat → List Char → Option (JsonValue × List Char)
  | 0, _ => none
  | _ + 1, [] => none
  | fuel + 1, c :: rest =>
      if c = '"' then (readString rest).map fun (text, after) => (.str text, after)
      else if c = '[' then
        (readUnlessClosed ']' (readItems fuel) rest).map fun (items, after) =>
          (.array items, after)
      else if c = '{' then
        (readUnlessClosed '}' (readFields fuel) rest).map fun (fields, after) =>
          (objectOf fields, after)
      else if c = 'n' then readWord "null" .null (c :: rest)
      else if c = 't' then readWord "true" (.bool true) (c :: rest)
      else if c = 'f' then readWord "false" (.bool false) (c :: rest)
      else readNumber (c :: rest)

/-- The items of an array from the first one on, up to its end. -/
def readItems : Nat → List Char → Option (List JsonValue × List Char)
  | 0, _ => none
  | fuel + 1, text =>
      (readValue fuel text).bind fun (item, rest) => readRest ']' item (readItems fuel) rest

/-- The fields of an object from the first one on, up to its end. -/
def readFields : Nat → List Char → Option (List (String × JsonValue) × List Char)
  | 0, _ => none
  | fuel + 1, text =>
      (readField fuel text).bind fun (field, rest) => readRest '}' field (readFields fuel) rest

def readField : Nat → List Char → Option ((String × JsonValue) × List Char)
  | 0, _ => none
  | _ + 1, [] => none
  | fuel + 1, c :: text =>
      if c = '"' then
        (readString text).bind fun (name, rest) =>
          match skipBlanks rest with
          | [] => none
          | c :: rest =>
              if c = ':' then
                (readValue fuel (skipBlanks rest)).map fun (value, after) =>
                  ((name, value), after)
              else none
      else none

end

/-- A whole text, with blanks around its value. -/
def JsonValue.loads (text : List Char) : Option JsonValue :=
  (readValue (2 * text.length) (skipBlanks text)).bind fun (value, rest) =>
    if skipBlanks rest = [] then some value else none

mutual

/-- The names of every object are distinct, and the texts of floats are numbers. -/
def JsonValue.WellFormed : JsonValue → Prop
  | .float value => value.IsNumber
  | .array items => WellFormedItems items
  | .object fields => (fields.map Prod.fst).Nodup ∧ WellFormedFields fields
  | _ => True

def JsonValue.WellFormedItems : List JsonValue → Prop
  | [] => True
  | item :: rest => item.WellFormed ∧ WellFormedItems rest

def JsonValue.WellFormedFields : List (String × JsonValue) → Prop
  | [] => True
  | (_, value) :: rest => value.WellFormed ∧ WellFormedFields rest

end

/-- Of distinct names all are kept. -/
theorem objectOf_of_nodup {fields : List (String × JsonValue)}
    (hnodup : (fields.map Prod.fst).Nodup) : objectOf fields = .object fields := by
  have hset (name : String) (value : JsonValue) (items : List (String × JsonValue))
      (hmem : name ∉ items.map Prod.fst) : setItem name value items = items ++ [(name, value)] := by
    induction items with
    | nil => rfl
    | cons item rest ih =>
        simp only [List.map_cons, List.mem_cons, not_or] at hmem
        rw [setItem, if_neg (Ne.symm hmem.1), ih hmem.2, List.cons_append]
  have hfold (fields : List (String × JsonValue)) (dict : Dict String JsonValue)
      (hnodup : ((dict.items ++ fields).map Prod.fst).Nodup) :
      (fields.foldl (fun dict field => dict.set field.1 field.2) dict).items =
        dict.items ++ fields := by
    induction fields generalizing dict with
    | nil => rw [List.foldl_nil, List.append_nil]
    | cons field rest ih =>
        have hmem : field.1 ∉ dict.items.map Prod.fst := by
          rw [List.map_append, List.map_cons] at hnodup
          exact fun hmem => (List.nodup_append.mp hnodup).2.2 _ hmem _ List.mem_cons_self rfl
        have hitems : (dict.set field.1 field.2).items = dict.items ++ [field] :=
          hset _ _ _ hmem
        rw [List.foldl_cons, ih _ (by rw [hitems]; simpa using hnodup), hitems]
        simp
  rw [objectOf, hfold fields .empty hnodup]
  rfl

theorem skipBlanks_length (text : List Char) : (skipBlanks text).length ≤ text.length :=
  (List.dropWhile_sublist isBlank).length_le

theorem readWord_length {word : String} {value read : JsonValue} {text after : List Char}
    (hword : 0 < word.length) (hread : readWord word value text = some (read, after)) :
    after.length < text.length := by
  unfold readWord at hread
  split at hread
  · next hprefix =>
      obtain ⟨_, rfl⟩ := Prod.mk.inj (Option.some.inj hread)
      have hlength : word.length ≤ text.length := String.length_toList ▸ hprefix.length_le
      rw [List.length_drop]
      omega
  · cases hread

/-- What a reader with fuel has taken off a text takes up some of it, and is taken again with
all the fuel that may be needed. -/
structure Takes {α : Type} (read : Nat → List Char → Option (α × List Char)) (need : Nat)
    (text : List Char) (value : α) (after : List Char) : Prop where
  shorter : after.length < text.length
  again {fuel : Nat} (henough : need ≤ fuel) : read fuel text = some (value, after)

section Sequences

variable {α : Type} {close : Char} {item : α} {items : List α}
  {read : Nat → List Char → Option (List α × List Char)} {fuel : Nat}
  {text rest after : List Char}

theorem readUnlessClosed_takes
    (hread : readUnlessClosed close (read fuel) rest = some (items, after))
    (hitems : ∀ {text items}, read fuel text = some (items, after) →
      Takes read (2 * text.length + 1) text items after) :
    after.length < rest.length ∧
      ∀ {fuel}, 2 * rest.length < fuel →
        readUnlessClosed close (read fuel) rest = some (items, after) := by
  have hblanks := skipBlanks_length rest
  unfold readUnlessClosed at hread ⊢
  cases hskip : skipBlanks rest with
  | nil =>
      rw [hskip] at hread
      cases hread
  | cons c tail =>
      rw [hskip] at hread hblanks
      dsimp only at hread ⊢
      split_ifs at hread ⊢
      · obtain ⟨rfl, rfl⟩ := Prod.mk.inj (Option.some.inj hread)
        rw [List.length_cons] at hblanks
        exact ⟨by omega, fun _ => rfl⟩
      · obtain ⟨hshort, hagain⟩ := hitems hread
        exact ⟨by omega, fun hfuel => hagain (by omega)⟩

theorem readRest_takes (hread : readRest close item (read fuel) rest = some (items, after))
    (hrest : rest.length < text.length)
    (hitems : ∀ {text items}, read fuel text = some (items, after) →
      Takes read (2 * text.length + 1) text items after) :
    after.length < text.length ∧
      ∀ {fuel}, 2 * text.length ≤ fuel →
        readRest close item (read fuel) rest = some (items, after) := by
  have hblanks := skipBlanks_length rest
  unfold readRest at hread ⊢
  cases hskip : skipBlanks rest with
  | nil =>
      rw [hskip] at hread
      cases hread
  | cons c tail =>
      rw [hskip] at hread
      rw [hskip, List.length_cons] at hblanks
      have htail := skipBlanks_length tail
      dsimp only at hread ⊢
      split_ifs at hread ⊢
      · obtain ⟨rfl, rfl⟩ := Prod.mk.inj (Option.some.inj hread)
        exact ⟨by omega, fun _ => rfl⟩
      · obtain ⟨⟨more, _⟩, hmore, heq⟩ := Option.map_eq_some_iff.mp hread
        obtain ⟨rfl, rfl⟩ := Prod.mk.inj heq
        obtain ⟨hshort, hagain⟩ := hitems hmore
        refine ⟨by omega, fun hfuel => ?_⟩
        rw [hagain (by omega), Option.map_some]

end Sequences

/-- What the readers accept with some fuel. -/
structure ReadsWell (fuel : Nat) : Prop where
  value {text after : List Char} {value : JsonValue}
    (hread : readValue fuel text = some (value, after)) :
    Takes readValue (2 * text.length) text value after
  items {text after : List Char} {items : List JsonValue}
    (hread : readItems fuel text = some (items, after)) :
    Takes readItems (2 * text.length + 1) text items after
  fields {text after : List Char} {fields : List (String × JsonValue)}
    (hread : readFields fuel text = some (fields, after)) :
    Takes readFields (2 * text.length + 1) text fields after
  field {text after : List Char} {field : String × JsonValue}
    (hread : readField fuel text = some (field, after)) :
    Takes readField (2 * text.length) text field after

/-- A reader that takes up a character needs some fuel, and less for what follows. -/
theorem Takes.cons {α : Type} {read : Nat → List Char → Option (α × List Char)} {c : Char}
    {rest after : List Char} {value : α} (hshort : after.length ≤ rest.length)
    (hagain : ∀ {fuel}, 2 * rest.length < fuel →
      read (fuel + 1) (c :: rest) = some (value, after)) :
    Takes read (2 * (c :: rest).length) (c :: rest) value after := by
  refine ⟨Nat.lt_succ_of_le hshort, fun {fuel} henough => ?_⟩
  rw [List.length_cons] at henough
  obtain ⟨fuel, rfl⟩ : ∃ n, fuel = n + 1 := ⟨fuel - 1, by omega⟩
  exact hagain (by omega)

namespace ReadsWell

variable {fuel : Nat} {text after : List Char}

theorem value_succ (hwell : ReadsWell fuel) {value : JsonValue}
    (hread : readValue (fuel + 1) text = some (value, after)) :
    Takes readValue (2 * text.length) text value after := by
  cases text with
  | nil => cases hread
  | cons c rest =>
      have hcons := @Takes.cons _ readValue c rest after value
      rw [readValue] at hread
      simp only [readValue] at hcons
      split_ifs at hread hcons with hquote hbracket hbrace hnull htrue hfalse
      · obtain ⟨⟨string, _⟩, hstring, heq⟩ := Option.map_eq_some_iff.mp hread
        obtain ⟨rfl, rfl⟩ := Prod.mk.inj heq
        exact hcons (Nat.le_of_lt (readString_length hstring)) fun _ => hread
      · obtain ⟨⟨items, _⟩, hitems, heq⟩ := Option.map_eq_some_iff.mp hread
        obtain ⟨rfl, rfl⟩ := Prod.mk.inj heq
        obtain ⟨hshort, hagain⟩ := readUnlessClosed_takes hitems hwell.items
        exact hcons (Nat.le_of_lt hshort) fun hfuel => by rw [hagain hfuel, Option.map_some]
      · obtain ⟨⟨fields, _⟩, hfields, heq⟩ := Option.map_eq_some_iff.mp hread
        obtain ⟨rfl, rfl⟩ := Prod.mk.inj heq
        obtain ⟨hshort, hagain⟩ := readUnlessClosed_takes hfields hwell.fields
        exact hcons (Nat.le_of_lt hshort) fun hfuel => by rw [hagain hfuel, Option.map_some]
      · have hshort := readWord_length (by decide) hread
        exact hcons (Nat.le_of_lt_succ hshort) fun _ => hread
      · have hshort := readWord_length (by decide) hread
        exact hcons (Nat.le_of_lt_succ hshort) fun _ => hread
      · have hshort := readWord_length (by decide) hread
        exact hcons (Nat.le_of_lt_succ hshort) fun _ => hread
      · exact hcons (Nat.le_of_lt_succ (readNumber_length hread)) fun _ => hread

theorem items_succ (hwell : ReadsWell fuel) {items : List JsonValue}
    (hread : readItems (fuel + 1) text = some (items, after)) :
    Takes readItems (2 * text.length + 1) text items after := by
  rw [readItems] at hread
  obtain ⟨⟨item, rest⟩, hitem, hrest⟩ := Option.bind_eq_some_iff.mp hread
  obtain ⟨hshort, hagainItem⟩ := hwell.value hitem
  obtain ⟨hshorter, hagain⟩ := readRest_takes hrest hshort hwell.items
  refine ⟨hshorter, fun {fuel} henough => ?_⟩
  obtain ⟨fuel, rfl⟩ : ∃ n, fuel = n + 1 := ⟨fuel - 1, by omega⟩
  rw [readItems, hagainItem (by omega), Option.bind_some]
  exact hagain (by omega)

theorem fields_succ (hwell : ReadsWell fuel) {fields : List (String × JsonValue)}
    (hread : readFields (fuel + 1) text = some (fields, after)) :
    Takes readFields (2 * text.length + 1) text fields after := by
  rw [readFields] at hread
  obtain ⟨⟨field, rest⟩, hfield, hrest⟩ := Option.bind_eq_some_iff.mp hread
  obtain ⟨hshort, hagainField⟩ := hwell.field hfield
  obtain ⟨hshorter, hagain⟩ := readRest_takes hrest hshort hwell.fields
  refine ⟨hshorter, fun {fuel} henough => ?_⟩
  obtain ⟨fuel, rfl⟩ : ∃ n, fuel = n + 1 := ⟨fuel - 1, by omega⟩
  rw [readFields, hagainField (by omega), Option.bind_some]
  exact hagain (by omega)

theorem field_succ (hwell : ReadsWell fuel) {field : String × JsonValue}
    (hread : readField (fuel + 1) text = some (field, after)) :
    Takes readField (2 * text.length) text field after := by
  cases text with
  | nil => cases hread
  | cons c rest =>
      rw [readField] at hread
      split_ifs at hread with hquote
      obtain ⟨⟨name, tail⟩, hname, hvalue⟩ := Option.bind_eq_some_iff.mp hread
      have hstring := readString_length hname
      have hblanks := skipBlanks_length tail
      dsimp only at hvalue
      cases hskip : skipBlanks tail with
      | nil =>
          rw [hskip] at hvalue
          cases hvalue
      | cons colon body =>
          rw [hskip] at hvalue hblanks
          dsimp only at hvalue
          split_ifs at hvalue with hcolon
          have hbody := skipBlanks_length body
          simp only [Option.map_eq_some_iff, Prod.exists, Prod.mk.injEq] at hvalue
          obtain ⟨value, _, hinner, rfl, rfl⟩ := hvalue
          obtain ⟨hshort, hagain⟩ := hwell.value hinner
          rw [List.length_cons] at hblanks
          refine .cons (by omega) fun hfuel => ?_
          rw [readField, if_pos hquote, hname, Option.bind_some]
          dsimp only
          rw [hskip]
          dsimp only
          rw [if_pos hcolon, hagain (by omega), Option.map_some]

end ReadsWell

theorem readsWell (fuel : Nat) : ReadsWell fuel := by
  induction fuel with
  | zero =>
      refine ⟨fun hread => ?_, fun hread => ?_, fun hread => ?_, fun hread => ?_⟩
      · cases hread
      · cases hread
      · cases hread
      · cases hread
  | succ fuel ih => exact ⟨ih.value_succ, ih.items_succ, ih.fields_succ, ih.field_succ⟩

/-- A text is accepted if its value is read with any fuel. -/
theorem JsonValue.loads_iff {text : List Char} {value : JsonValue} :
    loads text = some value ↔ ∃ fuel after,
      readValue fuel (skipBlanks text) = some (value, after) ∧ skipBlanks after = [] := by
  constructor
  · intro hloads
    obtain ⟨⟨read, after⟩, hread, hafter⟩ := Option.bind_eq_some_iff.mp hloads
    dsimp only at hafter
    split at hafter
    · next hend =>
        obtain rfl := Option.some.inj hafter
        exact ⟨_, after, hread, hend⟩
    · cases hafter
  · rintro ⟨fuel, after, hread, hend⟩
    have hblanks := skipBlanks_length text
    have htakes := (readsWell fuel).value hread
    rw [loads, htakes.again (by omega), Option.bind_some]
    exact if_pos hend

theorem numberEnds_cons {c : Char} (hc : isNumberChar c = false) (rest : List Char) :
    NumberEnds (c :: rest) := by
  intro other hother
  obtain rfl := Option.some.inj hother
  exact hc

theorem numberEnds_comma (rest : List Char) : NumberEnds (", ".toList ++ rest) :=
  numberEnds_cons rfl _

theorem skipBlanks_cons {c : Char} (hc : isBlank c = false) (rest : List Char) :
    skipBlanks (c :: rest) = c :: rest :=
  List.dropWhile_cons_of_neg (by simp [hc])

theorem ne_of_number {c other : Char} (hc : isNumberChar c = true)
    (hother : isNumberChar other = false) : c ≠ other := by
  rintro rfl
  rw [hc] at hother
  cases hother

/-- How the text of a value begins. -/
def BeginsValue (text : List Char) : Prop :=
  ∃ c rest, text = c :: rest ∧ isBlank c = false ∧ c ≠ ']'

theorem beginsValue_number {text : List Char} (hne : text ≠ [])
    (hnumber : ∀ c ∈ text, isNumberChar c = true) : BeginsValue text := by
  obtain ⟨c, rest, rfl⟩ := List.exists_cons_of_ne_nil hne
  have hc := hnumber c List.mem_cons_self
  refine ⟨c, rest, rfl, ?_, ne_of_number hc (by decide)⟩
  simp [isBlank, ne_of_number hc (by decide : isNumberChar ' ' = false),
    ne_of_number hc (by decide : isNumberChar '\t' = false),
    ne_of_number hc (by decide : isNumberChar '\n' = false),
    ne_of_number hc (by decide : isNumberChar '\r' = false)]

theorem toString_ne_nil (n : Int) : (toString n).toList ≠ [] := by
  intro hnil
  have hint := (isIntText_toString n).1
  rw [hnil] at hint
  cases hint

theorem PyFloat.IsNumber.ne_nil {value : PyFloat} (hnumber : value.IsNumber) :
    value.repr ≠ [] := by
  intro hnil
  have hfloat := hnumber.2
  rw [hnil] at hfloat
  cases hfloat

theorem JsonValue.dumps_begins {value : JsonValue} (hwell : value.WellFormed) :
    BeginsValue value.dumps := by
  cases value with
  | null =>
      rw [dumps]
      exact ⟨_, _, rfl, by decide, by decide⟩
  | bool value =>
      cases value with
      | false =>
          rw [dumps]
          exact ⟨_, _, rfl, by decide, by decide⟩
      | true =>
          rw [dumps]
          exact ⟨_, _, rfl, by decide, by decide⟩
  | int n =>
      rw [dumps]
      exact beginsValue_number (toString_ne_nil n) (toString_numberChar n)
  | float value =>
      have hnumber : value.IsNumber := hwell
      rw [dumps]
      exact beginsValue_number hnumber.ne_nil hnumber.1
  | str text =>
      rw [dumps]
      exact ⟨_, _, rfl, by decide, by decide⟩
  | array items =>
      rw [dumps]
      exact ⟨_, _, rfl, by decide, by decide⟩
  | object fields =>
      rw [dumps]
      exact ⟨_, _, rfl, by decide, by decide⟩

/-- A number is read as one. -/
theorem readValue_number {text rest : List Char} (hne : text ≠ [])
    (hnumber : ∀ c ∈ text, isNumberChar c = true) (fuel : Nat) :
    readValue (fuel + 1) (text ++ rest) = readNumber (text ++ rest) := by
  obtain ⟨c, tail, rfl⟩ := List.exists_cons_of_ne_nil hne
  have hc := hnumber c List.mem_cons_self
  rw [List.cons_append, readValue, if_neg (ne_of_number hc (by decide)),
    if_neg (ne_of_number hc (by decide)), if_neg (ne_of_number hc (by decide)),
    if_neg (ne_of_number hc (by decide)), if_neg (ne_of_number hc (by decide)),
    if_neg (ne_of_number hc (by decide))]

section Sequences

variable {α : Type} {close : Char} {item : α} {items : List α}
  {read : List Char → Option (List α × List Char)} {text rest after : List Char}

theorem readUnlessClosed_closed (hclose : isBlank close = false) :
    readUnlessClosed close read (close :: rest) = some ([], rest) := by
  rw [readUnlessClosed, skipBlanks_cons hclose]
  exact if_pos rfl

theorem readUnlessClosed_open {c : Char} (hc : isBlank c = false) (hne : c ≠ close) :
    readUnlessClosed close read (c :: rest) = read (c :: rest) := by
  rw [readUnlessClosed, skipBlanks_cons hc]
  exact if_neg hne

theorem readRest_closed (hclose : isBlank close = false) :
    readRest close item read (close :: rest) = some ([item], rest) := by
  rw [readRest, skipBlanks_cons hclose]
  exact if_pos rfl

theorem readRest_comma {c : Char} (hclose : ',' ≠ close) (hc : isBlank c = false)
    (hread : read (c :: rest) = some (items, after)) :
    readRest close item read (", ".toList ++ c :: rest) = some (item :: items, after) := by
  have hcomma : skipBlanks (", ".toList ++ c :: rest) = ',' :: ' ' :: c :: rest :=
    skipBlanks_cons (by decide) _
  have hblank : skipBlanks (' ' :: c :: rest) = c :: rest :=
    (List.dropWhile_cons_of_pos (by decide)).trans (skipBlanks_cons hc rest)
  rw [readRest, hcomma]
  dsimp only
  rw [if_neg hclose, if_pos rfl, hblank, hread, Option.map_some]

end Sequences

theorem readWord_append (word : String) (value : JsonValue) (rest : List Char) :
    readWord word value (word.toList ++ rest) = some (value, rest) := by
  have hdrop : (word.toList ++ rest).drop word.length = rest := by
    rw [← String.length_toList, List.drop_left]
  rw [readWord, if_pos (List.prefix_append _ _), hdrop]

theorem BeginsValue.append {text : List Char} (hbegins : BeginsValue text) (rest : List Char) :
    ∃ c tail, text ++ rest = c :: tail ∧ isBlank c = false ∧ c ≠ ']' := by
  obtain ⟨c, tail, rfl, hc⟩ := hbegins
  exact ⟨c, tail ++ rest, rfl, hc⟩

theorem BeginsValue.length_pos {text : List Char} (hbegins : BeginsValue text) :
    0 < text.length := by
  obtain ⟨c, rest, rfl, _⟩ := hbegins
  exact Nat.succ_pos _

/-- A field is read back when its value is. -/
theorem readField_dumps {name : String} {value : JsonValue} {fuel : Nat} {rest : List Char}
    (hbegins : BeginsValue value.dumps)
    (hvalue : readValue fuel (value.dumps ++ rest) = some (value, rest)) :
    readField (fuel + 1) (dumpsString name ++ ": ".toList ++ value.dumps ++ rest) =
      some ((name, value), rest) := by
  have htext : dumpsString name ++ ": ".toList ++ value.dumps ++ rest =
      '"' :: (name.toList.flatMap escapeChar ++ '"' :: ':' :: ' ' :: (value.dumps ++ rest)) := by
    simp [dumpsString]
  obtain ⟨c, tail, hcons, hc, _⟩ := hbegins.append rest
  have hcolon : skipBlanks (':' :: ' ' :: (value.dumps ++ rest)) =
      ':' :: ' ' :: (value.dumps ++ rest) := skipBlanks_cons (by decide) _
  have hblank : skipBlanks (' ' :: (value.dumps ++ rest)) = value.dumps ++ rest := by
    rw [hcons]
    exact (List.dropWhile_cons_of_pos (by decide)).trans (skipBlanks_cons hc tail)
  rw [htext, readField, if_pos rfl, readString_dumps, Option.bind_some]
  dsimp only
  rw [hcolon]
  dsimp only
  rw [if_pos rfl, hblank, hvalue, Option.map_some]

namespace JsonValue

theorem dumpsItems_begins {item : JsonValue} {items : List JsonValue}
    (hwell : WellFormedItems (item :: items)) : BeginsValue (dumpsItems (item :: items)) := by
  have hitem := dumps_begins hwell.1
  cases items with
  | nil =>
      rw [dumpsItems]
      exact hitem
  | cons next rest =>
      rw [dumpsItems, List.append_assoc]
      exact hitem.append _

theorem dumpsFields_begins (field : String × JsonValue) (fields : List (String × JsonValue)) :
    ∃ tail, dumpsFields (field :: fields) = '"' :: tail := by
  cases fields with
  | nil =>
      rw [dumpsFields]
      exact ⟨_, rfl⟩
  | cons next rest =>
      rw [dumpsFields]
      exact ⟨_, rfl⟩

/-- An array is read back when its items are. -/
theorem readValue_items {item : JsonValue} {items : List JsonValue} {fuel : Nat}
    {rest : List Char} (hwell : WellFormedItems (item :: items))
    (hread : readItems fuel (dumpsItems (item :: items) ++ ']' :: rest) =
      some (item :: items, rest)) :
    readValue (fuel + 1) (dumps (.array (item :: items)) ++ rest) =
      some (.array (item :: items), rest) := by
  obtain ⟨c, tail, hcons, hc, hne⟩ := (dumpsItems_begins hwell).append (']' :: rest)
  have htext : dumps (.array (item :: items)) ++ rest =
      '[' :: (dumpsItems (item :: items) ++ ']' :: rest) := by
    simp [dumps]
  rw [hcons] at hread htext
  rw [htext, readValue, if_neg (by decide), if_pos rfl, readUnlessClosed_open hc hne, hread,
    Option.map_some]

/-- An object of distinct names is read back when its fields are. -/
theorem readValue_fields {field : String × JsonValue} {fields : List (String × JsonValue)}
    {fuel : Nat} {rest : List Char} (hnodup : ((field :: fields).map Prod.fst).Nodup)
    (hread : readFields fuel (dumpsFields (field :: fields) ++ '}' :: rest) =
      some (field :: fields, rest)) :
    readValue (fuel + 1) (dumps (.object (field :: fields)) ++ rest) =
      some (.object (field :: fields), rest) := by
  obtain ⟨tail, hcons⟩ := dumpsFields_begins field fields
  have htext : dumps (.object (field :: fields)) ++ rest =
      '{' :: (dumpsFields (field :: fields) ++ '}' :: rest) := by
    simp [dumps]
  rw [hcons, List.cons_append] at hread htext
  rw [htext, readValue, if_neg (by decide), if_neg (by decide), if_pos rfl,
    readUnlessClosed_open rfl (by decide), hread, Option.map_some]
  dsimp only
  rw [objectOf_of_nodup hnodup]

mutual

theorem readValue_dumps : ∀ (value : JsonValue), value.WellFormed → ∀ (fuel : Nat)
    (rest : List Char), value.dumps.length ≤ fuel + 1 → NumberEnds rest →
    readValue (fuel + 1) (value.dumps ++ rest) = some (value, rest)
  | .null, _, fuel, rest, _, _ => by
      rw [dumps]
      exact readWord_append "null" .null rest
  | .bool true, _, fuel, rest, _, _ => by
      rw [dumps]
      exact readWord_append "true" (.bool true) rest
  | .bool false, _, fuel, rest, _, _ => by
      rw [dumps]
      exact readWord_append "false" (.bool false) rest
  | .int n, _, fuel, rest, _, hends => by
      rw [dumps, readValue_number (toString_ne_nil n) (toString_numberChar n),
        readNumber_int n hends]
  | .float value, hwell, fuel, rest, _, hends => by
      have hnumber : value.IsNumber := hwell
      rw [dumps, readValue_number hnumber.ne_nil hnumber.1, readNumber_float hnumber hends]
  | .str text, _, fuel, rest, _, _ => by
      have htext : dumpsString text ++ rest =
          '"' :: (text.toList.flatMap escapeChar ++ '"' :: rest) := by
        simp [dumpsString]
      rw [dumps, htext, readValue, if_pos rfl, readString_dumps, Option.map_some]
  | .array [], _, fuel, rest, _, _ => by
      have hread : readUnlessClosed ']' (readItems fuel) (']' :: rest) = some ([], rest) :=
        readUnlessClosed_closed rfl
      have htext : dumps (.array []) ++ rest = '[' :: ']' :: rest := by
        simp [dumps, dumpsItems]
      rw [htext, readValue, if_neg (by decide), if_pos rfl, hread, Option.map_some]
  | .array (item :: items), hwell, fuel, rest, hfuel, _ => by
      have hitems : WellFormedItems (item :: items) := hwell
      have hlength : (dumps (.array (item :: items))).length =
          (dumpsItems (item :: items)).length + 2 := by
        simp [dumps]
      obtain ⟨fuel, rfl⟩ : ∃ n, fuel = n + 1 := ⟨fuel - 1, by omega⟩
      exact readValue_items hitems
        (readItems_dumps (item :: items) nofun hitems fuel rest (by omega))
  | .object [], _, fuel, rest, _, _ => by
      have hread : readUnlessClosed '}' (readFields fuel) ('}' :: rest) =
          some ([], rest) := readUnlessClosed_closed rfl
      have htext : dumps (.object []) ++ rest = '{' :: '}' :: rest := by
        simp [dumps, dumpsFields]
      rw [htext, readValue, if_neg (by decide), if_neg (by decide), if_pos rfl, hread,
        Option.map_some]
      rfl
  | .object (field :: fields), hwell, fuel, rest, hfuel, _ => by
      obtain ⟨hnodup, hfields⟩ : ((field :: fields).map Prod.fst).Nodup ∧
        WellFormedFields (field :: fields) := hwell
      have hlength : (dumps (.object (field :: fields))).length =
          (dumpsFields (field :: fields)).length + 2 := by
        simp [dumps]
      obtain ⟨fuel, rfl⟩ : ∃ n, fuel = n + 1 := ⟨fuel - 1, by omega⟩
      exact readValue_fields hnodup
        (readFields_dumps (field :: fields) nofun hfields fuel rest (by omega))

theorem readItems_dumps : ∀ (items : List JsonValue), items ≠ [] → WellFormedItems items →
    ∀ (fuel : Nat) (rest : List Char), (dumpsItems items).length ≤ fuel →
    readItems (fuel + 1) (dumpsItems items ++ ']' :: rest) = some (items, rest)
  | [], hne, _, _, _, _ => absurd rfl hne
  | [item], _, hwell, fuel, rest, hfuel => by
      rw [dumpsItems] at hfuel ⊢
      have hpos := (dumps_begins hwell.1).length_pos
      obtain ⟨fuel, rfl⟩ : ∃ n, fuel = n + 1 := ⟨fuel - 1, by omega⟩
      rw [readItems, readValue_dumps item hwell.1 fuel _ hfuel (numberEnds_cons rfl rest),
        Option.bind_some]
      exact readRest_closed rfl
  | item :: next :: items, _, hwell, fuel, rest, hfuel => by
      rw [dumpsItems] at hfuel ⊢
      rw [List.length_append, List.length_append] at hfuel
      have hpos := (dumps_begins hwell.1).length_pos
      obtain ⟨fuel, rfl⟩ : ∃ n, fuel = n + 1 := ⟨fuel - 1, by omega⟩
      have hread := readItems_dumps (next :: items) nofun hwell.2 fuel rest (by omega)
      obtain ⟨c, tail, hcons, hc, _⟩ := (dumpsItems_begins hwell.2).append (']' :: rest)
      rw [List.append_assoc, List.append_assoc, readItems,
        readValue_dumps item hwell.1 fuel _ (by omega) (numberEnds_comma _), Option.bind_some]
      rw [hcons] at hread ⊢
      exact readRest_comma (by decide) hc hread

theorem readFields_dumps : ∀ (fields : List (String × JsonValue)), fields ≠ [] →
    WellFormedFields fields → ∀ (fuel : Nat) (rest : List Char),
    (dumpsFields fields).length ≤ fuel →
    readFields (fuel + 1) (dumpsFields fields ++ '}' :: rest) = some (fields, rest)
  | [], hne, _, _, _, _ => absurd rfl hne
  | [(name, value)], _, hwell, fuel, rest, hfuel => by
      rw [dumpsFields] at hfuel ⊢
      rw [List.length_append, List.length_append] at hfuel
      have hpos := (dumps_begins hwell.1).length_pos
      have hcolon : ": ".toList.length = 2 := rfl
      obtain ⟨fuel, rfl⟩ : ∃ n, fuel = n + 2 := ⟨fuel - 2, by omega⟩
      have hvalue := readValue_dumps value hwell.1 fuel ('}' :: rest) (by omega)
        (numberEnds_cons rfl rest)
      rw [readFields, readField_dumps (dumps_begins hwell.1) hvalue, Option.bind_some]
      exact readRest_closed rfl
  | (name, value) :: next :: fields, _, hwell, fuel, rest, hfuel => by
      rw [dumpsFields] at hfuel ⊢
      simp only [List.length_append] at hfuel
      have hpos := (dumps_begins hwell.1).length_pos
      have hcolon : ": ".toList.length = 2 := rfl
      obtain ⟨fuel, rfl⟩ : ∃ n, fuel = n + 2 := ⟨fuel - 2, by omega⟩
      have hvalue := readValue_dumps value hwell.1 fuel
        (", ".toList ++ (dumpsFields (next :: fields) ++ '}' :: rest)) (by omega)
        (numberEnds_comma _)
      have hread := readFields_dumps (next :: fields) nofun hwell.2 (fuel + 1) rest (by omega)
      obtain ⟨tail, hcons⟩ := dumpsFields_begins next fields
      rw [List.append_assoc, List.append_assoc, readFields,
        readField_dumps (dumps_begins hwell.1) hvalue, Option.bind_some]
      rw [hcons, List.cons_append] at hread ⊢
      exact readRest_comma (by decide) rfl hread

end

/-- What is well-formed is read back. -/
theorem loads_dumps {value : JsonValue} (hwell : value.WellFormed) :
    loads value.dumps = some value := by
  obtain ⟨c, tail, hcons, hc, _⟩ := dumps_begins hwell
  have hskip : skipBlanks value.dumps = value.dumps := by
    rw [hcons]
    exact skipBlanks_cons hc tail
  have hread := readValue_dumps value hwell value.dumps.length [] (Nat.le_succ _) fun _ hmem => by
    cases hmem
  rw [List.append_nil] at hread
  exact loads_iff.mpr ⟨_, [], hskip ▸ hread, rfl⟩

end JsonValue

end PiSSM.Lib
