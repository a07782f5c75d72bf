import Mathlib.Tactic

/-!
UTF-8 as a stream of bytes is read: the decoder is a machine that takes one byte
at a time and keeps an unfinished character between calls, so that cutting the
bytes into chunks makes no difference. A byte that does not continue the
character under way gives the replacement character and is read again as the
start of a character; a byte order mark at the very start is dropped.
-/

namespace PiSSM.Lib

def utf8Encode (text : List Char) : List UInt8 := text.flatMap String.utf8EncodeChar

/-- The character under way: its bits so far, the number of bytes still to come
and the bounds of the next one. -/
structure Utf8Decoder where
  codePoint : Nat
  bytesNeeded : Nat
  lower : Nat
  upper : Nat
  started : Bool
  deriving DecidableEq

namespace Utf8Decoder

def start : Utf8Decoder := ⟨0, 0, 0x80, 0xBF, false⟩

/-- Between two characters. -/
def ground (decoder : Utf8Decoder) : Utf8Decoder :=
  { decoder with codePoint := 0, bytesNeeded := 0, lower := 0x80, upper := 0xBF }

def replacement : Char := Char.ofNat 0xFFFD

def byteOrderMark : Char := Char.ofNat 0xFEFF

/-- A character leaves the decoder, unless it is the byte order mark at the
start. -/
def emit (decoder : Utf8Decoder) (c : Char) : Utf8Decoder × List Char :=
  if decoder.started = false ∧ c = byteOrderMark then
    ({ decoder.ground with started := true }, [])
  else ({ decoder.ground with started := true }, [c])

/-- The first byte of a character. -/
def leadByte (decoder : Utf8Decoder) (byte : UInt8) : Utf8Decoder × List Char :=
  let b := byte.toNat
  if b ≤ 0x7F then decoder.emit (Char.ofNat b)
  else if 0xC2 ≤ b ∧ b ≤ 0xDF then
    ({ decoder with codePoint := b % 0x20, bytesNeeded := 1 }, [])
  else if 0xE0 ≤ b ∧ b ≤ 0xEF then
    ({ decoder with
        codePoint := b % 0x10
        bytesNeeded := 2
        lower := if b = 0xE0 then 0xA0 else 0x80
        upper := if b = 0xED then 0x9F else 0xBF }, [])
  else if 0xF0 ≤ b ∧ b ≤ 0xF4 then
    ({ decoder with
        codePoint := b % 0x08
        bytesNeeded := 3
        lower := if b = 0xF0 then 0x90 else 0x80
        upper := if b = 0xF4 then 0x8F else 0xBF }, [])
  else decoder.emit replacement

def decodeByte (decoder : Utf8Decoder) (byte : UInt8) : Utf8Decoder × List Char :=
  match decoder.bytesNeeded with
  | 0 => decoder.leadByte byte
  | needed + 1 =>
      let b := byte.toNat
      if decoder.lower ≤ b ∧ b ≤ decoder.upper then
        let codePoint := decoder.codePoint * 0x40 + b % 0x40
        if needed = 0 then decoder.emit (Char.ofNat codePoint)
        else
          ({ decoder with
              codePoint := codePoint, bytesNeeded := needed, lower := 0x80, upper := 0xBF }, [])
      else
        let (reset, broken) := decoder.emit replacement
        let (next, text) := reset.leadByte byte
        (next, broken ++ text)

/-- One chunk of a stream. -/
def decode (decoder : Utf8Decoder) : List UInt8 → Utf8Decoder × List Char
  | [] => (decoder, [])
  | byte :: rest =>
      let (next, text) := decoder.decodeByte byte
      let (last, more) := next.decode rest
      (last, text ++ more)

/-- The chunks of a stream, with the text each of them gives. -/
def decodeChunks (decoder : Utf8Decoder) : List (List UInt8) → List (List Char)
  | [] => []
  | chunk :: rest => (decoder.decode chunk).2 :: (decoder.decode chunk).1.decodeChunks rest

theorem decode_append (decoder : Utf8Decoder) (before after : List UInt8) :
    decoder.decode (before ++ after) =
      (((decoder.decode before).1.decode after).1,
        (decoder.decode before).2 ++ ((decoder.decode before).1.decode after).2) := by
  induction before generalizing decoder with
  | nil => rfl
  | cons byte rest ih =>
      simp only [List.cons_append, decode, ih, List.append_assoc]

/-- Cutting a stream into chunks does not change its text. -/
theorem decodeChunks_flatten (decoder : Utf8Decoder) (chunks : List (List UInt8)) :
    (decoder.decodeChunks chunks).flatten = (decoder.decode chunks.flatten).2 := by
  induction chunks generalizing decoder with
  | nil => rfl
  | cons chunk rest ih =>
      rw [decodeChunks, List.flatten_cons, List.flatten_cons, ih, decode_append]

theorem utf8EncodeChar_ascii {c : Char} (hascii : c.toNat < 0x80) :
    String.utf8EncodeChar c = [UInt8.ofNat c.toNat] := by
  have hle : c.val.toNat ≤ 127 := by
    have : c.toNat = c.val.toNat := rfl
    omega
  simp only [String.utf8EncodeChar, if_pos hle]
  rfl

/-- An ASCII character between two characters. -/
theorem decodeByte_ascii {decoder : Utf8Decoder} {c : Char} (hground : decoder.bytesNeeded = 0)
    (hascii : c.toNat < 0x80) :
    decoder.decodeByte (UInt8.ofNat c.toNat) =
      ({ decoder.ground with started := true }, [c]) := by
  have hbyte : (UInt8.ofNat c.toNat).toNat = c.toNat := by
    rw [UInt8.toNat_ofNat']
    omega
  have hmark : ¬ (decoder.started = false ∧ c = byteOrderMark) := by
    rintro ⟨_, rfl⟩
    exact absurd hascii (by decide)
  simp only [decodeByte, hground, leadByte, hbyte, if_pos (Nat.le_of_lt_succ hascii),
    Char.ofNat_toNat, emit, if_neg hmark]

/-- ASCII text comes back as it was encoded. -/
theorem decode_ascii {decoder : Utf8Decoder} {text : List Char}
    (hground : decoder.bytesNeeded = 0) (hascii : ∀ c ∈ text, c.toNat < 0x80) :
    (decoder.decode (utf8Encode text)).2 = text := by
  induction text generalizing decoder with
  | nil => rfl
  | cons c rest ih =>
      have hc := hascii c List.mem_cons_self
      have hrest := @ih { decoder.ground with started := true } rfl
        fun other hmem => hascii other (List.mem_cons_of_mem _ hmem)
      unfold utf8Encode at hrest ⊢
      rw [List.flatMap_cons, utf8EncodeChar_ascii hc, List.singleton_append, decode,
        decodeByte_ascii hground hc]
      simp only [hrest, List.singleton_append]

end Utf8Decoder

end PiSSM.Lib
