import PiSSM.Lib.Utf8

/-!
The text of a byte string in one piece and in segments. Decoded on its own, a
segment that ends within a character ends in a replacement character, and so the
texts of the segments make up the text of the whole exactly when no boundary
between two of them cuts a character.
-/

namespace PiSSM.Lib.Utf8Decoder

/-- The start of a byte string, where no byte order mark is dropped. -/
def whole : Utf8Decoder := { start with started := true }

/-- What the end of the bytes makes of a character under way. -/
def flush (decoder : Utf8Decoder) : List Char :=
  if decoder.bytesNeeded = 0 then [] else [replacement]

/-- The text of the bytes up to their end. -/
def finish (decoder : Utf8Decoder) (bytes : List UInt8) : List Char :=
  (decoder.decode bytes).2 ++ (decoder.decode bytes).1.flush

/-- The text of a byte string, with the replacement character for what is not
well formed. -/
def decodeText (bytes : List UInt8) : List Char := whole.finish bytes

/-- The byte goes on with the character under way. -/
def Continues (decoder : Utf8Decoder) (byte : UInt8) : Prop :=
  decoder.bytesNeeded ≠ 0 ∧ decoder.lower ≤ byte.toNat ∧ byte.toNat ≤ decoder.upper

/-- The bytes all go on with the character under way. -/
def Extends (decoder : Utf8Decoder) : List UInt8 → Prop
  | [] => True
  | byte :: rest => decoder.Continues byte ∧ (decoder.decodeByte byte).1.Extends rest

/-- The bytes are the rest of the character under way. -/
def Completes (decoder : Utf8Decoder) (bytes : List UInt8) : Prop :=
  decoder.Extends bytes ∧ (decoder.decode bytes).1.bytesNeeded = 0

/-- A byte after the first of a character. -/
abbrev IsTail (byte : UInt8) : Prop := 0x80 ≤ byte.toNat ∧ byte.toNat ≤ 0xBF

/-- A boundary in a byte string cuts a character: bytes before it and the byte
after it begin the encoding of one. -/
def CutsCharacter (before after : List UInt8) : Prop :=
  ∃ begun byte, begun ≠ [] ∧ begun <:+ before ∧ after.head? = some byte ∧
    ∃ c, begun ++ [byte] <+: String.utf8EncodeChar c

/-- The states a decoder is found in after the start. -/
structure Settled (decoder : Utf8Decoder) : Prop where
  started : decoder.started = true
  ground : decoder.bytesNeeded = 0 → decoder = whole
  lower : 0x80 ≤ decoder.lower
  upper : decoder.upper ≤ 0xBF

theorem settled_whole : Settled whole where
  started := rfl
  ground _ := rfl
  lower := le_refl _
  upper := le_refl _

theorem emit_settled {decoder : Utf8Decoder} (hstarted : decoder.started = true) (c : Char) :
    decoder.emit c = (whole, [c]) := by
  have hmark : ¬ (decoder.started = false ∧ c = byteOrderMark) := by
    rintro ⟨hfalse, _⟩
    rw [hstarted] at hfalse
    cases hfalse
  rw [emit, if_neg hmark]
  rfl

theorem settled_begun {codePoint needed lower upper : Nat} (hneeded : needed ≠ 0)
    (hlower : 0x80 ≤ lower) (hupper : upper ≤ 0xBF) :
    Settled ⟨codePoint, needed, lower, upper, true⟩ where
  started := rfl
  ground hzero := absurd hzero hneeded
  lower := hlower
  upper := hupper

section

variable {byte : UInt8}

theorem leadByte_two (hlead : 0xC2 ≤ byte.toNat ∧ byte.toNat ≤ 0xDF) :
    whole.leadByte byte = (⟨byte.toNat % 0x20, 1, 0x80, 0xBF, true⟩, []) := by
  simp only [leadByte]
  rw [if_neg (by omega), if_pos hlead]
  rfl

theorem leadByte_three (hlead : 0xE0 ≤ byte.toNat ∧ byte.toNat ≤ 0xEF) :
    whole.leadByte byte =
      (⟨byte.toNat % 0x10, 2, if byte.toNat = 0xE0 then 0xA0 else 0x80,
        if byte.toNat = 0xED then 0x9F else 0xBF, true⟩, []) := by
  simp only [leadByte]
  rw [if_neg (by omega), if_neg (by omega), if_pos hlead]
  rfl

theorem leadByte_four (hlead : 0xF0 ≤ byte.toNat ∧ byte.toNat ≤ 0xF4) :
    whole.leadByte byte =
      (⟨byte.toNat % 0x08, 3, if byte.toNat = 0xF0 then 0x90 else 0x80,
        if byte.toNat = 0xF4 then 0x8F else 0xBF, true⟩, []) := by
  simp only [leadByte]
  rw [if_neg (by omega), if_neg (by omega), if_neg (by omega), if_pos hlead]
  rfl

/-- Every other byte gives a character at once. -/
theorem leadByte_single (hlead : byte.toNat < 0xC2 ∨ 0xF4 < byte.toNat) :
    ∃ c, whole.leadByte byte = (whole, [c]) := by
  simp only [leadByte]
  by_cases hascii : byte.toNat ≤ 0x7F
  · rw [if_pos hascii]
    exact ⟨_, emit_settled rfl _⟩
  · rw [if_neg hascii, if_neg (by omega), if_neg (by omega), if_neg (by omega)]
    exact ⟨_, emit_settled rfl _⟩

end

/-- The bytes that a character of more than one byte begins with. -/
theorem lead_ranges (byte : UInt8) :
    (byte.toNat < 0xC2 ∨ 0xF4 < byte.toNat) ∨ (0xC2 ≤ byte.toNat ∧ byte.toNat ≤ 0xDF) ∨
      (0xE0 ≤ byte.toNat ∧ byte.toNat ≤ 0xEF) ∨ (0xF0 ≤ byte.toNat ∧ byte.toNat ≤ 0xF4) := by
  omega

/-- A first byte either gives a character at once or begins a longer one. -/
theorem leadByte_cases (byte : UInt8) :
    (∃ c, whole.leadByte byte = (whole, [c])) ∨
      ∃ begun, whole.leadByte byte = (begun, []) ∧ begun.Settled ∧ begun.bytesNeeded ≠ 0 := by
  rcases lead_ranges byte with hsingle | htwo | hthree | hfour
  · exact .inl (leadByte_single hsingle)
  · exact .inr ⟨_, leadByte_two htwo, settled_begun (by decide) (le_refl _) (le_refl _),
      Nat.succ_ne_zero 0⟩
  · refine .inr ⟨_, leadByte_three hthree, settled_begun (by decide) ?_ ?_, Nat.succ_ne_zero 1⟩
    · split <;> decide
    · split <;> decide
  · refine .inr ⟨_, leadByte_four hfour, settled_begun (by decide) ?_ ?_, Nat.succ_ne_zero 2⟩
    · split <;> decide
    · split <;> decide

theorem leadByte_settled (byte : UInt8) : (whole.leadByte byte).1.Settled := by
  rcases leadByte_cases byte with ⟨c, hlead⟩ | ⟨begun, hlead, hsettled, _⟩
  · rw [hlead]
    exact settled_whole
  · rw [hlead]
    exact hsettled

/-- No character begins with a byte that goes on with one. -/
theorem leadByte_of_range {byte : UInt8} (hlower : 0x80 ≤ byte.toNat)
    (hupper : byte.toNat ≤ 0xBF) : whole.leadByte byte = (whole, [replacement]) := by
  simp only [leadByte]
  rw [if_neg (by omega), if_neg (by omega), if_neg (by omega), if_neg (by omega)]
  exact emit_settled rfl _

section

variable {decoder : Utf8Decoder} {byte : UInt8}

/-- A byte that does not go on with the character under way starts afresh. -/
theorem decodeByte_of_not_continues (hsettled : decoder.Settled)
    (hbreaks : ¬ decoder.Continues byte) :
    decoder.decodeByte byte =
      ((whole.leadByte byte).1, decoder.flush ++ (whole.leadByte byte).2) := by
  unfold decodeByte flush
  split
  · next hneeded =>
      rw [if_pos hneeded, hsettled.ground hneeded]
      rfl
  · next needed hneeded =>
      have hpending : decoder.bytesNeeded ≠ 0 := by omega
      rw [if_neg hpending, if_neg fun hrange => hbreaks ⟨hpending, hrange⟩,
        emit_settled hsettled.started]

/-- A byte that goes on with the character under way ends it or leaves less of it
to come. -/
theorem decodeByte_of_continues (hsettled : decoder.Settled)
    (hcontinues : decoder.Continues byte) :
    (decoder.bytesNeeded = 1 ∧ ∃ c, decoder.decodeByte byte = (whole, [c])) ∨
      ∃ needed codePoint, decoder.bytesNeeded = needed + 2 ∧
        decoder.decodeByte byte = (⟨codePoint, needed + 1, 0x80, 0xBF, true⟩, []) := by
  obtain ⟨hpending, hrange⟩ := hcontinues
  unfold decodeByte
  split
  · next hneeded => exact absurd hneeded hpending
  · next needed hneeded =>
      simp only [if_pos hrange]
      cases needed with
      | zero =>
          rw [if_pos rfl]
          exact .inl ⟨hneeded, _, emit_settled hsettled.started _⟩
      | succ needed =>
          rw [if_neg (Nat.succ_ne_zero needed), hsettled.started]
          exact .inr ⟨needed, _, hneeded, rfl⟩

theorem Settled.decodeByte (hsettled : decoder.Settled) (byte : UInt8) :
    (decoder.decodeByte byte).1.Settled := by
  by_cases hcontinues : decoder.Continues byte
  · rcases decodeByte_of_continues hsettled hcontinues with
      ⟨_, c, hdecoded⟩ | ⟨needed, codePoint, _, hdecoded⟩
    · rw [hdecoded]
      exact settled_whole
    · rw [hdecoded]
      exact settled_begun (Nat.succ_ne_zero needed) (le_refl _) (le_refl _)
  · rw [decodeByte_of_not_continues hsettled hcontinues]
    exact leadByte_settled byte

theorem Settled.decode (hsettled : decoder.Settled) (bytes : List UInt8) :
    (decoder.decode bytes).1.Settled := by
  induction bytes generalizing decoder with
  | nil => exact hsettled
  | cons byte rest ih => exact ih (hsettled.decodeByte byte)

theorem finish_cons (decoder : Utf8Decoder) (byte : UInt8) (rest : List UInt8) :
    decoder.finish (byte :: rest) =
      (decoder.decodeByte byte).2 ++ (decoder.decodeByte byte).1.finish rest := by
  simp only [finish, decode, List.append_assoc]

theorem finish_append (decoder : Utf8Decoder) (before after : List UInt8) :
    decoder.finish (before ++ after) =
      (decoder.decode before).2 ++ (decoder.decode before).1.finish after := by
  simp only [finish, decode_append, List.append_assoc]

/-- The bytes of a fresh start do not depend on what came before. -/
theorem finish_of_not_continues (hsettled : decoder.Settled) {bytes : List UInt8}
    (hbreaks : ∀ byte, bytes.head? = some byte → ¬ decoder.Continues byte) :
    decoder.finish bytes = decoder.flush ++ decodeText bytes := by
  cases bytes with
  | nil => exact (List.append_nil _).symm
  | cons byte rest =>
      have hground : whole.decodeByte byte = whole.leadByte byte := rfl
      rw [decodeText, finish_cons, finish_cons,
        decodeByte_of_not_continues hsettled (hbreaks byte rfl), hground, List.append_assoc]

/-- A byte that goes on with a character makes the text shorter than a fresh start
does. -/
theorem finish_length_lt (hsettled : decoder.Settled) {rest : List UInt8}
    (hcontinues : decoder.Continues byte)
    (hrest : ∀ next : Utf8Decoder, next.Settled →
      (next.finish rest).length ≤ next.flush.length + (decodeText rest).length) :
    (decoder.finish (byte :: rest)).length <
      decoder.flush.length + (decodeText (byte :: rest)).length := by
  obtain ⟨hpending, hlower, hupper⟩ := hcontinues
  have hlead : whole.decodeByte byte = (whole, [replacement]) :=
    leadByte_of_range (hsettled.lower.trans hlower) (hupper.trans hsettled.upper)
  have hflush : decoder.flush.length = 1 := by rw [flush, if_neg hpending, List.length_singleton]
  have hfresh : (decodeText (byte :: rest)).length = 1 + (decodeText rest).length := by
    rw [decodeText, finish_cons, hlead, List.length_append]
    rfl
  have hstays := hrest _ (hsettled.decodeByte byte)
  rw [finish_cons, List.length_append]
  rcases decodeByte_of_continues hsettled ⟨hpending, hlower, hupper⟩ with
    ⟨_, c, hdecoded⟩ | ⟨needed, codePoint, _, hdecoded⟩
  · rw [hdecoded] at hstays ⊢
    have hempty : whole.flush = [] := rfl
    simp only [hempty, List.length_nil, List.length_singleton] at hstays ⊢
    omega
  · rw [hdecoded] at hstays ⊢
    have hone : (flush ⟨codePoint, needed + 1, 0x80, 0xBF, true⟩).length = 1 := rfl
    simp only [hone, List.length_nil] at hstays ⊢
    omega

/-- A fresh start never makes the text shorter. -/
theorem finish_length_le (hsettled : decoder.Settled) (bytes : List UInt8) :
    (decoder.finish bytes).length ≤ decoder.flush.length + (decodeText bytes).length := by
  induction bytes generalizing decoder with
  | nil => exact Nat.le_add_right _ _
  | cons byte rest ih =>
      by_cases hcontinues : decoder.Continues byte
      · exact (finish_length_lt hsettled hcontinues fun next hnext => ih hnext).le
      · rw [finish_of_not_continues hsettled fun other hother => by
          obtain rfl := Option.some.inj hother
          exact hcontinues, List.length_append]

/-- The same state is reached from a fresh start. -/
theorem decode_of_not_continues (hsettled : decoder.Settled) {rest : List UInt8}
    (hbreaks : ¬ decoder.Continues byte) :
    (decoder.decode (byte :: rest)).1 = (whole.decode (byte :: rest)).1 := by
  simp only [decode, decodeByte_of_not_continues hsettled hbreaks]
  rfl

end

/-- Whether the next byte goes on with the character that the bytes before leave
under way. -/
def Straddles (before after : List UInt8) : Prop :=
  ∃ byte, after.head? = some byte ∧ (whole.decode before).1.Continues byte

theorem decodeText_append {before after : List UInt8} (hapart : ¬ Straddles before after) :
    decodeText (before ++ after) = decodeText before ++ decodeText after := by
  have hfresh := finish_of_not_continues (settled_whole.decode before)
    fun byte hbyte hcontinues => hapart ⟨byte, hbyte, hcontinues⟩
  rw [decodeText, finish_append, hfresh, ← List.append_assoc]
  rfl

theorem decodeText_length (bytes : List UInt8) :
    (decodeText bytes).length =
      (whole.decode bytes).2.length + (whole.decode bytes).1.flush.length :=
  List.length_append

theorem decodeText_append_length (before after : List UInt8) :
    (decodeText (before ++ after)).length =
      (whole.decode before).2.length + ((whole.decode before).1.finish after).length := by
  rw [decodeText, finish_append, List.length_append]

theorem decodeText_append_length_le (before after : List UInt8) :
    (decodeText (before ++ after)).length ≤
      (decodeText before).length + (decodeText after).length := by
  have hfresh := finish_length_le (settled_whole.decode before) after
  rw [decodeText_append_length, decodeText_length before]
  omega

theorem decodeText_append_length_lt {before after : List UInt8}
    (hstraddles : Straddles before after) :
    (decodeText (before ++ after)).length <
      (decodeText before).length + (decodeText after).length := by
  obtain ⟨byte, hbyte, hcontinues⟩ := hstraddles
  obtain ⟨rest, rfl⟩ : ∃ rest, after = byte :: rest := List.head?_eq_some_iff.mp hbyte
  have hfresh := finish_length_lt (settled_whole.decode before) hcontinues
    fun _ hnext => finish_length_le hnext rest
  rw [decodeText_append_length, decodeText_length before]
  omega

/-- The texts of the segments are no shorter than the text of the whole. -/
theorem decodeText_flatten_length_le (segments : List (List UInt8)) :
    (decodeText segments.flatten).length ≤ (segments.flatMap decodeText).length := by
  induction segments with
  | nil => exact le_refl _
  | cons segment rest ih =>
      have happend := decodeText_append_length_le segment rest.flatten
      rw [List.flatten_cons, List.flatMap_cons, List.length_append]
      omega

/-- What straddles a boundary of the rest straddles it in the whole. -/
theorem straddles_append {segment before after : List UInt8}
    (hapart : ¬ Straddles segment (before ++ after)) (hstraddles : Straddles before after) :
    Straddles (segment ++ before) after := by
  obtain ⟨byte, hbyte, hcontinues⟩ := hstraddles
  refine ⟨byte, hbyte, ?_⟩
  rw [decode_append]
  cases before with
  | nil => exact absurd rfl hcontinues.1
  | cons first rest =>
      have hbreaks : ¬ (whole.decode segment).1.Continues first := fun hfirst =>
        hapart ⟨first, rfl, hfirst⟩
      rw [decode_of_not_continues (settled_whole.decode segment) hbreaks]
      exact hcontinues

/-- The texts of the segments make up the text of the whole exactly when no
character straddles a boundary. -/
theorem flatMap_decodeText_eq_iff_straddles (segments : List (List UInt8)) :
    segments.flatMap decodeText = decodeText segments.flatten ↔
      ∀ before after, segments = before ++ after → ¬ Straddles before.flatten after.flatten := by
  constructor
  · rintro hsame before after rfl hstraddles
    have hshorter := decodeText_append_length_lt hstraddles
    have hbefore := decodeText_flatten_length_le before
    have hafter := decodeText_flatten_length_le after
    have hlength := congrArg List.length hsame
    rw [List.flatMap_append, List.length_append, List.flatten_append] at hlength
    omega
  · intro hapart
    induction segments with
    | nil => rfl
    | cons segment rest ih =>
        have hfirst : ¬ Straddles segment rest.flatten := by
          have hsplit := hapart [segment] rest rfl
          rwa [List.flatten_singleton] at hsplit
        have hrest := ih fun before after hsplit hstraddles => by
          subst hsplit
          rw [List.flatten_append] at hfirst
          exact hapart (segment :: before) after rfl (straddles_append hfirst hstraddles)
        rw [List.flatMap_cons, List.flatten_cons, decodeText_append hfirst, hrest]

theorem ofNat_eq {n : Nat} {byte : UInt8} (hsame : n = byte.toNat) : UInt8.ofNat n = byte := by
  rw [hsame, UInt8.ofNat_toNat]

theorem exists_char {codePoint : Nat} (hvalid : codePoint.isValidChar) :
    ∃ c : Char, c.val.toNat = codePoint :=
  ⟨Char.ofNatAux codePoint hvalid, rfl⟩

section

variable {lead second third fourth : UInt8}

theorem exists_encode_two (hlead : 0xC2 ≤ lead.toNat ∧ lead.toNat ≤ 0xDF)
    (hsecond : IsTail second) :
    ∃ c, String.utf8EncodeChar c = [lead, second] := by
  obtain ⟨codePoint, hcodePoint⟩ :
      ∃ n, n = lead.toNat % 0x20 * 0x40 + second.toNat % 0x40 := ⟨_, rfl⟩
  have hvalid : codePoint.isValidChar := .inl (by omega)
  obtain ⟨c, hvalue⟩ := exists_char hvalid
  refine ⟨c, ?_⟩
  simp only [String.utf8EncodeChar, hvalue]
  rw [if_neg (by omega), if_pos (by omega)]
  simp only [List.cons.injEq, and_true]
  exact ⟨ofNat_eq (by omega), ofNat_eq (by omega)⟩

theorem exists_encode_three (hlead : 0xE0 ≤ lead.toNat ∧ lead.toNat ≤ 0xEF)
    (hsecond : IsTail second)
    (hlow : lead.toNat = 0xE0 → 0xA0 ≤ second.toNat)
    (hhigh : lead.toNat = 0xED → second.toNat ≤ 0x9F)
    (hthird : IsTail third) :
    ∃ c, String.utf8EncodeChar c = [lead, second, third] := by
  obtain ⟨codePoint, hcodePoint⟩ :
      ∃ n, n = (lead.toNat % 0x10 * 0x40 + second.toNat % 0x40) * 0x40 + third.toNat % 0x40 :=
    ⟨_, rfl⟩
  have hvalid : codePoint.isValidChar := by
    unfold Nat.isValidChar
    omega
  obtain ⟨c, hvalue⟩ := exists_char hvalid
  refine ⟨c, ?_⟩
  simp only [String.utf8EncodeChar, hvalue]
  rw [if_neg (by omega), if_neg (by omega), if_pos (by omega)]
  simp only [List.cons.injEq, and_true]
  exact ⟨ofNat_eq (by omega), ofNat_eq (by omega), ofNat_eq (by omega)⟩

theorem exists_encode_four (hlead : 0xF0 ≤ lead.toNat ∧ lead.toNat ≤ 0xF4)
    (hsecond : IsTail second)
    (hlow : lead.toNat = 0xF0 → 0x90 ≤ second.toNat)
    (hhigh : lead.toNat = 0xF4 → second.toNat ≤ 0x8F)
    (hthird : IsTail third)
    (hfourth : IsTail fourth) :
    ∃ c, String.utf8EncodeChar c = [lead, second, third, fourth] := by
  obtain ⟨codePoint, hcodePoint⟩ :
      ∃ n, n = ((lead.toNat % 0x08 * 0x40 + second.toNat % 0x40) * 0x40 + third.toNat % 0x40) *
        0x40 + fourth.toNat % 0x40 := ⟨_, rfl⟩
  have hvalid : codePoint.isValidChar := .inr (by omega)
  obtain ⟨c, hvalue⟩ := exists_char hvalid
  refine ⟨c, ?_⟩
  simp only [String.utf8EncodeChar, hvalue]
  rw [if_neg (by omega), if_neg (by omega), if_neg (by omega)]
  simp only [List.cons.injEq, and_true]
  exact ⟨ofNat_eq (by omega), ofNat_eq (by omega), ofNat_eq (by omega), ofNat_eq (by omega)⟩

end

theorem completes_cons {decoder : Utf8Decoder} {byte : UInt8} {rest : List UInt8} :
    decoder.Completes (byte :: rest) ↔
      decoder.Continues byte ∧ (decoder.decodeByte byte).1.Completes rest :=
  and_assoc

theorem completes_whole {bytes : List UInt8} : whole.Completes bytes ↔ bytes = [] := by
  constructor
  · intro hcompletes
    cases bytes with
    | nil => rfl
    | cons byte rest => exact absurd rfl (completes_cons.mp hcompletes).1.1
  · rintro rfl
    exact ⟨trivial, rfl⟩

theorem not_completes_nil {decoder : Utf8Decoder} (hpending : decoder.bytesNeeded ≠ 0) :
    ¬ decoder.Completes [] :=
  fun hcompletes => hpending hcompletes.2

/-- After a byte that goes on with the character, as many of the common range as
are still needed. -/
theorem completes_rest {decoder : Utf8Decoder} {needed : Nat} (hsettled : decoder.Settled)
    (hneeded : decoder.bytesNeeded = needed + 1) {byte : UInt8}
    (hcontinues : decoder.Continues byte) (rest : List UInt8) :
    (decoder.decodeByte byte).1.Completes rest ↔
      rest.length = needed ∧ ∀ other ∈ rest, IsTail other := by
  induction needed generalizing decoder byte rest with
  | zero =>
      rcases decodeByte_of_continues hsettled hcontinues with
        ⟨_, c, hdecoded⟩ | ⟨_, _, htwo, _⟩
      · rw [hdecoded, completes_whole, List.length_eq_zero_iff]
        exact ⟨fun hnil => ⟨hnil, by simp [hnil]⟩, And.left⟩
      · omega
  | succ needed ih =>
      rcases decodeByte_of_continues hsettled hcontinues with
        ⟨hone, _⟩ | ⟨less, codePoint, hmore, hdecoded⟩
      · omega
      · obtain rfl : less = needed := by omega
        rw [hdecoded]
        let next : Utf8Decoder := ⟨codePoint, less + 1, 0x80, 0xBF, true⟩
        have hpending : next.bytesNeeded ≠ 0 := Nat.succ_ne_zero less
        have hnext : next.Settled := settled_begun hpending (le_refl _) (le_refl _)
        cases rest with
        | nil =>
            constructor
            · exact fun hcompletes => absurd hcompletes (not_completes_nil hpending)
            · rintro ⟨hlength, _⟩
              cases hlength
        | cons third rest =>
            rw [completes_cons, List.length_cons, Nat.succ_inj, List.forall_mem_cons]
            constructor
            · rintro ⟨hthird, hrest⟩
              obtain ⟨hlength, hrange⟩ := (ih hnext rfl hthird rest).mp hrest
              exact ⟨hlength, hthird.2, hrange⟩
            · rintro ⟨hlength, hthird, hrange⟩
              have hgoes : next.Continues third := ⟨hpending, hthird⟩
              exact ⟨hgoes, (ih hnext rfl hgoes rest).mpr ⟨hlength, hrange⟩⟩

/-- The rest of a character: a byte within the bounds, then bytes of the common
range. -/
theorem completes_iff {decoder : Utf8Decoder} {needed : Nat} (hsettled : decoder.Settled)
    (hneeded : decoder.bytesNeeded = needed + 1) (bytes : List UInt8) :
    decoder.Completes bytes ↔
      ∃ second rest, bytes = second :: rest ∧
        (decoder.lower ≤ second.toNat ∧ second.toNat ≤ decoder.upper) ∧
        rest.length = needed ∧ ∀ byte ∈ rest, IsTail byte := by
  have hpending : decoder.bytesNeeded ≠ 0 := by omega
  constructor
  · intro hcompletes
    cases bytes with
    | nil => exact absurd hcompletes (not_completes_nil hpending)
    | cons second rest =>
        obtain ⟨hcontinues, hrest⟩ := completes_cons.mp hcompletes
        exact ⟨second, rest, rfl, hcontinues.2,
          (completes_rest hsettled hneeded hcontinues rest).mp hrest⟩
  · rintro ⟨second, rest, rfl, hrange, hrest⟩
    have hcontinues : decoder.Continues second := ⟨hpending, hrange⟩
    exact completes_cons.mpr
      ⟨hcontinues, (completes_rest hsettled hneeded hcontinues rest).mpr hrest⟩

/-- A byte that goes on with a character can be followed by the rest of one. -/
theorem exists_completes {decoder : Utf8Decoder} (hsettled : decoder.Settled) {byte : UInt8}
    (hcontinues : decoder.Continues byte) : ∃ rest, decoder.Completes (byte :: rest) := by
  obtain ⟨needed, hneeded⟩ := Nat.exists_eq_succ_of_ne_zero hcontinues.1
  refine ⟨List.replicate needed 0x80, completes_cons.mpr ⟨hcontinues, ?_⟩⟩
  refine (completes_rest hsettled hneeded hcontinues _).mpr ⟨List.length_replicate, ?_⟩
  intro other hmem
  rw [List.eq_of_mem_replicate hmem]
  decide

/-- What completes a first byte makes the encoding of a character of it. -/
theorem exists_encode_of_completes {lead : UInt8} {tail : List UInt8}
    (hpending : (whole.leadByte lead).1.bytesNeeded ≠ 0)
    (hcompletes : (whole.leadByte lead).1.Completes tail) :
    ∃ c, String.utf8EncodeChar c = lead :: tail := by
  have hsettled := leadByte_settled lead
  rcases lead_ranges lead with hsingle | htwo | hthree | hfour
  · obtain ⟨c, hlead⟩ := leadByte_single hsingle
    rw [hlead] at hpending
    exact absurd rfl hpending
  · rw [leadByte_two htwo] at hcompletes hsettled
    obtain ⟨second, rest, rfl, hsecond, hlength, _⟩ := (completes_iff hsettled rfl _).mp hcompletes
    obtain rfl := List.length_eq_zero_iff.mp hlength
    exact exists_encode_two htwo hsecond
  · rw [leadByte_three hthree] at hcompletes hsettled
    obtain ⟨second, rest, rfl, ⟨hlower, hupper⟩, hlength, hrest⟩ :=
      (completes_iff hsettled rfl _).mp hcompletes
    obtain ⟨third, rfl⟩ := List.length_eq_one_iff.mp hlength
    have hthird := hrest third List.mem_cons_self
    dsimp only at hlower hupper
    exact exists_encode_three hthree (by split_ifs at hlower hupper <;> omega)
      (fun hlead => by rwa [if_pos hlead] at hlower)
      (fun hlead => by rwa [if_pos hlead] at hupper) hthird
  · rw [leadByte_four hfour] at hcompletes hsettled
    obtain ⟨second, rest, rfl, ⟨hlower, hupper⟩, hlength, hrest⟩ :=
      (completes_iff hsettled rfl _).mp hcompletes
    obtain ⟨third, fourth, rfl⟩ := List.length_eq_two.mp hlength
    obtain ⟨hthird, hfourth, _⟩ := by
      simpa only [List.forall_mem_cons] using hrest
    dsimp only at hlower hupper
    exact exists_encode_four hfour (by split_ifs at hlower hupper <;> omega)
      (fun hlead => by rwa [if_pos hlead] at hlower)
      (fun hlead => by rwa [if_pos hlead] at hupper) hthird hfourth

theorem toNat_ofNat_of_lt {n : Nat} (hn : n < 256) : (UInt8.ofNat n).toNat = n := by
  rw [UInt8.toNat_ofNat']
  exact Nat.mod_eq_of_lt hn

/-- The bytes of a character's encoding, by their number. -/
theorem encode_cases (c : Char) :
    (∃ lead, String.utf8EncodeChar c = [lead]) ∨
    (∃ lead second : UInt8, String.utf8EncodeChar c = [lead, second] ∧
      (0xC2 ≤ lead.toNat ∧ lead.toNat ≤ 0xDF) ∧ IsTail second) ∨
    (∃ lead second third : UInt8, String.utf8EncodeChar c = [lead, second, third] ∧
      (0xE0 ≤ lead.toNat ∧ lead.toNat ≤ 0xEF) ∧ IsTail second ∧ IsTail third ∧
      (lead.toNat = 0xE0 → 0xA0 ≤ second.toNat) ∧ (lead.toNat = 0xED → second.toNat ≤ 0x9F)) ∨
    ∃ lead second third fourth : UInt8,
      String.utf8EncodeChar c = [lead, second, third, fourth] ∧
      (0xF0 ≤ lead.toNat ∧ lead.toNat ≤ 0xF4) ∧ IsTail second ∧ IsTail third ∧ IsTail fourth ∧
      (lead.toNat = 0xF0 → 0x90 ≤ second.toNat) ∧
      (lead.toNat = 0xF4 → second.toNat ≤ 0x8F) := by
  have hvalid : c.val.toNat < 0xD800 ∨ 0xDFFF < c.val.toNat ∧ c.val.toNat < 0x110000 := c.valid
  simp only [String.utf8EncodeChar, IsTail]
  split
  · exact .inl ⟨_, rfl⟩
  · split
    · have hlead := toNat_ofNat_of_lt (by omega : c.val.toNat / 64 % 0x20 + 0xC0 < 256)
      have hsecond := toNat_ofNat_of_lt (by omega : c.val.toNat % 0x40 + 0x80 < 256)
      refine .inr (.inl ⟨_, _, rfl, ?_⟩)
      omega
    · split
      · have hlead := toNat_ofNat_of_lt (by omega : c.val.toNat / 4096 % 0x10 + 0xE0 < 256)
        have hsecond := toNat_ofNat_of_lt (by omega : c.val.toNat / 64 % 0x40 + 0x80 < 256)
        have hthird := toNat_ofNat_of_lt (by omega : c.val.toNat % 0x40 + 0x80 < 256)
        refine .inr (.inr (.inl ⟨_, _, _, rfl, ?_⟩))
        omega
      · have hlead := toNat_ofNat_of_lt (by omega : c.val.toNat / 262144 % 0x08 + 0xF0 < 256)
        have hsecond := toNat_ofNat_of_lt (by omega : c.val.toNat / 4096 % 0x40 + 0x80 < 256)
        have hthird := toNat_ofNat_of_lt (by omega : c.val.toNat / 64 % 0x40 + 0x80 < 256)
        have hfourth := toNat_ofNat_of_lt (by omega : c.val.toNat % 0x40 + 0x80 < 256)
        refine .inr (.inr (.inr ⟨_, _, _, _, rfl, ?_⟩))
        omega

/-- The bytes after the first of a character's encoding complete it. -/
theorem completes_of_encode {c : Char} {lead : UInt8} {tail : List UInt8}
    (hencode : String.utf8EncodeChar c = lead :: tail) (htail : tail ≠ []) :
    (whole.leadByte lead).1.bytesNeeded ≠ 0 ∧ (whole.leadByte lead).1.Completes tail := by
  have hsettled := leadByte_settled lead
  rcases encode_cases c with ⟨first, hbytes⟩ | ⟨first, second, hbytes, hfirst, hsecond⟩ |
    ⟨first, second, third, hbytes, hfirst, hsecond, hthird, hlow, hhigh⟩ |
    ⟨first, second, third, fourth, hbytes, hfirst, hsecond, hthird, hfourth, hlow, hhigh⟩
  all_goals obtain ⟨rfl, rfl⟩ := List.cons.inj (hencode.symm.trans hbytes)
  · exact absurd rfl htail
  · rw [leadByte_two hfirst] at hsettled ⊢
    exact ⟨Nat.succ_ne_zero 0,
      (completes_iff hsettled rfl _).mpr ⟨second, [], rfl, hsecond, rfl, by simp⟩⟩
  · rw [leadByte_three hfirst] at hsettled ⊢
    refine ⟨Nat.succ_ne_zero 1,
      (completes_iff hsettled rfl _).mpr ⟨second, [third], rfl, ⟨?_, ?_⟩, rfl, ?_⟩⟩
    · dsimp only
      split
      · next hlead => exact hlow hlead
      · exact hsecond.1
    · dsimp only
      split
      · next hlead => exact hhigh hlead
      · exact hsecond.2
    · exact List.forall_mem_singleton.mpr hthird
  · rw [leadByte_four hfirst] at hsettled ⊢
    refine ⟨Nat.succ_ne_zero 2,
      (completes_iff hsettled rfl _).mpr ⟨second, [third, fourth], rfl, ⟨?_, ?_⟩, rfl, ?_⟩⟩
    · dsimp only
      split
      · next hlead => exact hlow hlead
      · exact hsecond.1
    · dsimp only
      split
      · next hlead => exact hhigh hlead
      · exact hsecond.2
    · exact List.forall_mem_cons.mpr ⟨hthird, List.forall_mem_singleton.mpr hfourth⟩

theorem extends_append (decoder : Utf8Decoder) (before after : List UInt8) :
    decoder.Extends (before ++ after) ↔
      decoder.Extends before ∧ (decoder.decode before).1.Extends after := by
  induction before generalizing decoder with
  | nil => exact ⟨fun hafter => ⟨trivial, hafter⟩, And.right⟩
  | cons byte rest ih =>
      simp only [List.cons_append, Extends, decode, ih, and_assoc]

theorem completes_append (decoder : Utf8Decoder) (before after : List UInt8) :
    decoder.Completes (before ++ after) ↔
      decoder.Extends before ∧ (decoder.decode before).1.Completes after := by
  simp only [Completes, extends_append, decode_append, and_assoc]

/-- Where a decoder is within a character, the bytes end with what it has read of
it. -/
theorem decode_under_way (bytes : List UInt8) :
    (whole.decode bytes).1.bytesNeeded = 0 ∨
      ∃ lead begun, lead :: begun <:+ bytes ∧ (whole.leadByte lead).1.bytesNeeded ≠ 0 ∧
        (whole.leadByte lead).1.Extends begun ∧
        (whole.decode bytes).1 = ((whole.leadByte lead).1.decode begun).1 := by
  induction bytes using List.reverseRecOn with
  | nil => exact .inl rfl
  | append_singleton bytes byte ih =>
      have hsettled := settled_whole.decode bytes
      have hnext : (whole.decode (bytes ++ [byte])).1 =
          ((whole.decode bytes).1.decodeByte byte).1 := by
        rw [decode_append]
        rfl
      rw [hnext]
      by_cases hcontinues : (whole.decode bytes).1.Continues byte
      · right
        obtain ⟨lead, begun, ⟨before, hbytes⟩, hpending, hextends, hstate⟩ :=
          ih.resolve_left hcontinues.1
        refine ⟨lead, begun ++ [byte], ⟨before, ?_⟩, hpending, ?_, ?_⟩
        · rw [← hbytes, List.append_assoc, List.cons_append]
        · rw [hstate] at hcontinues
          exact (extends_append _ _ _).mpr ⟨hextends, hcontinues, trivial⟩
        · rw [decode_append, hstate]
          rfl
      · rw [decodeByte_of_not_continues hsettled hcontinues]
        rcases leadByte_cases byte with ⟨c, hlead⟩ | ⟨begun, hlead, _, hpending⟩
        · left
          rw [hlead]
          rfl
        · right
          refine ⟨byte, [], List.suffix_append bytes [byte], ?_, trivial, rfl⟩
          rw [hlead]
          exact hpending

/-- A character straddles a boundary when its encoding is cut there. -/
theorem straddles_iff_cutsCharacter (before after : List UInt8) :
    Straddles before after ↔ CutsCharacter before after := by
  constructor
  · rintro ⟨byte, hbyte, hcontinues⟩
    obtain ⟨lead, begun, hsuffix, hpending, hextends, hstate⟩ :=
      (decode_under_way before).resolve_left hcontinues.1
    obtain ⟨rest, hrest⟩ := exists_completes (settled_whole.decode before) hcontinues
    rw [hstate] at hrest
    obtain ⟨c, hencode⟩ := exists_encode_of_completes hpending
      ((completes_append _ begun (byte :: rest)).mpr ⟨hextends, hrest⟩)
    refine ⟨lead :: begun, byte, List.cons_ne_nil _ _, hsuffix, hbyte, c, rest, ?_⟩
    rw [hencode, List.append_assoc]
    rfl
  · rintro ⟨begun, byte, hbegun, ⟨first, rfl⟩, hbyte, c, rest, hencode⟩
    obtain ⟨lead, begun, rfl⟩ := List.exists_cons_of_ne_nil hbegun
    rw [List.append_assoc, List.cons_append] at hencode
    obtain ⟨hpending, hcompletes⟩ := completes_of_encode hencode.symm (by simp)
    obtain ⟨_, hrest⟩ := (completes_append _ begun ([byte] ++ rest)).mp hcompletes
    have hbreaks : ¬ (whole.decode first).1.Continues lead := by
      rintro ⟨_, hlower, hupper⟩
      have hsettled := settled_whole.decode first
      rw [leadByte_of_range (hsettled.lower.trans hlower) (hupper.trans hsettled.upper)]
        at hpending
      exact hpending rfl
    refine ⟨byte, hbyte, ?_⟩
    rw [decode_append]
    dsimp only
    rw [decode_of_not_continues (settled_whole.decode first) hbreaks]
    exact (completes_cons.mp hrest).1

/-- The texts of the segments make up the text of the whole exactly when no boundary
between segments cuts a character. -/
theorem flatMap_decodeText_eq_iff (segments : List (List UInt8)) :
    segments.flatMap decodeText = decodeText segments.flatten ↔
      ∀ before after, segments = before ++ after →
        ¬ CutsCharacter before.flatten after.flatten := by
  simp only [flatMap_decodeText_eq_iff_straddles, straddles_iff_cutsCharacter]

end PiSSM.Lib.Utf8Decoder
