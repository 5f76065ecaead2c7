import DeclMerge.Text.Utf8

/-!
# Encoded text reads back

The decoder accepts encoded texts and nothing else (`decode_eq_ok_iff`). In between stands
`Sequence`, the table of well-formed byte sequences: the decoder reads the bytes of a sequence as
one character, whatever bytes it accepts begin with a sequence, and the sequences are the encoded
characters. A part of an encoded text that starts and ends where characters do therefore decodes
to the characters in it (`Slice.decodeString`).
-/
namespace DeclMerge.Utf8

/-- A byte that can only go on with a sequence. -/
def IsTail (byte : UInt8) : Prop := 0x80 ≤ byte.toNat ∧ byte.toNat ≤ 0xBF

/-- The bytes of one character, and its number. -/
inductive Sequence : List UInt8 → Nat → Prop where
  | one {value : Nat} {a : UInt8} (lead : a.toNat < 0x80) (number : value = a.toNat) :
      Sequence [a] value
  | two {value : Nat} {a b : UInt8} (lead : 0xC2 ≤ a.toNat ∧ a.toNat < 0xE0) (second : IsTail b)
      (number : value = (a.toNat - 0xC0) * 64 + (b.toNat - 0x80)) : Sequence [a, b] value
  -- The bounds on the second byte keep out overlong forms, surrogates and numbers above the last.
  | three {value : Nat} {a b c : UInt8} (lead : 0xE0 ≤ a.toNat ∧ a.toNat < 0xF0)
      (second : IsTail b) (third : IsTail c) (wide : a.toNat = 0xE0 → 0xA0 ≤ b.toNat)
      (scalar : a.toNat = 0xED → b.toNat ≤ 0x9F)
      (number : value = ((a.toNat - 0xE0) * 64 + (b.toNat - 0x80)) * 64 + (c.toNat - 0x80)) :
      Sequence [a, b, c] value
  | four {value : Nat} {a b c d : UInt8} (lead : 0xF0 ≤ a.toNat ∧ a.toNat < 0xF5)
      (second : IsTail b) (third : IsTail c) (fourth : IsTail d)
      (wide : a.toNat = 0xF0 → 0x90 ≤ b.toNat) (scalar : a.toNat = 0xF4 → b.toNat ≤ 0x8F)
      (number : value = (((a.toNat - 0xF0) * 64 + (b.toNat - 0x80)) * 64 + (c.toNat - 0x80)) * 64
        + (d.toNat - 0x80)) :
      Sequence [a, b, c, d] value

theorem sequence_encodeChar (c : Char) : Sequence (String.utf8EncodeChar c) c.toNat := by
  change Sequence (String.utf8EncodeChar c) c.val.toNat
  have valid : c.val.toNat < 0xD800 ∨ 0xDFFF < c.val.toNat ∧ c.val.toNat < 0x110000 := c.valid
  simp only [String.utf8EncodeChar]
  generalize c.val.toNat = v at valid
  have byte {n : Nat} (small : n < 256) : (UInt8.ofNat n).toNat = n :=
    UInt8.toNat_ofNat_of_lt' small
  split
  next one =>
    have lead := byte (n := v) (by omega)
    exact .one (by omega) (by omega)
  split
  next two =>
    have lead := byte (n := v / 64 % 0x20 + 0xC0) (by omega)
    have second := byte (n := v % 0x40 + 0x80) (by omega)
    exact .two (by omega) (by unfold IsTail; omega) (by omega)
  split
  next three =>
    have lead := byte (n := v / 4096 % 0x10 + 0xE0) (by omega)
    have second := byte (n := v / 64 % 0x40 + 0x80) (by omega)
    have third := byte (n := v % 0x40 + 0x80) (by omega)
    exact .three (by omega) (by unfold IsTail; omega) (by unfold IsTail; omega) (by omega)
      (by omega) (by omega)
  next four =>
    have lead := byte (n := v / 262144 % 0x08 + 0xF0) (by omega)
    have second := byte (n := v / 4096 % 0x40 + 0x80) (by omega)
    have third := byte (n := v / 64 % 0x40 + 0x80) (by omega)
    have fourth := byte (n := v % 0x40 + 0x80) (by omega)
    exact .four (by omega) (by unfold IsTail; omega) (by unfold IsTail; omega)
      (by unfold IsTail; omega) (by omega) (by omega) (by omega)

theorem Sequence.encodeChar {bytes : List UInt8} {value : Nat} (sequence : Sequence bytes value) :
    String.utf8EncodeChar (Char.ofNat value) = bytes := by
  have read (valid : value < 0xD800 ∨ 0xDFFF < value ∧ value < 0x110000) :
      (Char.ofNat value).val.toNat = value := by
    rw [Char.ofNat, dif_pos valid]
    rfl
  have byte (a : UInt8) {n : Nat} (same : n = a.toNat) : UInt8.ofNat n = a := by
    rw [same, UInt8.ofNat_toNat]
  simp only [String.utf8EncodeChar]
  cases sequence with
  | @one _ a lead number =>
    rw [read (by omega), if_pos (by omega), byte a number]
  | @two _ a b lead second number =>
    unfold IsTail at second
    rw [read (by omega), if_neg (by omega), if_pos (by omega), byte a (by omega),
      byte b (by omega)]
  | @three _ a b c lead second third wide scalar number =>
    unfold IsTail at second third
    rw [read (by omega), if_neg (by omega), if_neg (by omega), if_pos (by omega),
      byte a (by omega), byte b (by omega), byte c (by omega)]
  | @four _ a b c d lead second third fourth wide scalar number =>
    unfold IsTail at second third fourth
    rw [read (by omega), if_neg (by omega), if_neg (by omega), if_neg (by omega),
      byte a (by omega), byte b (by omega), byte c (by omega), byte d (by omega)]

theorem Sequence.length_pos {bytes : List UInt8} {value : Nat} (sequence : Sequence bytes value) :
    0 < bytes.length := by
  cases sequence <;> exact Nat.succ_pos _

/-! ### Steps of the decoder -/

section Steps

variable {position start length value missing : Nat} {byte first low high : UInt8}
  {rest : List UInt8}

theorem ofLead_two (lead : 0xC2 ≤ byte.toNat ∧ byte.toNat < 0xE0) :
    Pending.ofLead position byte = some ⟨position, byte, 1, byte.toNat - 0xC0, 0, 0x80, 0xBF⟩ := by
  simp only [Pending.ofLead, UInt8.lt_iff_toNat_lt, UInt8.reduceToNat]
  rw [if_neg (by omega), if_pos (by omega)]

theorem ofLead_three (lead : 0xE0 ≤ byte.toNat ∧ byte.toNat < 0xF0) :
    Pending.ofLead position byte = some ⟨position, byte, 1, byte.toNat - 0xE0, 1,
      if byte = 0xE0 then 0xA0 else 0x80, if byte = 0xED then 0x9F else 0xBF⟩ := by
  simp only [Pending.ofLead, UInt8.lt_iff_toNat_lt, UInt8.reduceToNat]
  rw [if_neg (by omega), if_neg (by omega), if_pos (by omega)]

theorem ofLead_four (lead : 0xF0 ≤ byte.toNat ∧ byte.toNat < 0xF5) :
    Pending.ofLead position byte = some ⟨position, byte, 1, byte.toNat - 0xF0, 2,
      if byte = 0xF0 then 0x90 else 0x80, if byte = 0xF4 then 0x8F else 0xBF⟩ := by
  simp only [Pending.ofLead, UInt8.lt_iff_toNat_lt, UInt8.reduceToNat]
  rw [if_neg (by omega), if_neg (by omega), if_neg (by omega), if_pos (by omega)]

theorem ofLead_eq_none (lead : byte.toNat < 0xC2 ∨ 0xF5 ≤ byte.toNat) :
    Pending.ofLead position byte = none := by
  simp only [Pending.ofLead, UInt8.lt_iff_toNat_lt, UInt8.reduceToNat]
  rcases lead with low | high
  · rw [if_pos low]
  · rw [if_neg (by omega), if_neg (by omega), if_neg (by omega), if_neg (by omega)]

theorem narrow_iff (byte : UInt8) : byte < 0x80 ↔ byte.toNat < 0x80 := by
  simp only [UInt8.lt_iff_toNat_lt, UInt8.reduceToNat]

theorem inside_iff (byte : UInt8) : 0x80 ≤ byte ∧ byte ≤ 0xBF ↔ IsTail byte := by
  simp only [IsTail, UInt8.le_iff_toNat_le, UInt8.reduceToNat]

/-- What a lead byte with two special values asks of the second byte. -/
theorem second_iff (lead byte wide scalar low high : UInt8) (above : 0x80 ≤ low)
    (below : high ≤ 0xBF) :
    (if lead = wide then low else 0x80) ≤ byte ∧ byte ≤ (if lead = scalar then high else 0xBF) ↔
      IsTail byte ∧ (lead.toNat = wide.toNat → low.toNat ≤ byte.toNat) ∧
        (lead.toNat = scalar.toNat → byte.toNat ≤ high.toNat) := by
  simp only [IsTail, UInt8.le_iff_toNat_le, UInt8.toNat_inj, UInt8.reduceToNat] at *
  split <;> split <;> simp_all <;> omega

theorem decodeFrom_lead {pending : Pending} (wide : ¬ byte < 0x80)
    (announced : Pending.ofLead position byte = some pending) :
    decodeFrom position none (byte :: rest) = decodeFrom (position + 1) (some pending) rest := by
  rw [decodeFrom, if_neg wide]
  simp only [announced]

theorem decodeFrom_more (inside : low ≤ byte ∧ byte ≤ high) :
    decodeFrom position (some ⟨start, first, length, value, missing + 1, low, high⟩)
        (byte :: rest) =
      decodeFrom (position + 1)
        (some ⟨start, first, length + 1, value * 64 + (byte.toNat - 0x80), missing, 0x80, 0xBF⟩)
        rest := by
  rw [decodeFrom, if_pos inside]
  rfl

theorem decodeFrom_last (inside : low ≤ byte ∧ byte ≤ high) :
    decodeFrom position (some ⟨start, first, length, value, 0, low, high⟩) (byte :: rest) =
      (decodeFrom (position + 1) none rest).map
        (Char.ofNat (value * 64 + (byte.toNat - 0x80)) :: ·) := by
  rw [decodeFrom, if_pos inside]
  rfl

/-- Within a sequence readable bytes go on with one in range. -/
theorem exists_inside {pending : Pending} {bytes : List UInt8} {text : List Char}
    (read : decodeFrom position (some pending) bytes = .ok text) :
    ∃ byte rest, bytes = byte :: rest ∧ pending.low ≤ byte ∧ byte ≤ pending.high := by
  cases bytes with
  | nil => cases read
  | cons byte rest =>
    rw [decodeFrom] at read
    split at read
    next inside => exact ⟨byte, rest, rfl, inside⟩
    · cases read

end Steps

/-- A sequence in front is read as its character. -/
theorem decodeFrom_sequence {bytes : List UInt8} {value : Nat} (sequence : Sequence bytes value)
    (position : Nat) (rest : List UInt8) :
    decodeFrom position none (bytes ++ rest) =
      (decodeFrom (position + bytes.length) none rest).map (Char.ofNat value :: ·) := by
  have wide {byte : UInt8} (lead : 0xC2 ≤ byte.toNat) : ¬ byte < 0x80 := by
    rw [narrow_iff]
    omega
  cases sequence with
  | one lead number =>
    rw [number, List.singleton_append, decodeFrom, if_pos ((narrow_iff _).mpr lead)]
    rfl
  | two lead second number =>
    simp only [number, List.cons_append, List.nil_append]
    rw [decodeFrom_lead (wide (by omega)) (ofLead_two lead),
      decodeFrom_last ((inside_iff _).mpr second)]
    rfl
  | three lead second third low scalar number =>
    have inside := (second_iff _ _ 0xE0 0xED 0xA0 0x9F (by decide) (by decide)).mpr
      ⟨second, low, scalar⟩
    simp only [number, List.cons_append, List.nil_append]
    rw [decodeFrom_lead (wide (by omega)) (ofLead_three lead), decodeFrom_more inside,
      decodeFrom_last ((inside_iff _).mpr third)]
    rfl
  | four lead second third fourth low scalar number =>
    have inside := (second_iff _ _ 0xF0 0xF4 0x90 0x8F (by decide) (by decide)).mpr
      ⟨second, low, scalar⟩
    simp only [number, List.cons_append, List.nil_append]
    rw [decodeFrom_lead (wide (by omega)) (ofLead_four lead), decodeFrom_more inside,
      decodeFrom_more ((inside_iff _).mpr third), decodeFrom_last ((inside_iff _).mpr fourth)]
    rfl

/-- Readable bytes begin with a sequence. -/
theorem exists_sequence {position : Nat} {byte : UInt8} {rest : List UInt8} {text : List Char}
    (read : decodeFrom position none (byte :: rest) = .ok text) :
    ∃ bytes value after, Sequence bytes value ∧ byte :: rest = bytes ++ after := by
  by_cases narrow : byte < 0x80
  · exact ⟨[byte], _, rest, .one ((narrow_iff byte).mp narrow) rfl, rfl⟩
  by_cases none : byte.toNat < 0xC2 ∨ 0xF5 ≤ byte.toNat
  · rw [decodeFrom, if_neg narrow] at read
    simp only [ofLead_eq_none none] at read
    cases read
  by_cases two : byte.toNat < 0xE0
  · have lead : 0xC2 ≤ byte.toNat ∧ byte.toNat < 0xE0 := by omega
    rw [decodeFrom_lead narrow (ofLead_two lead)] at read
    obtain ⟨b, rest, rfl, second⟩ := exists_inside read
    exact ⟨[byte, b], _, rest, .two lead ((inside_iff b).mp second) rfl, rfl⟩
  by_cases three : byte.toNat < 0xF0
  · have lead : 0xE0 ≤ byte.toNat ∧ byte.toNat < 0xF0 := by omega
    rw [decodeFrom_lead narrow (ofLead_three lead)] at read
    obtain ⟨b, rest, rfl, second⟩ := exists_inside read
    rw [decodeFrom_more second] at read
    obtain ⟨c, rest, rfl, third⟩ := exists_inside read
    obtain ⟨tail, wide, scalar⟩ := (second_iff _ _ _ _ _ _ (by decide) (by decide)).mp second
    exact ⟨[byte, b, c], _, rest, .three lead tail ((inside_iff c).mp third) wide scalar rfl, rfl⟩
  · have lead : 0xF0 ≤ byte.toNat ∧ byte.toNat < 0xF5 := by omega
    rw [decodeFrom_lead narrow (ofLead_four lead)] at read
    obtain ⟨b, rest, rfl, second⟩ := exists_inside read
    rw [decodeFrom_more second] at read
    obtain ⟨c, rest, rfl, third⟩ := exists_inside read
    rw [decodeFrom_more third] at read
    obtain ⟨d, rest, rfl, fourth⟩ := exists_inside read
    obtain ⟨tail, wide, scalar⟩ := (second_iff _ _ _ _ _ _ (by decide) (by decide)).mp second
    exact ⟨[byte, b, c, d], _, rest, .four lead tail ((inside_iff c).mp third)
      ((inside_iff d).mp fourth) wide scalar rfl, rfl⟩

/-! ### Whole texts -/

theorem encode_cons (c : Char) (text : List Char) :
    encode (c :: text) = String.utf8EncodeChar c ++ encode text := List.flatMap_cons

theorem decodeFrom_encode (text : List Char) (position : Nat) (rest : List UInt8) :
    decodeFrom position none (encode text ++ rest) =
      (decodeFrom (position + (encode text).length) none rest).map (text ++ ·) := by
  induction text generalizing position with
  | nil =>
    change decodeFrom position none rest = (decodeFrom position none rest).map id
    cases decodeFrom position none rest <;> rfl
  | cons c text ih =>
    rw [encode_cons, List.append_assoc, decodeFrom_sequence (sequence_encodeChar c), ih,
      Char.ofNat_toNat, List.length_append, Nat.add_assoc]
    generalize decodeFrom _ none rest = result
    cases result <;> rfl

theorem encode_of_decodeFrom {position : Nat} {bytes : List UInt8} {text : List Char}
    (read : decodeFrom position none bytes = .ok text) : bytes = encode text := by
  match bytes with
  | [] =>
    cases read
    rfl
  | byte :: rest =>
    obtain ⟨first, value, after, sequence, split⟩ := exists_sequence read
    have shorter : after.length < (byte :: rest).length := by
      have nonempty := sequence.length_pos
      rw [split, List.length_append]
      omega
    rw [split, decodeFrom_sequence sequence] at read
    cases more : decodeFrom (position + first.length) none after with
    | error fault =>
      rw [more] at read
      cases read
    | ok tail =>
      rw [more] at read
      cases read
      rw [split, encode_of_decodeFrom more, encode_cons, sequence.encodeChar]
termination_by bytes.length
decreasing_by exact shorter

/-- Exactly the encoded texts are accepted. -/
theorem decode_eq_ok_iff (bytes : List UInt8) (text : List Char) :
    decode bytes = .ok text ↔ bytes = encode text := by
  constructor
  · exact encode_of_decodeFrom
  · rintro rfl
    have read := decodeFrom_encode text 0 []
    rw [List.append_nil, decodeFrom] at read
    rw [decode, read, Except.map, List.append_nil]

/-- Bytes that read as text, cut where the front reads as text too. -/
theorem exists_append_of_decode {before after : List UInt8} {text front : List Char}
    (read : decode (before ++ after) = .ok text) (cut : decode before = .ok front) :
    ∃ back, text = front ++ back := by
  rw [decode, (decode_eq_ok_iff before front).mp cut, decodeFrom_encode] at read
  cases more : decodeFrom (0 + (encode front).length) none after with
  | error fault =>
    rw [more] at read
    cases read
  | ok back =>
    rw [more] at read
    cases read
    exact ⟨back, rfl⟩

/-! ### Parts of a text -/

/-- A character begins at this byte, or the text ends there. -/
def IsBoundary (text : List Char) (position : Nat) : Prop :=
  ∃ before after, text = before ++ after ∧ (encode before).length = position

/-- From the byte `start` up to the byte `stop` the text reads `part`. -/
def Slice (text : List Char) (start stop : Nat) (part : List Char) : Prop :=
  ∃ before after, text = before ++ part ++ after ∧ (encode before).length = start ∧
    (encode (before ++ part)).length = stop

theorem isBoundary_iff (text : List Char) (position : Nat) :
    IsBoundary text position ↔
      ∃ count < text.length + 1, (encode (text.take count)).length = position := by
  constructor
  · rintro ⟨before, after, rfl, place⟩
    refine ⟨before.length, ?_, by rw [List.take_left, place]⟩
    rw [List.length_append]
    omega
  · rintro ⟨count, _, place⟩
    exact ⟨text.take count, text.drop count, (List.take_append_drop count text).symm, place⟩

instance (text : List Char) (position : Nat) : Decidable (IsBoundary text position) :=
  decidable_of_iff _ (isBoundary_iff text position).symm

theorem encode_eq_nil_iff (text : List Char) : encode text = [] ↔ text = [] := by
  constructor
  · intro empty
    have read := (decode_eq_ok_iff (encode text) text).mpr rfl
    rw [empty] at read
    cases read
    rfl
  · rintro rfl
    rfl

/-- Between two boundaries stands a part of the text. -/
theorem exists_slice {text : List Char} {start stop : Nat} (first : IsBoundary text start)
    (last : IsBoundary text stop) (ordered : start ≤ stop) :
    ∃ part, Slice text start stop part := by
  obtain ⟨before, more, rfl, place⟩ := first
  obtain ⟨upTo, after, same, limit⟩ := last
  rcases List.append_eq_append_iff.mp same with ⟨part, longer, rest⟩ | ⟨part, longer, rest⟩
  · exact ⟨part, before, after, by rw [rest, List.append_assoc], place, by rw [← longer, limit]⟩
  · -- The boundaries can only be the other way round if they are one.
    have none : part = [] := by
      rw [← encode_eq_nil_iff, ← List.length_eq_zero_iff]
      rw [longer, encode_append, List.length_append] at place
      omega
    subst none
    exact ⟨[], before, more, by rw [List.append_nil], place, by simpa [longer] using limit⟩

theorem Slice.bytes {text part : List Char} {start stop : Nat}
    (slice : Slice text start stop part) :
    ((encode text).drop start).take (stop - start) = encode part := by
  obtain ⟨before, after, rfl, rfl, rfl⟩ := slice
  rw [encode_append (before ++ part), encode_append before part, List.length_append,
    Nat.add_sub_cancel_left, List.append_assoc, List.drop_left, List.take_left]

/-- A slice can be read, and reads as the part of the text that it is. -/
theorem Slice.decodeString {text part : List Char} {start stop : Nat}
    (slice : Slice text start stop part) :
    decodeString (((encode text).drop start).take (stop - start)) = .ok (.ofList part) := by
  rw [slice.bytes, Utf8.decodeString, (decode_eq_ok_iff _ part).mpr rfl]
  rfl

end DeclMerge.Utf8
