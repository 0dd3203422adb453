import BrokerClient.Text.Utf8

/-!
# Text read back

A text written as bytes is read as the same text (`toString?_ofString`). Reading takes a byte at a time, so the
proof follows one character through its bytes: the first of them opens a sequence whose range the second one
must lie in, and that is where the shortest form, the surrogates and the greatest character come in.
-/

namespace BrokerClient.Text.Utf8

/-! ## One byte -/

variable {n value low high bits taken owed : Nat}

theorem toNat_toUInt8 (h : n < 256) : n.toUInt8.toNat = n := by
  rw [Nat.toUInt8_eq, UInt8.toNat_ofNat', Nat.mod_eq_of_lt h]

theorem next_whole (found : List Piece) {c : Char} (hn : n < 256) (h : start n = .whole c) :
    Scan.next ⟨found, none⟩ n.toUInt8 = ⟨.char c :: found, none⟩ := by
  simp only [Scan.next, step, stepStart, toNat_toUInt8 hn, h]
  rfl

theorem next_opens (found : List Piece) {p : Partial} (hn : n < 256) (h : start n = .opens p) :
    Scan.next ⟨found, none⟩ n.toUInt8 = ⟨found, some p⟩ := by
  simp only [Scan.next, step, stepStart, toNat_toUInt8 hn, h]
  rfl

theorem next_continues (found : List Piece) (hv : value < 64) (hlow : low ≤ 0x80 + value)
    (hhigh : 0x80 + value ≤ high) :
    Scan.next ⟨found, some ⟨owed + 2, low, high, bits, taken⟩⟩ (0x80 + value).toUInt8 =
      ⟨found, some ⟨owed + 1, 0x80, 0xBF, bits * 64 + value, taken + 1⟩⟩ := by
  have howed : ¬ owed + 2 ≤ 1 := by omega
  simp only [Scan.next, step, toNat_toUInt8 (show 0x80 + value < 256 by omega), if_pos (And.intro hlow hhigh),
    if_neg howed, Nat.add_sub_cancel_left]
  rfl

theorem next_completes (found : List Piece) (hv : value < 64) (hlow : low ≤ 0x80 + value)
    (hhigh : 0x80 + value ≤ high) :
    Scan.next ⟨found, some ⟨1, low, high, bits, taken⟩⟩ (0x80 + value).toUInt8 =
      ⟨.char (Char.ofNat (bits * 64 + value)) :: found, none⟩ := by
  simp only [Scan.next, step, toNat_toUInt8 (show 0x80 + value < 256 by omega), if_pos (And.intro hlow hhigh),
    if_pos (Nat.le_refl 1), Nat.add_sub_cancel_left]
  rfl

/-! ## The first byte of a character -/

theorem start_two (h : 0x80 ≤ n) (hn : n < 0x800) :
    start (0xC0 + n / 64) = .opens ⟨1, 0x80, 0xBF, n / 64, 1⟩ := by
  rw [start, if_neg (by omega), if_neg (by omega), if_pos (by omega), Nat.add_sub_cancel_left]

/-- The second byte lies in the range that the first one of three leaves: longer than a shorter form, and not a
surrogate. -/
theorem start_three (h : 0x800 ≤ n) (hn : n < 0x10000) (hs : n < 0xD800 ∨ 0xDFFF < n) :
    ∃ low high, start (0xE0 + n / 4096) = .opens ⟨2, low, high, n / 4096, 1⟩ ∧ low ≤ 0x80 + n / 64 % 64 ∧
      0x80 + n / 64 % 64 ≤ high := by
  rw [start, if_neg (by omega), if_neg (by omega), if_neg (by omega)]
  by_cases hfirst : n / 4096 = 0
  · exact ⟨0xA0, 0xBF, by rw [if_pos (by omega), hfirst], by omega, by omega⟩
  by_cases hsurrogate : n / 4096 = 13
  · exact ⟨0x80, 0x9F, by rw [if_neg (by omega), if_pos (by omega), hsurrogate], by omega, by omega⟩
  · refine ⟨0x80, 0xBF, ?_, by omega, by omega⟩
    rw [if_neg (by omega), if_neg (by omega), if_pos (by omega), Nat.add_sub_cancel_left]

/-- The second byte lies in the range that the first one of four leaves: longer than a shorter form, and no
greater than the greatest character. -/
theorem start_four (h : 0x10000 ≤ n) (hn : n < 0x110000) :
    ∃ low high, start (0xF0 + n / 262144) = .opens ⟨3, low, high, n / 262144, 1⟩ ∧ low ≤ 0x80 + n / 4096 % 64 ∧
      0x80 + n / 4096 % 64 ≤ high := by
  rw [start, if_neg (by omega), if_neg (by omega), if_neg (by omega), if_neg (by omega), if_neg (by omega),
    if_neg (by omega)]
  by_cases hfirst : n / 262144 = 0
  · exact ⟨0x90, 0xBF, by rw [if_pos (by omega), hfirst], by omega, by omega⟩
  by_cases hlast : n / 262144 = 4
  · exact ⟨0x80, 0x8F, by rw [if_neg (by omega), if_neg (by omega), if_pos (by omega), hlast], by omega, by omega⟩
  · refine ⟨0x80, 0xBF, ?_, by omega, by omega⟩
    rw [if_neg (by omega), if_pos (by omega), Nat.add_sub_cancel_left]

/-! ## Characters and texts -/

theorem ofString_append (s t : String) : ofString (s ++ t) = ofString s ++ ofString t := by
  rw [ofString, String.toList_append, encode_append]
  rfl

/-- The bytes of a character between sequences are read as this character. -/
theorem scan_encodeChar (c : Char) (found : List Piece) :
    (encodeChar c).foldl Scan.next ⟨found, none⟩ = ⟨.char c :: found, none⟩ := by
  have hvalid : c.toNat < 0xD800 ∨ 0xDFFF < c.toNat ∧ c.toNat < 0x110000 := c.valid
  have hchar : Char.ofNat c.toNat = c := Char.ofNat_toNat c
  generalize hn : c.toNat = n at hvalid hchar
  have hlast : n % 64 < 64 := Nat.mod_lt _ (by decide)
  have htail : 0x80 + n % 64 ≤ 0xBF := by omega
  have hsecond : n / 64 % 64 < 64 := Nat.mod_lt _ (by decide)
  simp only [encodeChar, hn]
  by_cases h₁ : n < 0x80
  · have hstart : start n = .whole (Char.ofNat n) := by rw [start, if_pos h₁]
    rw [if_pos h₁, List.foldl_cons, next_whole found (by omega) hstart, hchar, List.foldl_nil]
  by_cases h₂ : n < 0x800
  · rw [if_neg h₁, if_pos h₂]
    simp only [List.foldl_cons, List.foldl_nil]
    rw [next_opens found (by omega) (start_two (by omega) h₂),
      next_completes found hlast (Nat.le_add_right ..) htail, show n / 64 * 64 + n % 64 = n by omega, hchar]
  by_cases h₃ : n < 0x10000
  · obtain ⟨low, high, hstart, hlow, hhigh⟩ := start_three (by omega) h₃ (by omega)
    rw [if_neg h₁, if_neg h₂, if_pos h₃]
    simp only [List.foldl_cons, List.foldl_nil]
    rw [next_opens found (by omega) hstart, next_continues found hsecond hlow hhigh,
      next_completes found hlast (Nat.le_add_right ..) htail,
      show (n / 4096 * 64 + n / 64 % 64) * 64 + n % 64 = n by omega, hchar]
  · obtain ⟨low, high, hstart, hlow, hhigh⟩ := start_four (show 0x10000 ≤ n by omega) (by omega)
    rw [if_neg h₁, if_neg h₂, if_neg h₃]
    simp only [List.foldl_cons, List.foldl_nil]
    rw [next_opens found (by omega) hstart, next_continues found (Nat.mod_lt _ (by decide)) hlow hhigh,
      next_continues found hsecond (Nat.le_add_right ..) (show 0x80 + n / 64 % 64 ≤ 0xBF by omega),
      next_completes found hlast (Nat.le_add_right ..) htail,
      show ((n / 262144 * 64 + n / 4096 % 64) * 64 + n / 64 % 64) * 64 + n % 64 = n by omega, hchar]

theorem scan_encode (cs : List Char) (found : List Piece) :
    (encode cs).foldl Scan.next ⟨found, none⟩ = ⟨(cs.map .char).reverse ++ found, none⟩ := by
  induction cs generalizing found with
  | nil => rfl
  | cons c cs ih =>
    rw [encode_cons, List.foldl_append, scan_encodeChar, ih, List.map_cons, List.reverse_cons, List.append_assoc]
    rfl

theorem decode_encode (cs : List Char) : decode (encode cs) = cs.map some := by
  have hscan : scan (encode cs) = ⟨(cs.map Piece.char).reverse, none⟩ := by
    rw [scan, scan_encode, List.append_nil]
  rw [decode, pieces, hscan, List.reverse_reverse, List.map_map]
  rfl

/-- **A text is read back from its bytes.** -/
theorem toString?_ofString (s : String) : toString? (ofString s) = some s := by
  have hall : (s.toList.map some).all Option.isSome = true := by simp
  have hsome : (s.toList.map some).filterMap id = s.toList := by simp [List.filterMap_map]
  rw [toString?, ofString, decode_encode, if_pos hall, hsome, String.ofList_toList]

end BrokerClient.Text.Utf8
