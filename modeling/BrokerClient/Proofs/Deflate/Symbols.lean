import BrokerClient.Deflate.Compress
import BrokerClient.Proofs.Deflate.Bits

/-!
# Tokens read back

A canonical code gives a string to every symbol that has a length, and where its tree leads each string to
its own symbol, reading gives back the symbol that was written. That the two fixed codes are such is a check
of all their strings. Behind a symbol of a table stand the bits of a number within its row (`placeFrom_spec`),
so that `yields_token` holds: what is written for a token reads as that token.
-/

namespace BrokerClient.Deflate

/-! ## Strings of symbols -/

theorem mem_assignFrom {symbols : List Nat} {n : Nat} (h : n ∈ symbols) (length first : Nat) :
    ∃ string, (n, string) ∈ assignFrom length first symbols := by
  induction symbols generalizing first with
  | nil => cases h
  | cons symbol rest ih =>
    rcases List.mem_cons.1 h with rfl | h
    · exact ⟨_, List.mem_cons_self ..⟩
    · obtain ⟨string, hs⟩ := ih h (first + 1)
      exact ⟨string, List.mem_cons_of_mem _ hs⟩

theorem mem_symbolsOf {lengths : Lengths} {n length : Nat} (h : lengths[n]? = some length) :
    n ∈ symbolsOf lengths length := by
  simp only [symbolsOf, List.mem_map, List.mem_filter, beq_iff_eq]
  exact ⟨(length, n), ⟨List.mem_zipIdx_iff_getElem?.2 (by simpa using h), rfl⟩, rfl⟩

theorem mem_canonicalFrom {lengths : Lengths} {n length : Nat} (h : lengths[n]? = some length) (count start first : Nat)
    (hs : start ≤ length) (hc : length < start + count) :
    ∃ string, (n, string) ∈ canonicalFrom lengths count start first := by
  induction count generalizing start first with
  | zero => omega
  | succ count ih =>
    simp only [canonicalFrom, List.mem_append]
    by_cases he : start = length
    · subst he
      obtain ⟨string, hm⟩ := mem_assignFrom (mem_symbolsOf h) start first
      exact ⟨string, .inl hm⟩
    · obtain ⟨string, hm⟩ := ih (start + 1) _ (by omega) (by omega)
      exact ⟨string, .inr hm⟩

/-- The string in the table of a code is one that the code gives to the symbol. -/
theorem mem_codeTable {lengths : Lengths} {n length : Nat} (h : lengths[n]? = some length) (hpos : 0 < length)
    (hmax : length ≤ maxLength) : (n, (codeTable lengths).getD n []) ∈ canonical lengths := by
  have hn : n < lengths.length := (List.getElem?_eq_some_iff.1 h).1
  obtain ⟨string, hm⟩ := mem_canonicalFrom h maxLength 1 0 hpos (by omega)
  have hget : (codeTable lengths).getD n [] = ((canonical lengths).lookup n).getD [] := by
    simp [codeTable, hn]
  rw [hget]
  cases hl : (canonical lengths).lookup n with
  | none =>
    have := List.lookup_eq_none_iff.1 hl _ hm
    simp at this
  | some found =>
    obtain ⟨l₁, l₂, heq, -⟩ := List.lookup_eq_some_iff.1 hl
    rw [heq]
    exact List.mem_append_right _ (List.mem_cons_self ..)

/-! ## Trees -/

namespace Tree

/-- Where a string of bits leads. -/
def walk : Tree → List Bool → Tree
  | t, [] => t
  | .node zero _, false :: bits => zero.walk bits
  | .node _ one, true :: bits => one.walk bits
  | .leaf _, _ :: _ | .empty, _ :: _ => .empty

def symbol? : Tree → Option Nat
  | .leaf n => some n
  | .empty | .node _ _ => none

/-- Every string of the code leads to its own symbol, and none is empty. -/
def Inverts (lengths : Lengths) : Prop :=
  ∀ a ∈ canonical lengths, a.2 ≠ [] ∧ ((ofLengths lengths).walk a.2).symbol? = some a.1

instance decidableInverts (lengths : Lengths) : Decidable (Inverts lengths) :=
  inferInstanceAs (Decidable (∀ a ∈ canonical lengths, _ ∧ _))

theorem yields_symbol {t : Tree} {string : List Bool} {n : Nat} (h : (t.walk string).symbol? = some n) :
    Scan.Yields (symbol t) string n := by
  intro s rest hs hb
  induction string generalizing t s with
  | nil =>
    cases t with
    | leaf m => cases h; exact ⟨s, rfl, hs, hb⟩
    | empty | node _ _ => cases h
  | cons bit string ih =>
    cases t with
    | leaf _ | empty => cases bit <;> cases h
    | node zero one =>
      obtain ⟨s₁, h₁, ht₁, hb₁⟩ := s.next?_of_toBits hs hb
      cases bit with
      | false =>
        obtain ⟨s₂, h₂, hr⟩ := ih (t := zero) h s₁ ht₁ hb₁
        exact ⟨s₂, by simpa only [symbol, decode, h₁] using h₂, hr⟩
      | true =>
        obtain ⟨s₂, h₂, hr⟩ := ih (t := one) h s₁ ht₁ hb₁
        exact ⟨s₂, by simpa only [symbol, decode, h₁] using h₂, hr⟩

end Tree

/-- What the table of a code says for a symbol is read as that symbol. -/
theorem yields_codeTable {lengths : Lengths} (hi : Tree.Inverts lengths)
    (hall : ∀ length ∈ lengths, 0 < length ∧ length ≤ maxLength) {n : Nat} (hn : n < lengths.length) :
    (codeTable lengths).getD n [] ≠ [] ∧
      Scan.Yields (symbol (Tree.ofLengths lengths)) ((codeTable lengths).getD n []) n := by
  obtain ⟨hpos, hmax⟩ := hall _ (List.getElem_mem hn)
  obtain ⟨hne, hw⟩ := hi _ (mem_codeTable (List.getElem?_eq_getElem hn) hpos hmax)
  exact ⟨hne, Tree.yields_symbol hw⟩

theorem inverts_fixedLiterals : Tree.Inverts fixedLiteralLengths := by decide +kernel

theorem inverts_fixedDistances : Tree.Inverts fixedDistanceLengths := by decide +kernel

theorem length_fixedLiteralLengths : fixedLiteralLengths.length = 288 := by decide +kernel

theorem length_fixedDistanceLengths : fixedDistanceLengths.length = 32 := by decide +kernel

theorem literals_fixedCodes : fixedCodes.literals = Tree.ofLengths fixedLiteralLengths := by rw [fixedCodes]

theorem distances_fixedCodes : fixedCodes.distances = Tree.ofLengths fixedDistanceLengths := by rw [fixedCodes]

theorem yields_literal {n : Nat} (h : n < 288) :
    fixedLiterals.getD n [] ≠ [] ∧ Scan.Yields (symbol fixedCodes.literals) (fixedLiterals.getD n []) n := by
  rw [literals_fixedCodes]
  exact yields_codeTable inverts_fixedLiterals (by decide +kernel) (by rwa [length_fixedLiteralLengths])

theorem yields_distance {n : Nat} (h : n < 32) :
    fixedDistances.getD n [] ≠ [] ∧ Scan.Yields (symbol fixedCodes.distances) (fixedDistances.getD n []) n := by
  rw [distances_fixedCodes]
  exact yields_codeTable inverts_fixedDistances (by decide +kernel) (by rwa [length_fixedDistanceLengths])

/-! ## Rows -/

/-- The rows leave no gap below a limit. -/
def Gapless (limit : Nat) : List Row → Prop
  | [] => True
  | [row] => limit ≤ row.base + 2 ^ row.extra
  | row :: row' :: rest => row'.base ≤ row.base + 2 ^ row.extra ∧ Gapless limit (row' :: rest)

instance decidableGapless (limit : Nat) : (rows : List Row) → Decidable (Gapless limit rows)
  | [] => isTrue trivial
  | [row] => inferInstanceAs (Decidable (limit ≤ row.base + 2 ^ row.extra))
  | row :: row' :: rest =>
    have := decidableGapless limit (row' :: rest)
    inferInstanceAs (Decidable (row'.base ≤ row.base + 2 ^ row.extra ∧ Gapless limit (row' :: rest)))

/-- A number below the limit is within the row where it is placed. -/
theorem placeFrom_spec {limit n : Nat} (hn : n < limit) (row : Row) (rows : List Row) (start : Nat)
    (found : Option Place) (hg : Gapless limit (row :: rows)) (hr : row.base ≤ n) :
    ∃ i found', placeFrom n start (row :: rows) found = some ⟨start + i, found'.extra, n - found'.base⟩ ∧
      (row :: rows)[i]? = some found' ∧ found'.base ≤ n ∧ n < found'.base + 2 ^ found'.extra := by
  induction rows generalizing row start found with
  | nil =>
    refine ⟨0, row, ?_, rfl, hr, ?_⟩
    · simp only [placeFrom, if_pos hr, Nat.add_zero]
    · exact Nat.lt_of_lt_of_le hn hg
  | cons next rest ih =>
    by_cases hnext : next.base ≤ n
    · obtain ⟨i, found', hp, hi, hb⟩ := ih next (start + 1) (some ⟨start, row.extra, n - row.base⟩) hg.2 hnext
      refine ⟨i + 1, found', ?_, hi, hb⟩
      rw [placeFrom, if_pos hr, hp, Nat.add_right_comm, Nat.add_assoc]
    · refine ⟨0, row, ?_, rfl, hr, Nat.lt_of_lt_of_le (Nat.lt_of_not_le hnext) hg.1⟩
      simp only [placeFrom, if_pos hr, if_neg hnext, Nat.add_zero]

/-- Reading what is written for a number: first the symbol of its row, then its place in it. -/
theorem yields_ranged (rows : List Row) (limit first : Nat) {strings : Array (List Bool)} {n : Nat} {t : Tree}
    (hsym : ∀ i < rows.length,
      strings.getD (first + i) [] ≠ [] ∧ Scan.Yields (symbol t) (strings.getD (first + i) []) (first + i))
    (hg : Gapless limit rows) (hn : n < limit) (hne : rows ≠ []) (hfirst : (rows.head hne).base ≤ n) :
    ∃ i string extra, rangedBits strings first rows n = string ++ extra ∧ string ≠ [] ∧
      Scan.Yields (symbol t) string (first + i) ∧ Scan.Yields (ranged rows i) extra n := by
  obtain ⟨row, rest, rfl⟩ := List.exists_cons_of_ne_nil hne
  obtain ⟨i, found, hp, hi, hb, hlt⟩ := placeFrom_spec hn row rest 0 none hg hfirst
  have hlen : i < (row :: rest).length := (List.getElem?_eq_some_iff.1 hi).1
  refine ⟨i, _, bitsOf found.extra (n - found.base), ?_, (hsym i hlen).1, (hsym i hlen).2, ?_⟩
  · rw [Nat.zero_add] at hp
    simp only [rangedBits, place?, hp]
  · have hrow := (yields_bits (show n - found.base < 2 ^ found.extra by omega)).map (found.base + ·)
    rw [Nat.add_sub_cancel' hb] at hrow
    simpa only [ranged, hi] using hrow

/-! ## Tokens -/

/-- A copy must be of a length and from a distance that there are symbols for. -/
def Token.Valid : Token → Prop
  | .literal _ => True
  | .copy length distance => 3 ≤ length ∧ length ≤ maxCopy ∧ 1 ≤ distance ∧ distance ≤ maxDistance

theorem yields_length {length : Nat} (hmin : 3 ≤ length) (hmax : length ≤ maxCopy) :
    ∃ i string extra,
      rangedBits fixedLiterals (endOfBlock + 1) lengthRows length = string ++ extra ∧ string ≠ [] ∧
      Scan.Yields (symbol fixedCodes.literals) string (endOfBlock + 1 + i) ∧
      Scan.Yields (ranged lengthRows i) extra length := by
  refine yields_ranged lengthRows (maxCopy + 1) (endOfBlock + 1) (fun i hi => yields_literal ?_) (by decide)
    (Nat.lt_succ_of_le hmax) (by decide) hmin
  have hi' : i < 29 := hi
  have : endOfBlock = 256 := rfl
  omega

theorem yields_backwards {distance : Nat} (hmin : 1 ≤ distance) (hmax : distance ≤ maxDistance) :
    ∃ i string extra, rangedBits fixedDistances 0 distanceRows distance = string ++ extra ∧ string ≠ [] ∧
      Scan.Yields (symbol fixedCodes.distances) string (0 + i) ∧
      Scan.Yields (ranged distanceRows i) extra distance := by
  refine yields_ranged distanceRows (maxDistance + 1) 0 (fun i hi => yields_distance ?_) (by decide)
    (Nat.lt_succ_of_le hmax) (by decide) hmin
  have hi' : i < 30 := hi
  omega

theorem yields_byte (b : UInt8) :
    (Token.literal b).toBits ≠ [] ∧ Scan.Yields (token fixedCodes) (Token.literal b).toBits (some (.literal b)) := by
  have hb : b.toNat < endOfBlock := b.toNat_lt
  obtain ⟨hne, hsym⟩ := yields_literal (Nat.lt_trans hb (by decide))
  refine ⟨hne, ?_⟩
  rw [← List.append_nil (Token.literal b).toBits, token]
  refine hsym.bind ?_
  rw [if_pos hb, Nat.toUInt8_eq, UInt8.ofNat_toNat]
  exact .pure _

theorem yields_endOfBlock : Scan.Yields (token fixedCodes) (fixedLiterals.getD endOfBlock []) none := by
  have hsym := (yields_literal (n := endOfBlock) (by decide)).2
  rw [← List.append_nil (fixedLiterals.getD endOfBlock []), token]
  refine hsym.bind ?_
  rw [if_neg (Nat.lt_irrefl _), if_pos rfl]
  exact .pure _

theorem yields_copy {length distance : Nat} (h : (Token.copy length distance).Valid) :
    (Token.copy length distance).toBits ≠ [] ∧
      Scan.Yields (token fixedCodes) (Token.copy length distance).toBits (some (.copy length distance)) := by
  obtain ⟨hmin, hmax, hnear, hfar⟩ := h
  obtain ⟨i, string, extra, hbits, hne, hsym, hrow⟩ := yields_length hmin hmax
  obtain ⟨j, string', extra', hbits', -, hsym', hrow'⟩ := yields_backwards hnear hfar
  rw [Nat.zero_add] at hsym'
  rw [Token.toBits, hbits, hbits', List.append_assoc]
  refine ⟨List.append_ne_nil_of_left_ne_nil hne _, ?_⟩
  rw [← List.append_nil extra', token]
  refine hsym.bind ?_
  rw [if_neg (by omega), if_neg (by omega), show endOfBlock + 1 + i - endOfBlock - 1 = i by omega]
  exact hrow.bind (hsym'.bind (hrow'.bind (.pure _)))

/-- **A token reads as it was written**, and takes at least one bit. -/
theorem yields_token {t : Token} (h : t.Valid) : t.toBits ≠ [] ∧ Scan.Yields (token fixedCodes) t.toBits (some t) := by
  cases t with
  | literal b => exact yields_byte b
  | copy length distance => exact yields_copy h

end BrokerClient.Deflate
