import BrokerClient.Proofs.Deflate.Matching

/-!
# Runs of one byte, and two bytes

Nothing compresses better than one byte over and over: the compressor says the byte once and copies the rest of the
run from it, in one token as long as the run is no longer than a copy may be (`say_repeated`). Two bytes are too few to
be copied from anywhere (`say_pair`).
-/

namespace BrokerClient.Deflate

/-- A byte, so many times. -/
def repeated (b : UInt8) (n : Nat) : Array UInt8 := Array.replicate n b

variable {b : UInt8} {n : Nat}

theorem size_repeated : (repeated b n).size = n := Array.size_replicate

theorem getD_repeated {i : Nat} (h : i < n) : (repeated b n).getD i 0 = b := by
  simp [repeated, Array.getD, h]

theorem agreement_repeated {limit i j : Nat} (h : i < j) : agreement (repeated b n) i j limit = min limit (n - j) := by
  induction limit generalizing i j with
  | zero => simp [agreement]
  | succ limit ih =>
    unfold agreement
    rw [size_repeated]
    by_cases hj : j < n
    · rw [getD_repeated (by omega), getD_repeated hj, if_pos ⟨hj, rfl⟩, ih (by omega)]
      omega
    · rw [if_neg (by omega)]
      omega

theorem groupAt_repeated {i j : Nat} (hi : i + 2 < n) (hj : j + 2 < n) :
    groupAt (repeated b n) i = groupAt (repeated b n) j := by
  unfold groupAt
  rw [getD_repeated hi, getD_repeated (by omega : i + 1 < n), getD_repeated (by omega : i < n)]
  rw [getD_repeated hj, getD_repeated (by omega : j + 1 < n), getD_repeated (by omega : j < n)]

/-- Where no place is known, a byte is said by itself. -/
theorem tokenAt_empty (data : Array UInt8) (i : Nat) : tokenAt data {} i = .literal (data.getD i 0) := by
  have hnone : ({} : Places).get? (groupAt data i) = none := by
    rw [Std.HashMap.get?_eq_getElem?, Std.HashMap.getElem?_empty]
  rw [tokenAt, copyAt?, hnone, Option.getD_none]

theorem tokenAt_repeated_zero (h : 0 < n) : tokenAt (repeated b n) {} 0 = .literal b := by
  rw [tokenAt_empty, getD_repeated h]

/-- Behind its first byte, the rest of a run is a copy from one back. -/
theorem tokenAt_repeated_one (hmin : 3 ≤ n) (hmax : n ≤ maxCopy) :
    tokenAt (repeated b (n + 1)) (remember (repeated b (n + 1)) 1 0 {}) 1 = .copy n 1 := by
  have hseen : remember (repeated b (n + 1)) 1 0 {} = ({} : Places).insert (groupAt (repeated b (n + 1)) 0) 0 := by
    simp only [remember, size_repeated]
    rw [if_pos (by omega)]
  have hgroup : groupAt (repeated b (n + 1)) 1 = groupAt (repeated b (n + 1)) 0 :=
    groupAt_repeated (by omega) (by omega)
  have hlength : agreement (repeated b (n + 1)) 0 1 maxCopy = n := by
    rw [agreement_repeated Nat.one_pos]
    omega
  have hdistance : (1 : Nat) - 0 ≤ maxDistance := by decide
  rw [tokenAt, copyAt?, hseen, hgroup, Std.HashMap.get?_eq_getElem?, Std.HashMap.getElem?_insert_self]
  simp only [hlength]
  rw [if_pos ⟨Nat.one_pos, hdistance, hmin⟩, Option.getD_some]

theorem tokensFrom_step {data : Array UInt8} {fuel i : Nat} {places : Places} {said : List Token} {t : Token}
    (hi : i < data.size) (ht : tokenAt data places i = t) : tokensFrom data (fuel + 1) i places said =
      tokensFrom data fuel (i + t.size) (remember data t.size i places) (t :: said) := by
  subst ht
  rw [tokensFrom, if_pos hi]

theorem tokensFrom_end {data : Array UInt8} {fuel i : Nat} {places : Places} {said : List Token}
    (hi : data.size ≤ i) : tokensFrom data fuel i places said = (said, places) := by
  cases fuel with
  | zero => rfl
  | succ fuel => rw [tokensFrom, if_neg (Nat.not_lt.2 hi)]

/-- What a new compressor says of some bytes. -/
theorem say_push (bytes : Bytes) : (({} : Compressor).push bytes).say.1 =
    (tokensFrom bytes.toArray bytes.length 0 {} []).1.reverse := by
  have hdata : (({} : Compressor).push bytes).data = bytes.toArray := by simp [Compressor.data_push]
  have hsay (c : Compressor) : c.say.1 = (tokensFrom c.data (c.data.size - c.said) c.said c.places []).1.reverse := rfl
  rw [hsay, hdata]
  rfl

/-- A run is said in two tokens. -/
theorem say_repeated (hmin : 3 ≤ n) (hmax : n ≤ maxCopy) :
    (({} : Compressor).push (List.replicate (n + 1) b)).say.1 = [.literal b, .copy n 1] := by
  have hdata : (List.replicate (n + 1) b).toArray = repeated b (n + 1) := List.toArray_replicate ..
  have htokens : (tokensFrom (repeated b (n + 1)) (n + 1) 0 {} []).1 = [.copy n 1, .literal b] := by
    obtain ⟨fuel, rfl⟩ : ∃ fuel, n = fuel + 1 := ⟨n - 1, by omega⟩
    have hliteral : (Token.literal b).size = 1 := rfl
    have hcopy : (Token.copy (fuel + 1) 1).size = fuel + 1 := rfl
    have hfirst : 0 < (repeated b (fuel + 1 + 1)).size := by rw [size_repeated]; omega
    have hsecond : 1 < (repeated b (fuel + 1 + 1)).size := by rw [size_repeated]; omega
    have hend : (repeated b (fuel + 1 + 1)).size ≤ 1 + (fuel + 1) := by rw [size_repeated]; omega
    rw [tokensFrom_step hfirst (tokenAt_repeated_zero (by omega)), hliteral, Nat.zero_add,
      tokensFrom_step hsecond (tokenAt_repeated_one hmin hmax), hcopy, tokensFrom_end hend]
  rw [say_push, hdata, List.length_replicate, htokens]
  rfl

/-- Two bytes are said one by one. -/
theorem say_pair (a b : UInt8) : (({} : Compressor).push [a, b]).say.1 = [.literal a, .literal b] := by
  have hfirst : tokenAt #[a, b] {} 0 = .literal a := tokenAt_empty ..
  have hsecond : tokenAt #[a, b] {} 1 = .literal b := tokenAt_empty ..
  have hplaces (i : Nat) : remember #[a, b] 1 i {} = {} := by
    rw [remember, remember, if_neg (by simp)]
  have hliteral (b : UInt8) : (Token.literal b).size = 1 := rfl
  have htokens : (tokensFrom #[a, b] 2 0 {} []).1 = [.literal b, .literal a] := by
    rw [tokensFrom_step (by simp) hfirst, hliteral, hplaces, tokensFrom_step (by simp) hsecond, hliteral, hplaces]
    rfl
  rw [say_push]
  exact congrArg List.reverse htokens

end BrokerClient.Deflate
