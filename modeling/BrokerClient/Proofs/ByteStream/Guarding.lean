import Mathlib.Data.Seq.Basic
import BrokerClient.Codec.Plain
import BrokerClient.Proofs.ByteStream.Dialogue
import BrokerClient.Proofs.Deflate.Unpacking

/-!
# What a guard hands on up to its first failure

A source `Produces` bytes, in pieces of any size and perhaps without end, if it hands on the next of them whenever it is
asked, and its end or a failure behind them. What a guard over such a source answers to one request is `Relays`: it
passes on what the source says, or it refuses a byte behind its bound. Over any sequence of requests up to the first
failure that gives `Faithful`: what was handed on is a prefix of the bytes, what is left of the bound is the rest of it,
and an end or a failure means what it says. So reading to the end gives the bytes just when they end within the bound
(`delivers_prefix`). The bytes are a possibly endless sequence, since a guard stands between its reader and such sources.
-/

namespace BrokerClient.ByteStream

open Stream' (Seq)

/-! ## Sequences that begin with a list -/

section Sequences

variable {α : Type} {l : List α} {s rest : Seq α}

theorem nil_eq_append_iff : .nil = (Seq.ofList l).append rest ↔ l = [] ∧ rest = .nil := by
  cases l with
  | nil => simp [eq_comm]
  | cons a l => simp [Seq.ofList_cons, Seq.cons_append]

/-- A list that begins with another one goes on with a list. -/
theorem ofList_eq_append_iff {r : List α} :
    Seq.ofList r = (Seq.ofList l).append rest ↔ ∃ r', r = l ++ r' ∧ rest = .ofList r' := by
  induction l generalizing r with
  | nil => simp [eq_comm]
  | cons a l ih =>
    rw [Seq.ofList_cons, Seq.cons_append]
    cases r with
    | nil => simp
    | cons b r => simp [Seq.ofList_cons, Seq.cons_eq_cons, ih, and_assoc]

theorem length_lt_of_append_cons {a : α} (h : s = (Seq.ofList l).append (.cons a rest)) : l.length < s.length' := by
  subst h
  refine Seq.lt_length'_iff.2 ⟨a, ?_⟩
  induction l with
  | nil => simp
  | cons b l ih => simpa [Seq.ofList_cons, Seq.cons_append] using ih

/-- A list of one entry is cut at that one only. -/
theorem singleton_cut {a x : α} {before after : List α} (h : [a] = before ++ x :: after) :
    before = [] ∧ x = a ∧ after = [] := by
  cases before with
  | nil =>
    obtain ⟨rfl, rfl⟩ := List.cons.inj h
    exact ⟨rfl, rfl, rfl⟩
  | cons y before => simp at h

end Sequences

/-! ## Sources that produce bytes -/

/-- An answer of a source that has these bytes left to a request for at least one: the next of them, none only at the
end, or the failure that stands in the place of the end. It may come before all bytes are out, which are lost then.
`Left` holds of what is left. -/
inductive Hands {σ : Type} (Left : σ → Seq UInt8 → Prop) (bytes : Seq UInt8) (fault : Option IoError) :
    Except IoError Bytes × σ → Prop
  | gives {piece : Bytes} {rest : Seq UInt8} {s : σ} (hsplit : bytes = (Seq.ofList piece).append rest)
      (hend : piece = [] → bytes = .nil ∧ fault = none) (hleft : Left s rest) : Hands Left bytes fault (.ok piece, s)
  | fails {e : IoError} {s : σ} (hfault : fault = some e) : Hands Left bytes fault (.error e, s)

section Sources

variable {σ : Type} [ByteSource σ]

/-- The source hands on these bytes, and behind them its end or a failure, after which nothing is known of it. This is
the greatest predicate that leads to itself. -/
def Produces (s : σ) (bytes : Seq UInt8) (fault : Option IoError) : Prop :=
  ∃ Left : σ → Seq UInt8 → Prop, Left s bytes ∧
    ∀ s bytes, Left s bytes → ∀ n, n ≠ 0 → Hands Left bytes fault (read s n)

theorem Produces.hands {s : σ} {bytes : Seq UInt8} {fault : Option IoError} (h : Produces s bytes fault) {n : Nat}
    (hn : n ≠ 0) : Hands (Produces · · fault) bytes fault (ByteStream.read s n) := by
  obtain ⟨Left, hleft, hhands⟩ := h
  have hread := hhands s bytes hleft n hn
  generalize ByteStream.read s n = r at hread ⊢
  cases hread with
  | gives hsplit hend hleft => exact .gives hsplit hend ⟨Left, hleft, hhands⟩
  | fails hfault => exact .fails hfault

/-- A source that owes bytes and perhaps a failure produces them. -/
theorem Owes.produces {s : σ} {bytes : Bytes} {fault : Option Fault} (h : Owes s bytes fault) :
    Produces s (.ofList bytes) (fault.map (·.error)) := by
  refine ⟨fun s rest => ∃ bytes, rest = .ofList bytes ∧ Owes s bytes fault, ⟨bytes, rfl, h⟩, ?_⟩
  rintro s _ ⟨bytes, rfl, h⟩ n hn
  have hpays := h.pays n
  generalize ByteStream.read s n = r at hpays
  cases hpays with
  | gives hsplit hend howes =>
    refine .gives (by rw [hsplit, Seq.ofList_append]) (fun hpiece => ?_) ⟨_, rfl, howes⟩
    obtain ⟨rfl, rfl⟩ := (hend hpiece).resolve_left hn
    exact ⟨Seq.ofList_nil, rfl⟩
  | fails hfault => exact .fails (by rw [hfault]; rfl)

/-! ## One request to a guard -/

variable {s s' : BoundedSource σ} {bytes : Seq UInt8} {fault : Option IoError} {n : Nat}

/-- An answer of a guard over such a source: what the source says to it, or a refusal, for which there is a byte behind
the bound. -/
inductive Relays (s : BoundedSource σ) (bytes : Seq UInt8) (fault : Option IoError) (n : Nat) :
    Except IoError Bytes × BoundedSource σ → Prop
  | gives {piece : Bytes} {rest : Seq UInt8} {inner : σ} (hsplit : bytes = (Seq.ofList piece).append rest)
      (hend : piece = [] → n = 0 ∨ bytes = .nil ∧ fault = none) (hlength : piece.length ≤ s.remaining)
      (hproduces : Produces inner rest fault) :
      Relays s bytes fault n (.ok piece, { s with inner, remaining := s.remaining - piece.length })
  | refuses {b : UInt8} {rest : Seq UInt8} {inner : σ} (hbound : s.remaining = 0) (hsplit : bytes = .cons b rest) :
      Relays s bytes fault n (.error tooLargeSource, { s with inner, overflowed := true })
  | fails {e : IoError} {inner : σ} (hfault : fault = some e) : Relays s bytes fault n (.error e, { s with inner })

theorem Produces.relays (h : Produces s.inner bytes fault) (n : Nat) : Relays s bytes fault n (s.readUpTo n) := by
  by_cases hn : n = 0
  · rw [BoundedSource.readUpTo, if_pos hn]
    exact .gives (Seq.nil_append bytes).symm (fun _ => .inl hn) (Nat.zero_le _) h
  by_cases hr : s.remaining = 0
  · rw [BoundedSource.readUpTo, if_neg hn, if_pos hr, BoundedSource.probe]
    have hhands := h.hands Nat.one_ne_zero
    generalize ByteStream.read s.inner 1 = r at hhands
    cases hhands with
    | @gives piece rest inner hsplit hend hproduces =>
      cases piece with
      | nil => exact .gives hsplit (fun hp => .inr (hend hp)) (Nat.zero_le _) hproduces
      | cons b piece => exact .refuses hr (hsplit.trans (by rw [Seq.ofList_cons, Seq.cons_append]))
    | fails hfault => exact .fails hfault
  · rw [BoundedSource.readUpTo, if_neg hn, if_neg hr, BoundedSource.forward]
    have hmin : min n s.remaining ≠ 0 := by omega
    have hhands := h.hands hmin
    generalize hread : ByteStream.read s.inner (min n s.remaining) = r at hhands
    cases hhands with
    | gives hsplit hend hproduces =>
      have hlength := Nat.le_trans (ByteSource.length_read_le (congrArg Prod.fst hread)) (Nat.min_le_right ..)
      exact .gives hsplit (fun hp => .inr (hend hp)) hlength hproduces
    | fails hfault => exact .fails hfault

/-! ## Requests up to the first failure -/

/-- Requests of these sizes, one after the other, up to the first failure. -/
def Reading.upToFailure : List Nat → Reading Unit
  | [] => .done ()
  | n :: sizes => .read n fun
    | .ok _ => upToFailure sizes
    | .error _ => .done ()

/-- What stands behind the bytes of a source: its end, or a failure. -/
def ending : Option IoError → Except IoError Bytes
  | none => .ok []
  | some e => .error e

/-- What a failure is of which all but `before` is known: the source's own, or else a refusal, which means that as many
bytes as may be are out and that there is another one. Only a refusal sets the flag. -/
def Explains (s s' : BoundedSource σ) (bytes : Seq UInt8) (fault : Option IoError) (before : Bytes) (e : IoError) :
    Prop :=
  fault = some e ∧ s'.overflowed = s.overflowed ∨
    e = tooLargeSource ∧ s'.overflowed = true ∧ before.length = s.remaining ∧
      ∃ b rest, bytes = (Seq.ofList before).append (.cons b rest)

/-- A course of requests from one state of a guard to another one, up to the first failure. -/
structure Faithful (s s' : BoundedSource σ) (bytes : Seq UInt8) (fault : Option IoError) (d : List Exchange) : Prop where
  /-- What is handed on comes first. -/
  isPrefix : ∃ rest, bytes = (Seq.ofList (given d)).append rest
  /-- The bound is counted down by what is handed on, and not further than to zero. -/
  given_add : (given d).length + s'.remaining = s.remaining
  failed : ∀ before x after, d = before ++ x :: after → ∀ e, x.answer = .error e →
    after = [] ∧ Explains s s' bytes fault (given before) e
  /-- An end is the end. -/
  ended : ∀ before x after, d = before ++ x :: after → x.Ended → bytes = .ofList (given before) ∧ fault = none
  /-- Behind all bytes a request meets what stands there. -/
  passed : ∀ before x after, d = before ++ x :: after → bytes = .ofList (given before) → x.asked ≠ 0 →
    x.answer = ending fault

namespace Faithful

variable {inner : σ} {piece : Bytes} {rest : Seq UInt8} {d : List Exchange}

omit [ByteSource σ]

theorem nil : Faithful s s bytes fault [] where
  isPrefix := ⟨bytes, (Seq.nil_append bytes).symm⟩
  given_add := Nat.zero_add _
  failed before x after h := absurd h (by simp)
  ended before x after h := absurd h (by simp)
  passed before x after h := absurd h (by simp)

/-- A course may begin with a piece. -/
theorem cons (hsplit : bytes = (Seq.ofList piece).append rest)
    (hend : piece = [] → n = 0 ∨ bytes = .nil ∧ fault = none)
    (hlength : piece.length ≤ s.remaining)
    (h : Faithful { s with inner, remaining := s.remaining - piece.length } s' rest fault d) :
    Faithful s s' bytes fault (⟨n, .ok piece⟩ :: d) where
  isPrefix := by
    obtain ⟨more, hmore⟩ := h.isPrefix
    exact ⟨more, by rw [hsplit, hmore, given_ok, Seq.ofList_append, Seq.append_assoc]⟩
  given_add := by
    have hadd : (given d).length + s'.remaining = s.remaining - piece.length := h.given_add
    rw [given_ok, List.length_append]
    omega
  failed before x after hd e he := by
    cases before with
    | nil =>
      obtain ⟨rfl, -⟩ := List.cons.inj hd
      cases he
    | cons y before =>
      obtain ⟨rfl, hlater⟩ := List.cons.inj hd
      obtain ⟨hlast, hown | ⟨htoo, hflag, hspent, b, more, hmore⟩⟩ := h.failed before x after hlater e he
      · exact ⟨hlast, .inl hown⟩
      · refine ⟨hlast, .inr ⟨htoo, hflag, ?_, b, more, ?_⟩⟩
        · rw [given_ok, List.length_append, hspent]
          exact Nat.add_sub_cancel' hlength
        · rw [hsplit, hmore, given_ok, Seq.ofList_append, Seq.append_assoc]
  ended before x after hd hx := by
    cases before with
    | nil =>
      obtain ⟨rfl, -⟩ := List.cons.inj hd
      obtain ⟨hn, hanswer⟩ := hx
      exact (hend (Except.ok.inj hanswer)).resolve_left hn
    | cons y before =>
      obtain ⟨rfl, hlater⟩ := List.cons.inj hd
      obtain ⟨hrest, hfault⟩ := h.ended before x after hlater hx
      exact ⟨by rw [hsplit, hrest, given_ok, Seq.ofList_append], hfault⟩
  passed before x after hd hbytes hasked := by
    cases before with
    | nil =>
      obtain ⟨rfl, -⟩ := List.cons.inj hd
      obtain ⟨rfl, -⟩ := nil_eq_append_iff.1 (hbytes.symm.trans hsplit)
      obtain ⟨-, rfl⟩ := (hend rfl).resolve_left hasked
      rfl
    | cons y before =>
      obtain ⟨rfl, hlater⟩ := List.cons.inj hd
      refine h.passed before x after hlater ?_ hasked
      rw [given_ok] at hbytes
      obtain ⟨r, hr, hrest⟩ := ofList_eq_append_iff.1 (hbytes.symm.trans hsplit)
      rw [hrest, List.append_cancel_left hr]

/-- A course may end with a failure. -/
theorem failure {e : IoError} (hexplains : Explains s s' bytes fault [] e) (hremaining : s'.remaining = s.remaining)
    (hpassed : bytes = .nil → fault = some e) : Faithful s s' bytes fault [⟨n, .error e⟩] where
  isPrefix := ⟨bytes, (Seq.nil_append bytes).symm⟩
  given_add := by rw [hremaining]; exact Nat.zero_add _
  failed before x after hd e' he := by
    obtain ⟨rfl, rfl, rfl⟩ := singleton_cut hd
    cases he
    exact ⟨rfl, hexplains⟩
  ended before x after hd hx := by
    obtain ⟨rfl, rfl, rfl⟩ := singleton_cut hd
    cases hx.2
  passed before x after hd hbytes hasked := by
    obtain ⟨rfl, rfl, rfl⟩ := singleton_cut hd
    rw [hpassed hbytes]
    rfl

end Faithful

/-- A guard is faithful over every sequence of requests. -/
theorem Produces.faithful_dialogue (sizes : List Nat) {s : BoundedSource σ} {bytes : Seq UInt8} {fault : Option IoError}
    (h : Produces s.inner bytes fault) :
    Faithful s ((Reading.upToFailure sizes).run s).2 bytes fault ((Reading.upToFailure sizes).dialogue s) := by
  induction sizes generalizing s bytes with
  | nil => exact .nil
  | cons n sizes ih =>
    have hrelays := h.relays n
    rw [Reading.upToFailure, Reading.run, Reading.dialogue, show ByteStream.read s n = s.readUpTo n from rfl]
    generalize s.readUpTo n = r at hrelays
    cases hrelays with
    | gives hsplit hend hlength hproduces => exact .cons hsplit hend hlength (ih hproduces)
    | @refuses b rest inner hbound hsplit =>
      have hexplains : Explains s { s with inner, overflowed := true } bytes fault [] tooLargeSource :=
        .inr ⟨rfl, rfl, hbound.symm, b, rest, hsplit.trans (Seq.nil_append _).symm⟩
      exact .failure hexplains rfl fun hnil => absurd (hsplit.symm.trans hnil) Seq.cons_ne_nil
    | fails hfault => exact .failure (.inl ⟨hfault, rfl⟩) rfl fun _ => hfault

/-! ## Reading to the end -/

/-- Reads pieces of these sizes up to the end of the source or a failure. -/
def Reading.toEndBy : List Nat → List Bytes → Reading (Except IoError Bytes)
  | [], pieces => .done (.ok pieces.reverse.flatten)
  | n :: sizes, pieces => .read n fun
    | .error e => .done (.error e)
    | .ok [] => .done (.ok pieces.reverse.flatten)
    | .ok piece => toEndBy sizes (piece :: pieces)

theorem Reading.toEnd_eq (size fuel : Nat) (pieces : List Bytes) :
    toEnd size fuel pieces = toEndBy (List.replicate fuel size) pieces := by
  induction fuel generalizing pieces with
  | zero => rfl
  | succ fuel ih =>
    rw [toEnd, List.replicate_succ, toEndBy]
    congr 1
    funext answer
    rcases answer with e | _ | ⟨b, piece⟩
    · rfl
    · rfl
    · exact ih _

/-- Reading to the end of a guard gives the bytes just when there is nothing else and they are within its bound. -/
theorem Produces.toEndBy_iff {sizes : List Nat} (hsizes : ∀ n ∈ sizes, n ≠ 0) (pieces : List Bytes)
    {s : BoundedSource σ} {bytes : Seq UInt8} {fault : Option IoError} (h : Produces s.inner bytes fault)
    (hlong : s.remaining < sizes.length) (out : Bytes) :
    ((Reading.toEndBy sizes pieces).run s).1 = .ok out ↔
      ∃ whole, bytes = .ofList whole ∧ fault = none ∧ whole.length ≤ s.remaining ∧
        out = pieces.reverse.flatten ++ whole := by
  induction sizes generalizing pieces s bytes with
  | nil => exact absurd hlong (Nat.not_lt_zero _)
  | cons n sizes ih =>
    have hn : n ≠ 0 := hsizes n (List.mem_cons_self ..)
    have hrelays := h.relays n
    rw [Reading.toEndBy, Reading.run, show ByteStream.read s n = s.readUpTo n from rfl]
    generalize s.readUpTo n = r at hrelays
    cases hrelays with
    | @gives piece rest inner hsplit hend hlength hproduces =>
      cases piece with
      | nil =>
        obtain ⟨rfl, rfl⟩ := (hend rfl).resolve_left hn
        constructor
        · intro hout
          refine ⟨[], rfl, rfl, Nat.zero_le _, ?_⟩
          rw [List.append_nil]
          exact (Except.ok.inj hout).symm
        · rintro ⟨whole, hwhole, -, -, rfl⟩
          obtain rfl : [] = whole := Seq.ofList_injective hwhole
          rw [List.append_nil]
          rfl
      | cons b piece =>
        have hshort : s.remaining - (b :: piece).length < sizes.length := by
          rw [List.length_cons] at hlength hlong ⊢
          omega
        have hrest := ih (fun m hm => hsizes m (List.mem_cons_of_mem _ hm)) ((b :: piece) :: pieces)
          (s := { s with inner, remaining := s.remaining - (b :: piece).length }) hproduces hshort
        refine hrest.trans ⟨?_, ?_⟩
        · rintro ⟨later, hlater, hnone, hfits, rfl⟩
          refine ⟨(b :: piece) ++ later, by rw [hsplit, hlater, Seq.ofList_append], hnone, ?_, ?_⟩
          · rw [List.length_append]
            exact Nat.add_le_of_le_sub' hlength hfits
          · rw [List.reverse_cons, List.flatten_append, List.flatten_singleton, List.append_assoc]
        · rintro ⟨whole, hwhole, hnone, hfits, rfl⟩
          obtain ⟨later, rfl, hlater⟩ := ofList_eq_append_iff.1 (hwhole.symm.trans hsplit)
          refine ⟨later, hlater, hnone, ?_, ?_⟩
          · rw [List.length_append] at hfits
            exact Nat.le_sub_of_add_le' hfits
          · rw [List.reverse_cons, List.flatten_append, List.flatten_singleton, List.append_assoc]
    | refuses hbound hsplit =>
      refine iff_of_false (fun h => by cases h) ?_
      rintro ⟨whole, hwhole, -, hlength, -⟩
      obtain rfl : whole = [] := List.length_eq_zero_iff.1 (Nat.le_zero.1 (hbound ▸ hlength))
      exact Seq.nil_ne_cons (hwhole.symm.trans hsplit)
    | fails hfault =>
      refine iff_of_false (fun h => by cases h) ?_
      rintro ⟨whole, -, hnone, -⟩
      rw [hfault] at hnone
      cases hnone

/-- **A guard delivers a prefix up to the first failure.** Over a source that produces bytes and then its end or a
failure, whatever the bound and whatever is asked for up to the first failure: the bytes handed on come first and are
at most as many as the bound, which is counted down by exactly them. A failure is the source's own, or it is a refusal,
and then there are more bytes than the bound and as many as the bound were handed on. An end means that all bytes were
handed on and no failure stands behind them, and behind all bytes a request meets what stands there. So reading to the
end, in pieces of any size, succeeds with the bytes just when they end without a failure within the bound. -/
theorem BoundedSource.delivers_prefix {inner : σ} {bytes : Seq UInt8} {fault : Option IoError}
    (h : Produces inner bytes fault) (max : Nat) :
    let source : BoundedSource σ := { inner, remaining := max }
    (∀ sizes : List Nat,
      let d := (Reading.upToFailure sizes).dialogue source
      let left := ((Reading.upToFailure sizes).run source).2
      (∃ rest, bytes = (Seq.ofList (given d)).append rest) ∧ (given d).length + left.remaining = max ∧
      ∀ before x after, d = before ++ x :: after →
        (∀ e, x.answer = .error e → after = [] ∧
          (fault = some e ∧ left.overflowed = false ∨
            e = tooLargeSource ∧ left.overflowed = true ∧ max < bytes.length' ∧ (given before).length = max)) ∧
        (x.Ended → bytes = .ofList (given before) ∧ fault = none) ∧
        (bytes = .ofList (given before) → x.asked ≠ 0 → x.answer = ending fault)) ∧
    (∀ sizes : List Nat, (∀ n ∈ sizes, n ≠ 0) → max < sizes.length → ∀ out,
      ((Reading.toEndBy sizes []).run source).1 = .ok out ↔
        bytes = .ofList out ∧ fault = none ∧ out.length ≤ max) ∧
    ∀ out, ((readAll max).run source).1 = .ok out ↔ bytes = .ofList out ∧ fault = none ∧ out.length ≤ max := by
  intro source
  have hend (sizes : List Nat) (hsizes : ∀ n ∈ sizes, n ≠ 0) (hlong : max < sizes.length) (out : Bytes) :
      ((Reading.toEndBy sizes []).run source).1 = .ok out ↔
        bytes = .ofList out ∧ fault = none ∧ out.length ≤ max := by
    refine (Produces.toEndBy_iff (s := source) hsizes [] h hlong out).trans ⟨?_, ?_⟩
    · rintro ⟨whole, hwhole, hnone, hfits, rfl⟩
      exact ⟨hwhole, hnone, hfits⟩
    · rintro ⟨hwhole, hnone, hfits⟩
      exact ⟨out, hwhole, hnone, hfits, rfl⟩
  refine ⟨?_, hend, ?_⟩
  · intro sizes d left
    have hfaithful : Faithful source left bytes fault d := Produces.faithful_dialogue sizes h
    refine ⟨hfaithful.isPrefix, hfaithful.given_add, fun before x after hd => ⟨?_, ?_, ?_⟩⟩
    · intro e he
      obtain ⟨hlast, hown | ⟨htoo, hflag, hspent, b, rest, hmore⟩⟩ := hfaithful.failed before x after hd e he
      · exact ⟨hlast, .inl hown⟩
      · have hlength := length_lt_of_append_cons hmore
        rw [hspent] at hlength
        exact ⟨hlast, .inr ⟨htoo, hflag, hlength, hspent⟩⟩
    · exact hfaithful.ended before x after hd
    · exact hfaithful.passed before x after hd
  · intro out
    rw [readAll, Reading.toEnd_eq]
    refine hend _ ?_ (by rw [List.length_replicate]; exact Nat.lt_succ_self max) out
    intro n hn
    rw [List.eq_of_mem_replicate hn]
    decide

end Sources

/-- Two letters in a compressed stream that is cut short behind them. -/
def cutShort : Deflate.Unpacker :=
  .ofUnpacked (Deflate.unpackZlib [0x78, 0x01, 0x01, 0x02, 0x00, 0xfd, 0xff, 0x68, 0x69])

theorem cutShort_eq : cutShort =
    ⟨[], [⟨[0x68, 0x69], .rests⟩, ⟨[], .givesUp⟩], some (.lasting Deflate.incompleteData)⟩ := by decide +kernel

theorem produces_cutShort : Produces cutShort (.ofList [0x68, 0x69]) (some Deflate.incompleteData) := by
  have howes := Deflate.owes_unpack .zlib [0x78, 0x01, 0x01, 0x02, 0x00, 0xfd, 0xff, 0x68, 0x69]
  have hproduces : Produces cutShort (.ofList (Deflate.bytesOf cutShort.portions)) (cutShort.fault.map (·.error)) :=
    howes.produces
  rwa [cutShort_eq] at hproduces ⊢

/-- The stream that is cut short, behind a guard. -/
def guardedCutShort (max : Nat) : BoundedSource Deflate.Unpacker := { inner := cutShort, remaining := max }

/-- Of the two letters a bound of one lets the first through and refuses the second, whatever comes behind it. Within a
bound of two both come and then the failure of the stream, so that it cannot be read to the end. -/
theorem BoundedSource.delivers_cutShort :
    Produces cutShort (.ofList [0x68, 0x69]) (some Deflate.incompleteData) ∧
    (Reading.upToFailure [0, 8, 8]).dialogue (guardedCutShort 1) =
      [⟨0, .ok []⟩, ⟨8, .ok [0x68]⟩] ++ ⟨8, .error tooLargeSource⟩ :: [] ∧
    ((Reading.upToFailure [0, 8, 8]).run (guardedCutShort 1)).2.overflowed = true ∧
    1 < (Seq.ofList [0x68, 0x69] : Seq UInt8).length' ∧
    ∀ out, ((readAll 2).run (guardedCutShort 2)).1 ≠ .ok out := by
  have hd : (Reading.upToFailure [0, 8, 8]).dialogue (guardedCutShort 1) =
      [⟨0, .ok []⟩, ⟨8, .ok [0x68]⟩] ++ ⟨8, .error tooLargeSource⟩ :: [] := by
    rw [guardedCutShort, cutShort_eq]
    rfl
  obtain ⟨hfailed, -⟩ := ((BoundedSource.delivers_prefix produces_cutShort 1).1 [0, 8, 8]).2.2 _ _ _ hd
  obtain ⟨-, hown | ⟨-, hflag, hmore, -⟩⟩ := hfailed tooLargeSource rfl
  · exact absurd hown.1 (by decide)
  refine ⟨produces_cutShort, hd, hflag, hmore, fun out hout => ?_⟩
  obtain ⟨-, hnone, -⟩ := ((BoundedSource.delivers_prefix produces_cutShort 2).2.2 out).1 hout
  cases hnone

end BrokerClient.ByteStream
