import BrokerClient.Proofs.ByteStream.Streams

/-!
# What a reader is told

`Reading.dialogue` is everything that a program asks of a source, with the answers it gets. A source `Owes` some bytes
and perhaps a failure behind them: it hands on nothing else, and its end does not show before they are out. So does a
decoder, whether or not something is wrong with its data.

A guard looks for a byte behind its bound by taking it, so a refusal costs a byte, and a reader that asks again may be
told an end that is none. `Owes.account` says how much is missing then: one byte for each refusal.
-/

namespace BrokerClient
namespace ByteStream

/-! ## Dialogues -/

/-- A request for so many bytes, and the answer to it. -/
structure Exchange where
  asked : Nat
  answer : Except IoError Bytes

namespace Exchange

/-- The bytes that the answer hands on. -/
def given (x : Exchange) : Bytes :=
  match x.answer with
  | .ok bytes => bytes
  | .error _ => []

/-- The answer is that there is more than may be handed on. -/
def refused (x : Exchange) : Bool :=
  match x.answer with
  | .ok _ => false
  | .error e => e = tooLargeSource

/-- The answer is the end: no bytes, although some were asked for. -/
def Ended (x : Exchange) : Prop := x.asked ≠ 0 ∧ x.answer = .ok []

end Exchange

/-- What a program asks of a source, and what it is told. -/
def Reading.dialogue {α σ : Type} [ByteSource σ] : Reading α → σ → List Exchange
  | .done _, _ => []
  | .read n next, s =>
    let (answer, s) := ByteStream.read s n
    ⟨n, answer⟩ :: (next answer).dialogue s

/-- The bytes that are handed on in a dialogue. -/
def given (d : List Exchange) : Bytes := d.flatMap (·.given)

/-- How many requests of a dialogue are refused. -/
def refusals (d : List Exchange) : Nat := d.countP (·.refused)

variable {n : Nat} {d : List Exchange}

theorem given_ok (bytes : Bytes) : given (⟨n, .ok bytes⟩ :: d) = bytes ++ given d := rfl

theorem given_error (e : IoError) : given (⟨n, .error e⟩ :: d) = given d := rfl

theorem refusals_ok (bytes : Bytes) : refusals (⟨n, .ok bytes⟩ :: d) = refusals d := List.countP_cons_of_neg nofun

theorem refused_tooLarge : Exchange.refused ⟨n, .error tooLargeSource⟩ = true := by
  simp [Exchange.refused]

theorem refusals_refused : refusals (⟨n, .error tooLargeSource⟩ :: d) = refusals d + 1 :=
  List.countP_cons_of_pos refused_tooLarge

/-- The failure is not the one of a guard. -/
def Fault.Own (f : Fault) : Prop := f.error ≠ tooLargeSource ∧ f.after ≠ some tooLargeSource

theorem refused_of_own {f : Fault} (h : f.Own) : Exchange.refused ⟨n, .error f.error⟩ = false := decide_eq_false h.1

theorem refusals_of_own {f : Fault} (h : f.Own) : refusals (⟨n, .error f.error⟩ :: d) = refusals d :=
  List.countP_cons_of_neg (by rw [refused_of_own h]; exact Bool.false_ne_true)

/-! ## Accounts -/

section Accounts

variable {σ : Type} {s : BoundedSource σ} {bytes : Bytes} {fault : Option Fault} {before : List Exchange} {x : Exchange}

/-- What a reader has been told before an exchange, and what the exchange means then. -/
structure Account (s : BoundedSource σ) (bytes : Bytes) (fault : Option Fault) (before : List Exchange) (x : Exchange) :
    Prop where
  /-- It has been given what comes first. -/
  given_isPrefix : given before <+: bytes
  given_le : (given before).length ≤ s.remaining
  /-- If there is more, it is told so behind the bound, and not before. -/
  refused : x.refused = true → (given before).length = s.remaining ∧ s.remaining < bytes.length
  /-- If it is told the end, what it has not been given are the bytes of refused requests. -/
  ended : x.Ended → bytes.length = (given before).length + refusals before
  /-- If it is told the end, it has been told of the failure before. -/
  reported : x.Ended → ∀ f, fault = some f → f.after = none ∧ ∃ y ∈ before, y.answer = .error f.error

namespace Account

theorem after_gives {piece rest : Bytes} {inner : σ} (hlength : piece.length ≤ s.remaining)
    (h : Account { s with inner, remaining := s.remaining - piece.length } rest fault before x) :
    Account s (piece ++ rest) fault (⟨n, .ok piece⟩ :: before) x where
  given_isPrefix := (List.prefix_append_right_inj piece).2 h.given_isPrefix
  given_le := by
    have hle : (given before).length ≤ s.remaining - piece.length := h.given_le
    rw [given_ok, List.length_append]
    omega
  refused hx := by
    obtain ⟨hall, hmore⟩ := h.refused hx
    dsimp only at hall hmore
    rw [given_ok, List.length_append, List.length_append]
    omega
  ended hx := by
    rw [given_ok, refusals_ok, List.length_append, List.length_append, h.ended hx, Nat.add_assoc]
  reported hx f hf := by
    obtain ⟨hlast, y, hy, hanswer⟩ := h.reported hx f hf
    exact ⟨hlast, y, List.mem_cons_of_mem _ hy, hanswer⟩

/-- Nothing is given behind the bound, so what a refusal has taken is what is missing. -/
theorem after_refusal {b : UInt8} {rest : Bytes} {inner : σ} (hbound : s.remaining = 0)
    (h : Account { s with inner, overflowed := true } rest fault before x) :
    Account s (b :: rest) fault (⟨n, .error tooLargeSource⟩ :: before) x := by
  have hnone : given before = [] := List.length_eq_zero_iff.1 (Nat.le_zero.1 (hbound ▸ h.given_le))
  exact {
    given_isPrefix := by rw [given_error, hnone]; exact List.nil_prefix
    given_le := by rw [given_error]; exact h.given_le
    refused := fun hx => by
      obtain ⟨hall, hmore⟩ := h.refused hx
      exact ⟨hall, Nat.lt_succ_of_lt hmore⟩
    ended := fun hx => by
      rw [given_error, refusals_refused, List.length_cons, h.ended hx, Nat.add_assoc]
    reported := fun hx f hf => by
      obtain ⟨hlast, y, hy, hanswer⟩ := h.reported hx f hf
      exact ⟨hlast, y, List.mem_cons_of_mem _ hy, hanswer⟩ }

theorem after_failure {f : Fault} {inner : σ} (hown : f.Own) (h : Account { s with inner } bytes f.next before x) :
    Account s bytes (some f) (⟨n, .error f.error⟩ :: before) x where
  given_isPrefix := h.given_isPrefix
  given_le := h.given_le
  refused := h.refused
  ended hx := by rw [given_error, refusals_of_own hown, h.ended hx]
  reported hx := by
    rintro _ ⟨⟩
    refine ⟨?_, _, List.mem_cons_self .., rfl⟩
    cases hafter : f.after with
    | none => rfl
    | some e =>
      have hnext : f.next = some (.lasting e) := by rw [Fault.next, hafter]; rfl
      cases (h.reported hx _ hnext).1

end Account
end Accounts

/-! ## Debts -/

section Sources

variable {σ : Type} [ByteSource σ]

/-- An answer of a source that owes some bytes and perhaps a failure: some of the bytes, or the failure. -/
inductive Pays (Left : σ → Bytes → Option Fault → Prop) (bytes : Bytes) (fault : Option Fault) (n : Nat) :
    Except IoError Bytes × σ → Prop
  | gives {piece rest : Bytes} {s : σ} (hsplit : bytes = piece ++ rest)
      (hend : piece = [] → n = 0 ∨ bytes = [] ∧ fault = none) (hleft : Left s rest fault) :
      Pays Left bytes fault n (.ok piece, s)
  | fails {f : Fault} {s : σ} (hfault : fault = some f) (hown : f.Own) (hleft : Left s bytes f.next) :
      Pays Left bytes fault n (.error f.error, s)

/-- The source hands on these bytes as far as it goes, fails as it is to fail, and shows no end before both are out.
This is the greatest predicate that leads to itself. -/
def Owes (s : σ) (bytes : Bytes) (fault : Option Fault) : Prop :=
  ∃ Left : σ → Bytes → Option Fault → Prop, Left s bytes fault ∧
    ∀ s bytes fault, Left s bytes fault → ∀ n, Pays Left bytes fault n (read s n)

theorem Owes.pays {s : σ} {bytes : Bytes} {fault : Option Fault} (h : Owes s bytes fault) (n : Nat) :
    Pays Owes bytes fault n (ByteStream.read s n) := by
  obtain ⟨Left, hleft, hpays⟩ := h
  have hread := hpays s bytes fault hleft n
  generalize ByteStream.read s n = r at hread
  cases hread with
  | gives hsplit hend hleft => exact .gives hsplit hend ⟨Left, hleft, hpays⟩
  | fails hfault hown hleft => exact .fails hfault hown ⟨Left, hleft, hpays⟩

/-- A source that answers as another one does owes the same. -/
theorem Owes.map {τ : Type} [ByteSource τ] (f : σ → τ)
    (hf : ∀ s n, ByteStream.read (f s) n = ((ByteStream.read s n).1, f (ByteStream.read s n).2)) {s : σ} {bytes : Bytes}
    {fault : Option Fault} (h : Owes s bytes fault) : Owes (f s) bytes fault := by
  refine ⟨fun t bytes fault => ∃ s, t = f s ∧ Owes s bytes fault, ⟨s, rfl, h⟩, ?_⟩
  rintro _ bytes fault ⟨s, rfl, h⟩ n
  have hpays := h.pays n
  rw [hf]
  generalize ByteStream.read s n = r at hpays
  cases hpays with
  | gives hsplit hend howes => exact .gives hsplit hend ⟨_, rfl, howes⟩
  | fails hfault hown howes => exact .fails hfault hown ⟨_, rfl, howes⟩

/-- What a source streams it owes, with nothing behind it. -/
theorem Streams.owes {s : σ} {bytes : Bytes} (h : Streams s bytes) : Owes s bytes none := by
  refine ⟨fun s bytes fault => Streams s bytes ∧ fault = none, ⟨h, rfl⟩, ?_⟩
  rintro s bytes _ ⟨h, rfl⟩ n
  obtain ⟨piece, rest, s', hread, hsplit, hempty, hrest⟩ := h.read n
  rw [hread]
  exact .gives hsplit (fun hpiece => (hempty hpiece).imp_right fun hnil => ⟨hnil, rfl⟩) ⟨hrest, rfl⟩

/-- What a source streams is no more than what it owes. -/
theorem Owes.length_le {s : σ} {whole bytes : Bytes} {fault : Option Fault} (h : Owes s whole fault)
    (hs : Streams s bytes) : bytes.length ≤ whole.length := by
  induction hn : bytes.length using Nat.strongRecOn generalizing s whole bytes fault with
  | ind n ih =>
    subst hn
    obtain ⟨piece, rest, s', hread, rfl, hempty, hrest⟩ := hs.read 1
    have hpays := h.pays 1
    rw [hread] at hpays
    cases hpays with
    | @gives _ left _ hsplit _ howes =>
      cases piece with
      | nil =>
        have hend : rest = [] := (hempty rfl).resolve_left Nat.one_ne_zero
        simp [hend]
      | cons b piece =>
        have hshort : rest.length < (b :: piece ++ rest).length := by
          simp only [List.length_append, List.length_cons]
          omega
        have hle := ih rest.length hshort howes hrest rfl
        rw [hsplit, List.length_append, List.length_append]
        omega

/-! ## Guards -/

variable {s : BoundedSource σ} {bytes : Bytes} {fault : Option Fault}

/-- An answer of a guard over such a source: what the source pays, or a refusal, with which a byte is gone. -/
inductive Guards (s : BoundedSource σ) (bytes : Bytes) (fault : Option Fault) (n : Nat) :
    Except IoError Bytes × BoundedSource σ → Prop
  | gives {piece rest : Bytes} {inner : σ} (hsplit : bytes = piece ++ rest)
      (hend : piece = [] → n = 0 ∨ bytes = [] ∧ fault = none) (hlength : piece.length ≤ s.remaining)
      (howes : Owes inner rest fault) :
      Guards s bytes fault n (.ok piece, { s with inner, remaining := s.remaining - piece.length })
  | refuses {b : UInt8} {rest : Bytes} {inner : σ} (hbound : s.remaining = 0) (hsplit : bytes = b :: rest)
      (howes : Owes inner rest fault) :
      Guards s bytes fault n (.error tooLargeSource, { s with inner, overflowed := true })
  | fails {f : Fault} {inner : σ} (hfault : fault = some f) (hown : f.Own) (howes : Owes inner bytes f.next) :
      Guards s bytes fault n (.error f.error, { s with inner })

theorem Owes.guards (h : Owes s.inner bytes fault) (n : Nat) : Guards s bytes fault n (s.readUpTo n) := by
  by_cases hn : n = 0
  · rw [BoundedSource.readUpTo, if_pos hn]
    exact .gives (List.nil_append bytes).symm (fun _ => .inl hn) (Nat.zero_le _) h
  by_cases hr : s.remaining = 0
  · rw [BoundedSource.readUpTo, if_neg hn, if_pos hr, BoundedSource.probe]
    have hpays := h.pays 1
    generalize hread : ByteStream.read s.inner 1 = r at hpays
    cases hpays with
    | gives hsplit hend howes =>
      rename_i piece rest inner
      have hlength : piece.length ≤ 1 := ByteSource.length_read_le (congrArg Prod.fst hread)
      cases piece with
      | nil => exact .gives hsplit (fun hp => .inr ((hend hp).resolve_left Nat.one_ne_zero)) (Nat.zero_le _) howes
      | cons b piece =>
        obtain rfl : piece = [] := List.length_eq_zero_iff.1 (Nat.le_zero.1 (Nat.le_of_succ_le_succ hlength))
        exact .refuses hr hsplit howes
    | fails hfault hown howes => exact .fails hfault hown howes
  · rw [BoundedSource.readUpTo, if_neg hn, if_neg hr, BoundedSource.forward]
    have hmin : min n s.remaining ≠ 0 := by omega
    have hpays := h.pays (min n s.remaining)
    generalize hread : ByteStream.read s.inner (min n s.remaining) = r at hpays
    cases hpays with
    | gives hsplit hend howes =>
      have hlength := Nat.le_trans (ByteSource.length_read_le (congrArg Prod.fst hread)) (Nat.min_le_right ..)
      exact .gives hsplit (fun hp => .inr ((hend hp).resolve_left hmin)) hlength howes
    | fails hfault hown howes => exact .fails hfault hown howes

theorem Account.first {n : Nat} {r : Except IoError Bytes × BoundedSource σ} (h : Guards s bytes fault n r) :
    Account s bytes fault [] ⟨n, r.1⟩ where
  given_isPrefix := List.nil_prefix
  given_le := Nat.zero_le _
  refused hx := by
    cases h with
    | gives => cases hx
    | refuses hbound hsplit => rw [hbound, hsplit]; exact ⟨rfl, Nat.succ_pos _⟩
    | fails _ hown =>
      rw [refused_of_own hown] at hx
      cases hx
  ended := by
    rintro ⟨hn, hanswer⟩
    cases h with
    | gives _ hend =>
      obtain ⟨rfl, -⟩ := (hend (Except.ok.inj hanswer)).resolve_left hn
      rfl
    | refuses => cases hanswer
    | fails => cases hanswer
  reported := by
    rintro ⟨hn, hanswer⟩ f hf
    cases h with
    | gives _ hend =>
      obtain ⟨-, hnone⟩ := (hend (Except.ok.inj hanswer)).resolve_left hn
      rw [hnone] at hf
      cases hf
    | refuses => cases hanswer
    | fails => cases hanswer

/-- A guard accounts for every exchange of every program. -/
theorem Owes.account {α : Type} (p : Reading α) {s : BoundedSource σ} {bytes : Bytes} {fault : Option Fault}
    (h : Owes s.inner bytes fault) {before after : List Exchange} {x : Exchange}
    (hd : p.dialogue s = before ++ x :: after) : Account s bytes fault before x := by
  induction p generalizing s bytes fault before with
  | done result => exact absurd hd (by simp [Reading.dialogue])
  | read n next ih =>
    have hguards := h.guards n
    have hdialogue : (Reading.read n next).dialogue s =
        ⟨n, (s.readUpTo n).1⟩ :: (next (s.readUpTo n).1).dialogue (s.readUpTo n).2 := rfl
    rw [hdialogue] at hd
    generalize s.readUpTo n = r at hguards hd
    cases before with
    | nil =>
      obtain ⟨rfl, -⟩ := List.cons.inj hd
      exact .first hguards
    | cons y before =>
      obtain ⟨rfl, hrest⟩ := List.cons.inj hd
      cases hguards with
      | gives hsplit hend hlength howes => exact hsplit ▸ .after_gives hlength (ih _ howes hrest)
      | refuses hbound hsplit howes => exact hsplit ▸ .after_refusal hbound (ih _ howes hrest)
      | fails hfault hown howes => exact hfault ▸ .after_failure hown (ih _ howes hrest)

/-- The flag of a guard is set by refusals. -/
theorem Owes.overflowed_run {α : Type} (p : Reading α) {s : BoundedSource σ} {bytes : Bytes} {fault : Option Fault}
    (h : Owes s.inner bytes fault) :
    (p.run s).2.overflowed = true ↔ s.overflowed = true ∨ ∃ x ∈ p.dialogue s, x.refused = true := by
  induction p generalizing s bytes fault with
  | done result => simp [Reading.run, Reading.dialogue]
  | read n next ih =>
    have hguards := h.guards n
    have hdialogue : (Reading.read n next).dialogue s =
        ⟨n, (s.readUpTo n).1⟩ :: (next (s.readUpTo n).1).dialogue (s.readUpTo n).2 := rfl
    have hrun : (Reading.read n next).run s = (next (s.readUpTo n).1).run (s.readUpTo n).2 := rfl
    rw [hdialogue, hrun]
    simp only [List.mem_cons, exists_eq_or_imp]
    generalize s.readUpTo n = r at hguards
    cases hguards with
    | gives hsplit hend hlength howes =>
      rw [ih _ howes]
      simp [Exchange.refused]
    | refuses hbound hsplit howes =>
      rw [ih _ howes]
      simp [refused_tooLarge]
    | fails hfault hown howes =>
      rw [ih _ howes, refused_of_own hown]
      simp

/-- No program overruns the bound of a guard whose source owes no more. -/
theorem Owes.unrefused_run {α : Type} (p : Reading α) {s : BoundedSource σ} {bytes : Bytes} {fault : Option Fault}
    (h : Owes s.inner bytes fault) (hb : bytes.length ≤ s.remaining) : (p.run s).2.overflowed = s.overflowed := by
  rw [Bool.eq_iff_iff, h.overflowed_run p]
  refine or_iff_left ?_
  rintro ⟨x, hx, hrefused⟩
  obtain ⟨before, after, hd⟩ := List.append_of_mem hx
  exact absurd ((h.account p hd).refused hrefused).2 (Nat.not_lt.2 hb)

end Sources

end ByteStream
end BrokerClient
