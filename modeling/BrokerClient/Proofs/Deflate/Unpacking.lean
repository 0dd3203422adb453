import BrokerClient.Deflate.Packer
import BrokerClient.Proofs.Deflate.Containers
import BrokerClient.Proofs.Deflate.Endings

/-!
# Unpacked bytes as a stream

An unpacker fills each answer from its portions. Where nothing is wrong with what was unpacked it is a stream of the
bytes (`streams_of_sound`); whole or damaged, it owes the bytes up to the failure that is behind them (`owes_unpack`).
-/

namespace BrokerClient.Deflate

open ByteStream

/-! ## Whole data -/

/-- Nothing is wrong with the content, and no bytes of it are given up. -/
structure Sound (s : Unpacker) : Prop where
  fault_eq : s.fault = none
  kept : ∀ p ∈ s.portions, p.after ≠ .givesUp

/-- The bytes of portions. -/
def bytesOf (portions : List Portion) : Bytes := (portions.map (·.bytes)).flatten

theorem fill_spec {n : Nat} (hn : 0 < n) (answer : Bytes) {portions : List Portion}
    (hk : ∀ p ∈ portions, p.after ≠ .givesUp) :
    ∃ more s', Unpacker.fill none n answer portions = (.ok (answer ++ more), s') ∧
      bytesOf portions = more ++ (s'.ready ++ bytesOf s'.portions) ∧
      (answer ++ more = [] → bytesOf portions = []) ∧ Sound s' := by
  induction portions generalizing n answer with
  | nil =>
    refine ⟨[], { ready := [] }, ?_, rfl, fun _ => rfl, ⟨rfl, fun p hp => absurd hp List.not_mem_nil⟩⟩
    rw [List.append_nil, Unpacker.fill]
  | cons p rest ih =>
    have hrest : ∀ q ∈ rest, q.after ≠ .givesUp := fun q hq => hk q (List.mem_cons_of_mem _ hq)
    by_cases hon : (p.after = .goesOn ∧ p.bytes.length < n) ∨ (answer ++ p.bytes.take n).isEmpty
    · have htake : p.bytes.take n = p.bytes ∧ p.bytes.length < n := by
        rcases hon with ⟨-, hlt⟩ | hempty
        · exact ⟨List.take_of_length_le (Nat.le_of_lt hlt), hlt⟩
        · have htaken := (List.append_eq_nil_iff.1 (List.isEmpty_iff.1 hempty)).2
          have hnil : p.bytes = [] := (List.take_eq_nil_iff.1 htaken).resolve_left (Nat.ne_of_gt hn)
          rw [hnil]
          exact ⟨List.take_nil, hn⟩
      obtain ⟨more, s', hfill, hbytes, hend, hs⟩ := ih (n := n - p.bytes.length) (by omega) (answer ++ p.bytes) hrest
      refine ⟨p.bytes ++ more, s', ?_, ?_, ?_, hs⟩
      · rw [Unpacker.fill, if_pos hon, htake.1, hfill, List.append_assoc]
      · rw [List.append_assoc, ← hbytes]
        rfl
      · intro hnil
        rw [← List.append_assoc] at hnil
        have hbegin := (List.append_eq_nil_iff.1 (List.append_eq_nil_iff.1 hnil).1).2
        show p.bytes ++ bytesOf rest = []
        rw [hbegin, hend hnil, List.append_nil]
    · refine ⟨p.bytes.take n, { ready := p.bytes.drop n, portions := rest }, ?_, ?_, ?_, ⟨rfl, hrest⟩⟩
      · rw [Unpacker.fill, if_neg hon, if_neg (hk p (List.mem_cons_self ..))]
      · rw [← List.append_assoc, List.take_append_drop]
        rfl
      · intro hnil
        rw [hnil] at hon
        exact absurd (.inr rfl) hon

/-- Content that nothing is wrong with is a stream of its bytes. -/
theorem streams_of_sound {s : Unpacker} (h : Sound s) : Streams s (s.ready ++ bytesOf s.portions) := by
  refine Streams.coinduct (fun s bytes => Sound s ∧ bytes = s.ready ++ bytesOf s.portions) ?_ s _ ⟨h, rfl⟩
  rintro s _ ⟨h, rfl⟩ n
  by_cases hn : n = 0
  · exact ⟨[], _, s, if_pos hn, rfl, fun _ => .inl hn, h, rfl⟩
  by_cases hready : s.ready = []
  · obtain ⟨more, s', hfill, hbytes, hend, hs⟩ := fill_spec (Nat.pos_of_ne_zero hn) [] h.kept
    refine ⟨more, s'.ready ++ bytesOf s'.portions, s', ?_, ?_, ?_, hs, rfl⟩
    · show s.readUpTo n = _
      rw [Unpacker.readUpTo, if_neg hn, hready, List.isEmpty_nil, if_pos rfl, h.fault_eq, hfill, List.nil_append]
    · rw [hready, List.nil_append, hbytes]
    · intro hmore
      rw [hready, List.nil_append]
      exact .inr (hend hmore)
  · refine ⟨s.ready.take n, s.ready.drop n ++ bytesOf s.portions, { s with ready := s.ready.drop n }, ?_, ?_, ?_,
      ⟨h.fault_eq, h.kept⟩, rfl⟩
    · show s.readUpTo n = _
      rw [Unpacker.readUpTo, if_neg hn, if_neg (by rwa [List.isEmpty_iff])]
    · rw [← List.append_assoc, List.take_append_drop]
    · intro htake
      exact absurd ((List.take_eq_nil_iff.1 htake).resolve_left hn) hready

/-- Bytes that are whole in their container are a stream of their data. -/
theorem streams_unpack {container : Container} {bytes data : Bytes} (h : (unpack container bytes).Whole data) :
    Streams (packing.unpack container bytes) data := by
  have hs := streams_of_sound (s := .ofUnpacked (unpack container bytes)) ⟨h.fault_eq, h.kept⟩
  obtain rfl : bytesOf (unpack container bytes).portions = data := h.bytes_eq
  exact hs

/-! ## Data of any kind -/

/-- Nothing but a failure is left, and others behind it. -/
def Stuck (s : Unpacker) : Prop := s.ready = [] ∧ s.portions = [] ∧ Lasts s.fault

/-- What is owed is what is left, unless there is no way to it. -/
structure Indebted (s : Unpacker) (bytes : Bytes) (fault : Option Fault) : Prop where
  fault_eq : s.fault = fault
  own : ∀ f, fault = some f → f.Own
  left : Orderly (Lasts fault) s.portions ∧ bytes = s.ready ++ bytesOf s.portions ∨ Stuck s

theorem own_next {f : Fault} (h : f.Own) : ∀ f', f.next = some f' → f'.Own := by
  intro f' hf
  obtain ⟨e, he, rfl⟩ := Option.map_eq_some_iff.1 hf
  exact ⟨fun htoo => h.2 (htoo ▸ he), fun htoo => h.2 (htoo ▸ he)⟩

theorem lasts_next {f : Fault} (h : Lasts (some f)) : Lasts f.next := by
  obtain ⟨_, ⟨⟩, hafter⟩ := h
  cases he : f.after with
  | none => exact absurd he hafter
  | some e => exact ⟨.lasting e, by rw [Fault.next, he]; rfl, nofun⟩

section

variable {fault : Option Fault} {n : Nat} {answer : Bytes} {p : Portion} {rest : List Portion}

/-- Filling goes on behind a portion that was taken whole, and then something is behind it, or the answer is empty. -/
theorem taken_of_goesOn (hn : n ≠ 0) (h : Orderly (Lasts fault) (p :: rest))
    (hon : (p.after = .goesOn ∧ p.bytes.length < n) ∨ (answer ++ p.bytes.take n).isEmpty) :
    p.bytes.length < n ∧ (answer ++ p.bytes.take n = [] ∨ rest ≠ [] ∨ Lasts fault) := by
  rcases hon with ⟨hgoesOn, hlt⟩ | hempty
  · refine ⟨hlt, .inr ?_⟩
    rcases h.1 with hrests | ⟨-, hmore⟩ | ⟨-, hlasts⟩
    · rw [hgoesOn] at hrests
      cases hrests
    · exact .inl hmore
    · exact .inr hlasts
  · have hnil := List.isEmpty_iff.1 hempty
    have hbytes : p.bytes = [] := (List.take_eq_nil_iff.1 (List.append_eq_nil_iff.1 hnil).2).resolve_left hn
    exact ⟨by rw [hbytes]; exact Nat.pos_of_ne_zero hn, .inl hnil⟩

/-- What is left of a portion at which filling ends. Only the last portion is given up, for a failure that lasts. -/
theorem indebted_of_ends (hown : ∀ f, fault = some f → f.Own) (h : Orderly (Lasts fault) (p :: rest)) :
    Indebted { ready := if p.after = .givesUp then [] else p.bytes.drop n, portions := rest, fault }
      (p.bytes.drop n ++ bytesOf rest) fault := by
  refine ⟨rfl, hown, ?_⟩
  split <;> rename_i hgone
  · rcases h.1 with hrests | ⟨hgoesOn, -⟩ | ⟨hlast, hlasts⟩
    · rw [hrests] at hgone
      cases hgone
    · rw [hgoesOn] at hgone
      cases hgone
    · exact .inr ⟨rfl, hlast, hlasts⟩
  · exact .inl ⟨h.2, rfl⟩

end

/-- An answer that is filled from portions. Where bytes are lost, a failure is behind them that lasts. -/
theorem pays_fill {n : Nat} (hn : n ≠ 0) {fault : Option Fault} (hown : ∀ f, fault = some f → f.Own) {answer : Bytes}
    {portions : List Portion} (h : Orderly (Lasts fault) portions)
    (hanswer : answer = [] ∨ portions ≠ [] ∨ Lasts fault) (asked : Nat) :
    Pays Indebted (answer ++ bytesOf portions) fault asked (Unpacker.fill fault n answer portions) := by
  induction portions generalizing n answer with
  | nil =>
    unfold Unpacker.fill
    cases fault with
    | none =>
      have hrest : Indebted { ready := [] } [] none := ⟨rfl, hown, .inl ⟨trivial, rfl⟩⟩
      rw [bytesOf, List.map_nil, List.flatten_nil, List.append_nil]
      exact .gives (List.append_nil answer).symm (fun hempty => .inr ⟨hempty, rfl⟩) hrest
    | some f =>
      refine .fails rfl (hown f rfl) ⟨rfl, own_next (hown f rfl), ?_⟩
      rcases hanswer with rfl | hne | hlasts
      · exact .inl ⟨trivial, rfl⟩
      · exact absurd rfl hne
      · exact .inr ⟨rfl, rfl, lasts_next hlasts⟩
  | cons p rest ih =>
    have hsplit : answer ++ bytesOf (p :: rest) = (answer ++ p.bytes.take n) ++ (p.bytes.drop n ++ bytesOf rest) := by
      rw [List.append_assoc, ← List.append_assoc (p.bytes.take n), List.take_append_drop]
      rfl
    unfold Unpacker.fill
    dsimp only
    split <;> rename_i hon
    · obtain ⟨hlt, htaken⟩ := taken_of_goesOn hn h hon
      have hrest := ih (n := n - p.bytes.length) (by omega) h.2 htaken
      rw [hsplit, List.drop_eq_nil_of_le (Nat.le_of_lt hlt), List.nil_append]
      exact hrest
    · refine .gives hsplit (fun hempty => ?_) (indebted_of_ends hown h)
      rw [hempty] at hon
      exact absurd (.inr rfl) hon

theorem Indebted.pays {s : Unpacker} {bytes : Bytes} {fault : Option Fault} (h : Indebted s bytes fault)
    (n : Nat) : Pays Indebted bytes fault n (s.readUpTo n) := by
  obtain ⟨rfl, hown, hleft⟩ := h
  unfold Unpacker.readUpTo
  split <;> rename_i hn
  · exact .gives (List.nil_append bytes).symm (fun _ => .inl hn) ⟨rfl, hown, hleft⟩
  split <;> rename_i hready
  · rw [List.isEmpty_iff] at hready
    rcases hleft with ⟨horderly, rfl⟩ | ⟨-, hportions, hlasts⟩
    · rw [hready]
      exact pays_fill hn hown horderly (.inl rfl) n
    · obtain ⟨f, hf, hafter⟩ := hlasts
      rw [hportions, hf]
      exact .fails rfl (hown f hf) ⟨rfl, own_next (hown f hf), .inr ⟨rfl, rfl, lasts_next ⟨f, rfl, hafter⟩⟩⟩
  · rcases hleft with ⟨horderly, rfl⟩ | ⟨hnone, -⟩
    · have hsplit : s.ready ++ bytesOf s.portions = s.ready.take n ++ (s.ready.drop n ++ bytesOf s.portions) := by
        rw [← List.append_assoc, List.take_append_drop]
      refine .gives hsplit (fun hempty => ?_) ⟨rfl, hown, .inl ⟨horderly, rfl⟩⟩
      have hnil := (List.take_eq_nil_iff.1 hempty).resolve_left hn
      rw [hnil] at hready
      exact absurd rfl hready
    · rw [hnone] at hready
      exact absurd rfl hready

/-- What some bytes stand for, in one of the containers. -/
def contents (container : Container) (bytes : Bytes) : Bytes := bytesOf (unpack container bytes).portions

/-- Bytes in a container owe what they stand for. -/
theorem owes_unpack (container : Container) (bytes : Bytes) :
    Owes (packing.unpack container bytes) (contents container bytes) (unpack container bytes).fault := by
  have hcandid : (unpack container bytes).Candid := by
    cases container with
    | gzip => exact candid_unpackGzip bytes
    | zlib => exact candid_unpackZlib bytes
  exact ⟨Indebted, ⟨rfl, hcandid.own, .inl ⟨hcandid.orderly, rfl⟩⟩, fun s bytes fault h n => h.pays n⟩

end BrokerClient.Deflate
