import BrokerClient.Proofs.Codec.Packing
import BrokerClient.Proofs.Deflate.Containers
import BrokerClient.Proofs.Deflate.Unpacking

/-!
# What was packed is unpacked

What a packer and its sink keep through requests that succeed is `Packer.Faithful`: the bytes that have left the
compressor are a header and pieces of compressed data that say what the compressor has said. A compressor puts off most
of its bytes, so the sink says nothing about them until the form is completed (`Faithful.finish`). That is all that
`inverts` needs, since a header, pieces and the sums behind them are unpacked to the data.
-/

namespace BrokerClient

open ByteStream Deflate

namespace Container

def header : Container → Bytes
  | .gzip => gzipHeader
  | .zlib => zlibHeader

/-- What stands behind the compressed data. -/
def closing (data : Bytes) : Container → Bytes
  | .gzip => gzipTrailer data
  | .zlib => bigEndian (adler32 data)

end Container

namespace Deflate
namespace Packer

variable {p q : Packer} {s s' : BoundedSink} {e : IoError}

/-! ## Steps -/

theorem andThen_ok {step : Step} {next : Packer → Step} (h : (andThen step next).run s = ((.ok (), q), s')) :
    ∃ p s₁, step.run s = ((.ok (), p), s₁) ∧ (next p).run s₁ = ((.ok (), q), s') := by
  rw [andThen, Writing.run_bind] at h
  cases hs : step.run s with
  | mk r s₁ =>
    obtain ⟨answer, p⟩ := r
    rw [hs] at h
    cases answer with
    | error e => cases h
    | ok u => exact ⟨p, s₁, rfl, h⟩

theorem andThen_error {step : Step} {next : Packer → Step} (h : (andThen step next).run s = ((.error e, q), s')) :
    step.run s = ((.error e, q), s') ∨
      ∃ p s₁, step.run s = ((.ok (), p), s₁) ∧ (next p).run s₁ = ((.error e, q), s') := by
  rw [andThen, Writing.run_bind] at h
  cases hs : step.run s with
  | mk r s₁ =>
    obtain ⟨answer, p⟩ := r
    rw [hs] at h
    cases answer with
    | error e => exact .inl h
    | ok u => exact .inr ⟨p, s₁, rfl, h⟩

theorem run_put (p : Packer) (bytes : Bytes) (s : BoundedSink) :
    (p.put bytes).run s = (((s.write bytes).1, p), (s.write bytes).2) := rfl

theorem ready_ok (h : (ready p).run s = ((.ok (), q), s')) : q = p ∧ s' = s := by
  cases h
  exact ⟨rfl, rfl⟩

theorem put_ok {bytes : Bytes} (h : (p.put bytes).run s = ((.ok (), q), s')) :
    q = p ∧ s' = { s with content := s.content ++ bytes } := by
  rw [run_put] at h
  obtain ⟨hanswer, rfl⟩ := Prod.mk.inj h
  obtain ⟨hok, rfl⟩ := Prod.mk.inj hanswer
  exact ⟨rfl, BoundedSink.write_ok (Prod.ext hok rfl)⟩

/-- The bytes that have left the compressor. -/
def made (p : Packer) (s : BoundedSink) : Bytes := s.content ++ p.pending

/-- Putting what is pending into the sink moves bytes and changes nothing else. -/
theorem dump_ok (h : p.dump.run s = ((.ok (), q), s')) :
    q = { p with pending := [] } ∧ s' = { s with content := p.made s } := by
  unfold dump at h
  by_cases hp : p.pending = []
  · rw [hp, List.isEmpty_nil, if_pos rfl] at h
    obtain ⟨rfl, rfl⟩ := ready_ok h
    rw [made, hp, List.append_nil, ← hp]
    exact ⟨rfl, rfl⟩
  · rw [if_neg (by rwa [List.isEmpty_iff])] at h
    obtain ⟨r, s₁, hput, hr⟩ := andThen_ok h
    obtain ⟨rfl, rfl⟩ := put_ok hput
    exact ready_ok hr

/-! ## Faithful packers -/

/-- The packer has taken in these bytes, and what it made says what its compressor has said. -/
structure Faithful (container : Container) (p : Packer) (s : BoundedSink) (written : Bytes) : Prop where
  container_eq : p.container = container
  coherent : p.compressor.Coherent
  data_eq : p.compressor.data.toList = written
  made_eq : ∃ pieces, p.made s = (if p.headed then container.header else []) ++ pieces ∧
    (p.headed = false → pieces = []) ∧ Continues pieces #[] (p.compressor.data.extract 0 p.compressor.said)

variable {container : Container} {written : Bytes}

theorem faithful_start (container : Container) (max : Nat) : Faithful container { container } { max } [] where
  container_eq := rfl
  coherent := Nat.le_refl 0
  data_eq := rfl
  made_eq := ⟨[], rfl, fun _ => rfl, .nil _⟩

theorem Faithful.dump (h : Faithful container p s written) (hd : p.dump.run s = ((.ok (), q), s')) :
    Faithful container q s' written := by
  obtain ⟨rfl, rfl⟩ := dump_ok hd
  obtain ⟨hk, hc, hdata, pieces, hmade, hnil, hcont⟩ := h
  refine ⟨hk, hc, hdata, pieces, ?_, hnil, hcont⟩
  rw [← hmade]
  exact List.append_nil _

/-- The long container has its header before anything else. -/
theorem Faithful.head (h : Faithful container p s written) (hq : p.head.run s = ((.ok (), q), s')) :
    Faithful container q s' written ∧ (container = .gzip → q.headed = true) := by
  unfold Packer.head at hq
  split at hq
  · rename_i hgzip hheaded
    obtain ⟨r, s₁, hput, hr⟩ := andThen_ok hq
    obtain ⟨rfl, rfl⟩ := put_ok hput
    obtain ⟨rfl, rfl⟩ := ready_ok hr
    obtain ⟨rfl, hc, hdata, pieces, hmade, hnil, hcont⟩ := h
    obtain rfl := hnil hheaded
    rw [hheaded, if_neg (by decide), List.append_nil] at hmade
    obtain ⟨hsink, hpending⟩ := List.append_eq_nil_iff.1 hmade
    refine ⟨⟨rfl, hc, hdata, [], ?_, fun _ => rfl, hcont⟩, fun _ => rfl⟩
    show (s.content ++ gzipHeader) ++ r.pending = r.container.header ++ []
    rw [hsink, hpending, hgzip]
    rfl
  · rename_i hother
    obtain ⟨rfl, rfl⟩ := ready_ok hq
    refine ⟨h, fun hgzip => ?_⟩
    cases hheaded : q.headed with
    | true => rfl
    | false => exact (hother (h.container_eq.trans hgzip) hheaded).elim

theorem Faithful.write {bytes : Bytes} (h : Faithful container p s written)
    (hq : (p.write bytes).run s = ((.ok (), q), s')) : Faithful container q s' (written ++ bytes) := by
  obtain ⟨p₁, s₁, h₁, hq⟩ := andThen_ok hq
  obtain ⟨p₂, s₂, h₂, hq⟩ := andThen_ok hq
  obtain ⟨rfl, rfl⟩ := ready_ok hq
  obtain ⟨hk, hc, hdata, pieces, hmade, hnil, hcont⟩ := (h.head h₁).1.dump h₂
  have hpush := p₂.compressor.data_push bytes
  refine ⟨hk, Compressor.coherent_push hc bytes, ?_, pieces, hmade, hnil, ?_⟩
  · show (p₂.compressor.push bytes).data.toList = _
    rw [hpush, Array.toList_append, hdata]
  · have hkept : (p₂.compressor.push bytes).data.extract 0 p₂.compressor.said =
        p₂.compressor.data.extract 0 p₂.compressor.said := by
      rw [hpush, Array.extract_append, Nat.sub_eq_zero_of_le hc]
      simp
    show Continues pieces #[] ((p₂.compressor.push bytes).data.extract 0 p₂.compressor.said)
    rwa [hkept]

/-- Compressed bytes go behind what was made, which has a header then. -/
theorem made_append {pieces : Bytes} (hk : p.container = container)
    (h : p.made s = (if p.headed then container.header else []) ++ pieces) (hn : p.headed = false → pieces = [])
    (hg : container = .gzip → p.headed = true) (bytes : Bytes) :
    (p.append bytes).made s = container.header ++ (pieces ++ bytes) := by
  have happend : (p.append bytes).made s = p.made s ++ (if p.headed then [] else zlibHeader) ++ bytes := by
    simp only [append, made, List.append_assoc]
  rw [happend, h]
  cases hheaded : p.headed with
  | true => simp
  | false =>
    cases container with
    | gzip => exact absurd (hg rfl) (by simp [hheaded])
    | zlib => simp [hn hheaded, Container.header]

theorem Faithful.flush (h : Faithful container p s written) (hq : p.flush.run s = ((.ok (), q), s')) :
    Faithful container q s' written := by
  obtain ⟨p₁, s₁, h₁, hq⟩ := andThen_ok hq
  obtain ⟨⟨hk, hc, hdata, pieces, hmade, hnil, hcont⟩, hg⟩ := h.head h₁
  let synced : Packer := { p₁ with compressor := p₁.compressor.sync.2 }
  have hall : p₁.compressor.data.extract 0 p₁.compressor.data.size = p₁.compressor.data := Array.extract_size
  have hpieces : Continues (pieces ++ p₁.compressor.sync.1) #[]
      (p₁.compressor.data.extract 0 p₁.compressor.data.size) := by
    rw [hall]
    exact hcont.append (continues_sync hc)
  have hsynced : Faithful container (synced.append p₁.compressor.sync.1) s₁ written := by
    refine ⟨hk, Nat.le_refl p₁.compressor.data.size, hdata, pieces ++ p₁.compressor.sync.1, ?_, nofun, hpieces⟩
    exact made_append (p := synced) hk hmade hnil hg _
  exact hsynced.dump hq

/-- The sums are in the last piece or by themselves behind it. -/
theorem content_trailer (hq : p.trailer.run s = ((.ok (), q), s')) (bytes : Bytes) (hp : s.content = bytes ++ p.sums) :
    s'.content = bytes ++ p.container.closing p.compressor.data.toList := by
  unfold trailer at hq
  unfold sums at hp
  cases hk : p.container with
  | gzip =>
    rw [hk] at hq hp
    obtain ⟨rfl, rfl⟩ := put_ok hq
    rw [hp, List.append_nil]
    rfl
  | zlib =>
    rw [hk] at hq hp
    obtain ⟨rfl, rfl⟩ := ready_ok hq
    exact hp

/-- The completed form: the header, pieces with the last of them, and the sums. -/
theorem Faithful.finish (h : Faithful container p s written) (hq : p.finish.run s = ((.ok (), q), s')) :
    ∃ pieces last between data, s'.content = container.header ++ (pieces ++ last ++ container.closing written) ∧
      Continues pieces #[] between ∧ Ends last between data ∧ data.toList = written := by
  obtain ⟨p₁, s₁, h₁, hq⟩ := andThen_ok hq
  obtain ⟨p₂, s₂, h₂, hq⟩ := andThen_ok hq
  obtain ⟨p₃, s₃, h₃, hq⟩ := andThen_ok hq
  obtain ⟨hf₁, hg₁⟩ := h.head h₁
  have hg₂ : container = .gzip → p₂.headed = true := by
    rw [(dump_ok h₂).1]
    exact hg₁
  obtain ⟨hk, hc, hdata, pieces, hmade, hnil, hcont⟩ := hf₁.dump h₂
  refine ⟨pieces, p₂.compressor.finish, _, p₂.compressor.data, ?_, hcont, ends_finish hc, hdata⟩
  obtain ⟨rfl, rfl⟩ := dump_ok h₃
  have hcontent := made_append hk hmade hnil hg₂ (p₂.compressor.finish ++ p₂.sums)
  rw [← List.append_assoc pieces, ← List.append_assoc container.header] at hcontent
  rw [content_trailer hq _ hcontent]
  show _ ++ p₂.container.closing p₂.compressor.data.toList = _
  rw [hk, hdata, List.append_assoc]

end Packer

/-- Requests that succeed keep a packer faithful. -/
theorem faithful_of_takes {container : Container} {max : Nat} {p : packing.Packer} {s : BoundedSink} {written : Bytes}
    (h : packing.Takes container max p s written) : Packer.Faithful container p s written := by
  induction h with
  | start => exact Packer.faithful_start container max
  | next r _ hr ih =>
    cases r with
    | write bytes => exact ih.write hr
    | flush =>
      rw [Packing.Request.bytes, List.append_nil]
      exact ih.flush hr

/-- **What was packed is unpacked.** -/
theorem inverts : packing.Inverts := by
  intro container max p s written out htakes hf
  have hfaithful := faithful_of_takes htakes
  have hfinish : (Packer.finish p).run s = ((.ok (), ((Packer.finish p).run s).1.2), out) := by
    have hrun : ((packing.finish p).run s) = (((Packer.finish p).run s).1.1, ((Packer.finish p).run s).2) :=
      Writing.run_bind (Packer.finish p) (fun r => .done r.1) s
    obtain ⟨hok, hout⟩ := Prod.mk.inj (hrun.symm.trans hf)
    exact Prod.ext (Prod.ext hok rfl) hout
  obtain ⟨pieces, last, between, data, hcontent, hc, he, rfl⟩ := hfaithful.finish hfinish
  refine streams_unpack ?_
  rw [hcontent]
  cases container with
  | gzip =>
    rw [unpack, Container.header, Container.closing]
    exact whole_unpackGzip hc he
  | zlib =>
    rw [unpack, Container.header, Container.closing]
    exact whole_unpackZlib hc he

end Deflate
end BrokerClient
