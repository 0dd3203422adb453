import BrokerClient.Codec.Json
import BrokerClient.Codec.Plain
import BrokerClient.Proofs.Codec.Selection

/-!
# Which codec is used

The reader of a message and its writer are chosen among those that are registered, by `bestOf`. What the order of the
registrations decides is which of several codecs of one priority is used: where the codec of the highest priority has
no equal, registering in another order changes nothing about decoding or encoding (`Reorders.decode_eq`,
`Reorders.encode_eq`). `selected` says which codec is used, when there is none, and that.
-/

namespace BrokerClient

open ByteStream

namespace Negotiator

variable {α : Type} {n n' : Negotiator α} {inc : Incoming Bytes} {m : Outgoing α}

/-! ## Registering in another order -/

/-- The same negotiator, with its codecs registered in another order. -/
structure Reorders (n' n : Negotiator α) : Prop where
  payload_eq : n'.payload = n.payload
  maxSize_eq : n'.maxSize = n.maxSize
  compression_eq : n'.compression = n.compression
  packing_eq : n'.packing = n.packing
  readers_perm : n'.readers.Perm n.readers
  writers_perm : n'.writers.Perm n.writers

/-- A negotiator decodes with the reader that it chooses, and no other counts. -/
theorem decode_congr (h : n'.readerFor inc = n.readerFor inc) (hmax : n'.maxSize = n.maxSize)
    (hpacking : n'.packing = n.packing) : n'.decode inc = n.decode inc := by
  cases n
  cases n'
  obtain rfl : _ = _ := hmax
  obtain rfl : _ = _ := hpacking
  rw [decode, decode, h]
  rfl

theorem encode_congr (h : n'.writerFor m = n.writerFor m) (hmax : n'.maxSize = n.maxSize)
    (hcompression : n'.compression = n.compression) (hpacking : n'.packing = n.packing) :
    n'.encode m = n.encode m := by
  cases n
  cases n'
  obtain rfl : _ = _ := hmax
  obtain rfl : _ = _ := hcompression
  obtain rfl : _ = _ := hpacking
  rw [encode, encode, h]
  rfl

theorem Reorders.decode_eq (h : n'.Reorders n) {r : Reader α}
    (hr : Unrivalled (·.applicable inc) (·.priority) n.readers r) : n'.decode inc = n.decode inc := by
  refine decode_congr ?_ h.maxSize_eq h.packing_eq
  rw [readerFor_eq, readerFor_eq, hr.bestOf_eq, (hr.perm h.readers_perm).bestOf_eq]
  rfl

theorem Reorders.encode_eq (h : n'.Reorders n) {w : Writer α}
    (hw : Unrivalled (·.applicable m) (·.priority) n.writers w) : n'.encode m = n.encode m := by
  refine encode_congr ?_ h.maxSize_eq h.compression_eq h.packing_eq
  rw [writerFor_eq, writerFor_eq, hw.bestOf_eq, (hw.perm h.writers_perm).bestOf_eq]
  rfl

/-- **Which codec is used.** Of the readers that are applicable to a message, the one that is used has the highest
priority and the last place among those of that priority, and there is none to use exactly when none is applicable;
writers likewise. Where the codec of the highest priority has no equal, the order of the registrations decides
nothing: decoding and encoding come out the same in every order. -/
theorem selected (n : Negotiator α) (inc : Incoming Bytes) (m : Outgoing α) :
    ((∀ r, n.readerFor inc = .ok r ↔ ∃ before behind, n.readers = before ++ r :: behind ∧
        Leads (·.applicable inc) (·.priority) before r behind) ∧
      ∀ e, n.readerFor inc = .error e ↔ e = .noReader n.payload ∧ ∀ r ∈ n.readers, r.applicable inc = false) ∧
    ((∀ w, n.writerFor m = .ok w ↔ ∃ before behind, n.writers = before ++ w :: behind ∧
        Leads (·.applicable m) (·.priority) before w behind) ∧
      ∀ e, n.writerFor m = .error e ↔ e = .noWriter n.payload ∧ ∀ w ∈ n.writers, w.applicable m = false) ∧
    ∀ n' : Negotiator α, n'.Reorders n →
      (∀ r, Unrivalled (·.applicable inc) (·.priority) n.readers r → n'.decode inc = n.decode inc) ∧
      ∀ w, Unrivalled (·.applicable m) (·.priority) n.writers w → n'.encode m = n.encode m := by
  refine ⟨⟨fun r => readerFor_eq_ok, fun e => readerFor_eq_error⟩,
    ⟨fun w => writerFor_eq_ok, fun e => writerFor_eq_error⟩, fun n' h => ⟨fun r hr => ?_, fun w hw => ?_⟩⟩
  · exact h.decode_eq hr
  · exact h.encode_eq hw

/-! ## Bytes as numbers, or as they are -/

/-- JSON comes before bytes as they are, and among the writers for JSON the one that sets a kind. -/
def forNumbers (readers : List (Reader Bytes)) (writers : List (Writer Bytes)) : Negotiator Bytes where
  payload := "bytes"
  readers
  writers
  maxSize := 64

def numbers : Outgoing Bytes := .ofCast "ex" "numbers" {} [1, 2]

/-- The two numbers as JSON. -/
def listed : Envelope Bytes :=
  ⟨"ex", "numbers", { contentType := some JsonCodec.contentType, kind := some "numbers" },
    [0x5B, 0x31, 0x2C, 0x32, 0x5D]⟩

def arrived : Incoming Bytes := .cast listed ⟨"numbers", 1, false⟩

/-- Whichever codec is registered first, the numbers are written as JSON under their kind, and JSON is read. -/
theorem selected_numbers :
    let n := forNumbers [BytesCodec.reader, JsonCodec.reader 1]
      [JsonCodec.writer none 3, BytesCodec.writer, JsonCodec.writer (some "numbers") 7]
    let n' := forNumbers [JsonCodec.reader 1, BytesCodec.reader]
      [JsonCodec.writer (some "numbers") 7, JsonCodec.writer none 3, BytesCodec.writer]
    n.readerFor arrived = .ok (JsonCodec.reader 1) ∧ n'.decode arrived = n.decode arrived ∧
      n.encode numbers = .ok (.cast listed) ∧ n'.encode numbers = .ok (.cast listed) := by
  intro n n'
  have hjson : JsonCodec.isJson (some JsonCodec.contentType) = true := by decide +kernel
  have hreader : Unrivalled (·.applicable arrived) (·.priority) n.readers (JsonCodec.reader 1) :=
    ⟨hjson, [BytesCodec.reader], .swap .., List.forall_mem_cons.2 ⟨fun _ => by decide, nofun⟩⟩
  have hwriter : Unrivalled (·.applicable numbers) (·.priority) n.writers (JsonCodec.writer (some "numbers") 7) :=
    ⟨rfl, [JsonCodec.writer none 3, BytesCodec.writer], List.perm_append_singleton _ [_, _],
      List.forall_mem_cons.2 ⟨fun _ => by decide, List.forall_mem_cons.2 ⟨fun _ => by decide, nofun⟩⟩⟩
  have hreorders : n'.Reorders n := ⟨rfl, rfl, rfl, rfl, .swap .., (List.perm_append_singleton _ [_, _]).symm⟩
  have hwritten : n.encode numbers = .ok (.cast listed) := rfl
  obtain ⟨⟨hused, -⟩, -, horder⟩ := selected n arrived numbers
  obtain ⟨hdecode, hencode⟩ := horder n' hreorders
  refine ⟨(hused _).2 ⟨[BytesCodec.reader], [], rfl, hjson, ?_, nofun⟩, hdecode _ hreader, hwritten,
    (hencode _ hwriter).trans hwritten⟩
  exact List.forall_mem_cons.2 ⟨fun _ => by decide, nofun⟩

end Negotiator
end BrokerClient
