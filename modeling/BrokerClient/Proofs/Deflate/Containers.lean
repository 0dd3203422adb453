import BrokerClient.Deflate.Container
import BrokerClient.Proofs.Deflate.Blocks

/-!
# Containers read back

A header, pieces of compressed data with the last of them, and the sums of the data: unpacking that gives the
data and then its end, in either container. What `Unpacked.Whole` says of the result is all that a reader of it
needs to know: the portions put together are the data, no failure is behind them, and no decoder gave up on
bytes that nobody had taken.
-/

namespace BrokerClient.Deflate

/-! ## Portions -/

theorem after_portionsAt {last : After} (hlast : last ≠ .givesUp) (size : Nat) {pauses : List Pause}
    (h : ∀ p ∈ pauses, p.after ≠ .givesUp) (bytes : Bytes) :
    ∀ p ∈ portionsAt last size pauses bytes, p.after ≠ .givesUp := by
  induction pauses generalizing size bytes with
  | nil =>
    intro p hp
    rw [portionsAt, List.mem_singleton] at hp
    rw [hp]
    exact hlast
  | cons pause pauses ih =>
    intro p hp
    rcases List.mem_cons.1 hp with rfl | hp
    · exact h pause (List.mem_cons_self ..)
    · exact ih pause.size (fun q hq => h q (List.mem_cons_of_mem _ hq)) _ p hp

/-- All of some bytes can be had, and then comes their end. -/
structure Unpacked.Whole (u : Unpacked) (bytes : Bytes) : Prop where
  bytes_eq : u.bytes = bytes
  fault_eq : u.fault = none
  kept : ∀ p ∈ u.portions, p.after ≠ .givesUp

theorem whole_portions {o : Outlet} (h : o.Clean) : Unpacked.Whole ⟨o.portions .rests, none⟩ o.out.toList where
  bytes_eq := flatten_portions .rests o
  fault_eq := rfl
  kept := after_portionsAt (by decide) 0 (fun p hp => h p (List.mem_reverse.1 hp)) _

/-! ## Headers and sums -/

/-- The source behind a header. -/
theorem at_dropBytes (header rest : Bytes) {n : Nat} (hn : header.length = n) :
    ((BitSource.ofBytes (header ++ rest)).dropBytes n).At rest := by
  subst hn
  exact ⟨rfl, List.drop_left⟩

variable {pieces last : Bytes} {between data : Array UInt8}

/-- Compressed data is closed with what came out and what stands behind it. -/
theorem unpackWith_pieces (close : Outlet → BitSource → Unpacked) (hc : Continues pieces #[] between)
    (he : Ends last between data) {s : BitSource} {sums : Bytes} (hs : s.At (pieces ++ last ++ sums))
    (total origin bit : Nat) :
    ∃ o s', unpackWith close s (.start total origin bit) = close o s' ∧ s'.At sums ∧ o.Clean ∧ o.out = data := by
  obtain ⟨o, s', h, hat, ho, hout⟩ :=
    inflate_pieces hc he hs (Outlet.clean_start total origin bit) rfl
  refine ⟨o, s'.align, ?_, hat, ho, hout⟩
  rw [unpackWith, h]

theorem length_bigEndian (n : UInt32) : (bigEndian n).length = 4 := rfl

theorem length_gzipTrailer (bytes : Bytes) : (gzipTrailer bytes).length = 8 := rfl

theorem headerBytes_append (bytes : Bytes) {n : Nat} (hn : bytes.length = n) (read rest : Bytes) :
    headerBytes n ⟨read, bytes ++ rest⟩ = .ok (bytes, ⟨bytes.reverse ++ read, rest⟩) := by
  subst hn
  simp only [headerBytes, List.take_left, List.drop_left, Nat.lt_irrefl, if_false]

theorem gzipHead_gzipHeader (rest : Bytes) :
    gzipHead ⟨[], gzipHeader ++ rest⟩ = .ok (0, ⟨gzipHeader.reverse, rest⟩) := by
  have h := headerBytes_append gzipHeader (n := 10) rfl [] rest
  simp only [gzipHead, bind, StateT.bind, Except.bind, h]
  rfl

theorem unpackZlib_zlibHeader (rest : Bytes) : unpackZlib (zlibHeader ++ rest) =
    unpackWith closeZlib ((BitSource.ofBytes (zlibHeader ++ rest)).dropBytes 2)
      (.start (8 * (zlibHeader ++ rest).length) 0 0) := by
  have hheader : isZlibHeader (0x78 : UInt8).toNat (0x9C : UInt8).toNat = true := by decide
  simp only [zlibHeader, List.cons_append, List.nil_append, unpackZlib, hheader, if_true]

theorem unpackGzip_gzipHeader (rest : Bytes) : unpackGzip (gzipHeader ++ rest) =
    unpackWith closeGzip ((BitSource.ofBytes (gzipHeader ++ rest)).dropBytes 10)
      (.start (8 * (gzipHeader ++ rest).length) 0 80) := by
  rw [unpackGzip, gzipHead_gzipHeader]
  rfl

/-! ## Round trips -/

/-- **The short container gives back what was compressed.** -/
theorem whole_unpackZlib (hc : Continues pieces #[] between) (he : Ends last between data) :
    (unpackZlib (zlibHeader ++ (pieces ++ last ++ bigEndian (adler32 data.toList)))).Whole data.toList := by
  have hat := at_dropBytes zlibHeader (pieces ++ last ++ bigEndian (adler32 data.toList)) (n := 2) rfl
  rw [unpackZlib_zlibHeader]
  generalize 8 * (zlibHeader ++ _).length = total
  obtain ⟨o, s, h, hs, ho, hout⟩ := unpackWith_pieces closeZlib hc he hat total 0 0
  have hsums : s.bytes.take 4 = bigEndian (adler32 data.toList) := by
    rw [hs.2]
    rfl
  have hawait : (o.await (s.taken + 32)).out = data := by rw [Outlet.out_await, hout]
  have hw := whole_portions (ho.await (s.taken + 32))
  rw [hawait] at hw
  rw [h, closeZlib, hsums, length_bigEndian, if_neg (by decide)]
  simp only [hawait, if_true]
  exact hw

/-- **The long container gives back what was compressed.** -/
theorem whole_unpackGzip (hc : Continues pieces #[] between) (he : Ends last between data) :
    (unpackGzip (gzipHeader ++ (pieces ++ last ++ gzipTrailer data.toList))).Whole data.toList := by
  have hat := at_dropBytes gzipHeader (pieces ++ last ++ gzipTrailer data.toList) (n := 10) rfl
  rw [unpackGzip_gzipHeader]
  generalize 8 * (gzipHeader ++ _).length = total
  obtain ⟨o, s, h, hs, ho, hout⟩ := unpackWith_pieces closeGzip hc he hat total 0 80
  have htrailer : s.bytes.take 8 = gzipTrailer data.toList := by
    rw [hs.2]
    rfl
  rw [h, closeGzip, htrailer, length_gzipTrailer, if_neg (by decide), hout, if_pos rfl, ← hout]
  exact whole_portions ho

end BrokerClient.Deflate
