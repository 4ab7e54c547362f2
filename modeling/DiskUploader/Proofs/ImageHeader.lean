import Mathlib
import DiskUploader.Proofs.ImageBody

/-!
# Inspecting an image's header

Peeking at an image reads its first 72 bytes, however small the pieces the stream hands them out
in, and answers what they show together with a replay that yields every byte of the stream again.
A stream shorter than a header is refused as a bad argument, and no other stream is refused.

Of a header, the first four bytes tell a qcow image from a raw one. A qcow image's version and
disk size are the numbers written big-endian in 4 bytes at offset 4 and in 8 bytes at offset 24:
a number written there reads back as itself, whatever the other bytes are.
-/

namespace DiskUploader

theorem ByteArray.get!_of_lt {bs : ByteArray} {i : Nat} (h : i < bs.size) : bs.get! i = bs[i] := by
  obtain ⟨data⟩ := bs
  exact getElem!_pos data i h

def bigEndianBytes (len n : Nat) : ByteArray :=
  ((List.range len).map fun i => (n / 256 ^ (len - 1 - i) % 256).toUInt8).toByteArray

@[simp] theorem size_bigEndianBytes (len n : Nat) : (bigEndianBytes len n).size = len := by
  simp [bigEndianBytes]

theorem getElem_bigEndianBytes {len n i : Nat} (h : i < (bigEndianBytes len n).size) :
    ((bigEndianBytes len n)[i]).toNat = n / 256 ^ (len - 1 - i) % 256 := by
  simp [bigEndianBytes, List.getElem_toByteArray]

/-- Reading the first `k` of the `len` big-endian bytes of `n` gives `n` without its last
`len - k` digits. -/
theorem bigEndian_prefix {bs : ByteArray} {off len n : Nat} (hn : n < 256 ^ len)
    (hb : ∀ i < len, (bs.get! (off + i)).toNat = n / 256 ^ (len - 1 - i) % 256) :
    ∀ k ≤ len,
      (List.range k).foldl (fun acc i => acc * 256 + (bs.get! (off + i)).toNat) 0 =
        n / 256 ^ (len - k) := by
  intro k
  induction k with
  | zero =>
    intro _
    simp [Nat.div_eq_of_lt hn]
  | succ k ih =>
    intro hk
    rw [List.range_succ, List.foldl_append, ih (by omega), List.foldl_cons, List.foldl_nil,
      hb k (by omega)]
    -- one more digit: the number so far moves up a place and takes the next digit
    have hplace : len - k = (len - 1 - k) + 1 := by omega
    rw [hplace, Nat.pow_succ, ← Nat.div_div_eq_div_mul, show len - (k + 1) = len - 1 - k by omega]
    exact Nat.div_add_mod' _ _

theorem bigEndian_of_extract {bs : ByteArray} {off len n : Nat} (hs : off + len ≤ bs.size)
    (hn : n < 256 ^ len) (h : bs.extract off (off + len) = bigEndianBytes len n) :
    bigEndian bs off len = n := by
  have hb : ∀ i < len, (bs.get! (off + i)).toNat = n / 256 ^ (len - 1 - i) % 256 := by
    intro i hi
    have hsz : i < (bs.extract off (off + len)).size := by
      simp only [ByteArray.size_extract]
      omega
    rw [ByteArray.get!_of_lt (by omega), ← ByteArray.getElem_extract hsz]
    generalize bs.extract off (off + len) = w at h hsz
    subst h
    exact getElem_bigEndianBytes hsz
  have hread := bigEndian_prefix hn hb len le_rfl
  simpa [bigEndian] using hread

/-- A header with `v` written at offset 4 and `z` at offset 24 is a qcow image of version `v` and
disk size `z` when it opens with the magic, and a raw image of the declared size otherwise. -/
theorem sniff_header (d : Nat) {bs : ByteArray} (hs : qcowHeaderLength ≤ bs.size) {v z : Nat}
    (hv : v < 2 ^ 32) (hz : z < 2 ^ 64) (h4 : bs.extract 4 8 = bigEndianBytes 4 v)
    (h24 : bs.extract 24 32 = bigEndianBytes 8 z) :
    sniff d bs = .ok (if (bs.extract 0 4).toList = qcowMagic then ⟨.cow, z, d, some v⟩
      else ⟨.raw, d, d, none⟩) := by
  have hsize : ¬ bs.size < qcowHeaderLength := Nat.not_lt.2 hs
  have hversion : bigEndian bs 4 4 = v :=
    bigEndian_of_extract (by simp only [qcowHeaderLength] at hs; omega) (by simpa using hv) h4
  have hdisk : bigEndian bs 24 8 = z :=
    bigEndian_of_extract (by simp only [qcowHeaderLength] at hs; omega) (by simpa using hz) h24
  unfold sniff QcowHeader.parse
  by_cases hmagic : (bs.extract 0 4).toList = qcowMagic
  · simp [hsize, hmagic, hversion, hdisk]
  · simp [hsize, hmagic]

namespace ImageSource

/-- Reading ahead from a stream shorter than `target` takes the whole stream, provided the fuel
covers one read per byte and the empty read that ends it. -/
theorem fill_short {target : Nat} :
    ∀ (fuel : Nat) (s : ImageSource), s.position ≤ s.bytes.size →
      s.bytes.size < target → s.bytes.size - s.position < fuel →
      (fill target fuel (s.bytes.extract 0 s.position) s).1 = s.bytes
  | 0, _, _, _, hf => absurd hf (Nat.not_lt_zero _)
  | fuel + 1, s, hp, ht, hf => by
    generalize hk : min (target - s.position) (min (s.chunking.size s.position) s.remaining) = k
    rw [fill_succ hp (by omega) hk]
    by_cases hk0 : k = 0
    · -- an empty read: the stream is used up, and all of it has been read
      have hend : s.position = s.bytes.size := by
        have := s.chunking.pos s.position
        simp only [remaining] at hk
        omega
      rw [if_pos hk0]
      show s.bytes.extract 0 s.position = s.bytes
      rw [hend, ByteArray.extract_zero_size]
    · -- a read of at least one byte: reading goes on from where it stopped
      have hkle : k ≤ s.bytes.size - s.position := by
        simp only [remaining] at hk
        omega
      rw [if_neg hk0]
      exact fill_short fuel { s with position := s.position + k } (by dsimp only; omega) ht
        (by dsimp only; omega)

end ImageSource

theorem Replay.drain_rest {want : Nat} (hw : 0 < want) :
    ∀ (fuel : Nat) (acc : ByteArray) (r : Replay), r.source.Sound → r.rest.size < fuel →
      Replay.drain want fuel acc r = acc ++ r.rest
  | 0, _, _, _, hf => absurd hf (Nat.not_lt_zero _)
  | fuel + 1, acc, r, hr, hf => by
    have ht := Replay.read_takes hr hw
    rw [Replay.drain]
    generalize r.read want = p at ht
    obtain ⟨bs, r'⟩ := p
    dsimp only at ht ⊢
    have hlen := congrArg ByteArray.size ht.prefix_rest
    simp only [ByteArray.size_append] at hlen
    by_cases hbs : bs.size = 0
    · -- an empty read comes only from a replay that holds nothing
      have hnil : r.rest.size = 0 := by
        by_contra hne
        exact absurd (ht.progress (Nat.pos_of_ne_zero hne)) (by omega)
      simp only [hbs, if_true, ByteArray.size_eq_zero_iff.1 hnil, ByteArray.append_empty]
    · rw [if_neg hbs, drain_rest hw fuel (acc ++ bs) r' ht.sound (by omega),
        ByteArray.append_assoc, ht.prefix_rest]

theorem peekImage_short {s : ImageSource} (h0 : s.position = 0)
    (hsize : s.bytes.size < qcowHeaderLength) (declared : Nat) :
    ∃ f, peekImage s declared = .error f ∧ f.code = .badArgument := by
  have hfill := ImageSource.fill_short (qcowHeaderLength + 1) s (by omega) hsize (by omega)
  rw [h0, ByteArray.extract_same] at hfill
  unfold peekImage
  generalize s.fill qcowHeaderLength (qcowHeaderLength + 1) ByteArray.empty = p at hfill
  obtain ⟨ahead, rest⟩ := p
  dsimp only at hfill ⊢
  subst hfill
  obtain ⟨f, hf, hcode⟩ := @sniff_short declared _ hsize
  exact ⟨f, by rw [hf], hcode⟩

section Peek

variable (s : ByteArray) (ch : Chunking) (d : Nat)

/-- Peeking at bytes that hold a whole header answers the sniff of the first 72 of them, with a
replay that, read to its end in pieces of any positive size, yields every byte. -/
theorem peekImage_long (hs : qcowHeaderLength ≤ s.size) :
    ∃ info r, peekImage { bytes := s, chunking := ch } d = .ok (info, r) ∧
      sniff d (s.extract 0 qcowHeaderLength) = .ok info ∧
      ∀ want, 0 < want → Replay.drain want (s.size + 1) ByteArray.empty r = s := by
  obtain ⟨info, hinfo⟩ := @sniff_ok d (s.extract 0 qcowHeaderLength)
    (by simp only [ByteArray.size_extract]; omega)
  -- the replay holds the whole stream, read ahead part first
  have hbody := Body.holds_start (s := { bytes := s, chunking := ch }) hs 0
  refine ⟨info, _, by rw [peekImage_replay rfl hs d, hinfo]; rfl, hinfo, fun want hw => ?_⟩
  rw [Replay.drain_rest hw _ _ _ hbody.sound (by rw [hbody.rest]; simp), hbody.rest,
    ByteArray.empty_append, ByteArray.extract_zero_size]

/-- Bytes that open with the magic, with `v` written at offset 4 and `z` at offset 24, peek as a
qcow image of version `v` and disk size `z`. -/
theorem peekImage_cow {v z : Nat} (hs : qcowHeaderLength ≤ s.size)
    (hmagic : (s.extract 0 4).toList = qcowMagic) (hv : v < 2 ^ 32) (hz : z < 2 ^ 64)
    (h4 : s.extract 4 8 = bigEndianBytes 4 v) (h24 : s.extract 24 32 = bigEndianBytes 8 z) :
    ∃ r, peekImage { bytes := s, chunking := ch } d = .ok (⟨.cow, z, d, some v⟩, r) := by
  obtain ⟨info, r, hpeek, hsniff, -⟩ := peekImage_long s ch d hs
  -- the header read ahead shows the stream's own first bytes
  have hwindow : ∀ i j, j ≤ qcowHeaderLength →
      (s.extract 0 qcowHeaderLength).extract i j = s.extract i j := fun i j hj => by
    rw [ByteArray.extract_extract, Nat.zero_add, Nat.zero_add, Nat.min_eq_left hj]
  have hcow := @sniff_header d (s.extract 0 qcowHeaderLength)
    (by simp only [ByteArray.size_extract]; omega) v z hv hz
    ((hwindow 4 8 (by decide)).trans h4) ((hwindow 24 32 (by decide)).trans h24)
  rw [hwindow 0 4 (by decide), if_pos hmagic, hsniff] at hcow
  cases hcow
  exact ⟨r, hpeek⟩

end Peek

/-- Peeking at the bytes `s`, handed out in pieces as any chunking allows, refuses them as a bad
argument exactly when they are shorter than a header. Otherwise it answers the sniff
of the first 72 bytes, with a replay that, read to its end in pieces of any positive size, yields
exactly `s`. A sniff of a whole header answers a qcow image, with the numbers written big-endian at
offsets 4 and 24 as its version and disk size, when the header opens with the magic, and a raw
image of the declared size otherwise. So bytes that open with the magic, with `v` at offset 4 and
`z` at offset 24, peek as a qcow image of version `v` and size `z`, whatever the other bytes. -/
theorem peekImage_sniffs (s : ByteArray) (ch : Chunking) (d : Nat) :
    ((∃ f, peekImage { bytes := s, chunking := ch } d = .error f ∧ f.code = .badArgument) ↔
        s.size < qcowHeaderLength) ∧
    (qcowHeaderLength ≤ s.size → ∃ info r,
        peekImage { bytes := s, chunking := ch } d = .ok (info, r) ∧
        sniff d (s.extract 0 qcowHeaderLength) = .ok info ∧
        ∀ want, 0 < want → Replay.drain want (s.size + 1) ByteArray.empty r = s) ∧
    (∀ bs : ByteArray, qcowHeaderLength ≤ bs.size → ∀ v z, v < 2 ^ 32 → z < 2 ^ 64 →
        bs.extract 4 8 = bigEndianBytes 4 v → bs.extract 24 32 = bigEndianBytes 8 z →
        sniff d bs = .ok (if (bs.extract 0 4).toList = qcowMagic then ⟨.cow, z, d, some v⟩
          else ⟨.raw, d, d, none⟩)) ∧
    (∀ v z, qcowHeaderLength ≤ s.size → (s.extract 0 4).toList = qcowMagic → v < 2 ^ 32 →
        z < 2 ^ 64 → s.extract 4 8 = bigEndianBytes 4 v →
        s.extract 24 32 = bigEndianBytes 8 z →
        ∃ r, peekImage { bytes := s, chunking := ch } d = .ok (⟨.cow, z, d, some v⟩, r)) := by
  refine ⟨⟨fun ⟨f, hf, _⟩ => ?_, fun hlt => peekImage_short rfl hlt d⟩, peekImage_long s ch d,
    fun bs hs v z hv hz h4 h24 => sniff_header d hs hv hz h4 h24,
    fun v z hs hmagic hv hz h4 h24 => peekImage_cow s ch d hs hmagic hv hz h4 h24⟩
  -- a whole header is never refused
  by_contra hlt
  obtain ⟨info, r, hpeek, -⟩ := peekImage_long s ch d (Nat.le_of_not_lt hlt)
  rw [hpeek] at hf
  cases hf

/-- A qcow header of version 3 for a disk of 1 GiB, padded with sevens and handed out in pieces of
one to five bytes as the position says, peeks as a qcow image of version 3 and size 1 GiB. -/
theorem peekImage_sniffs_qcow_in_fives :
    let img : ByteArray := ⟨#[0x51, 0x46, 0x49, 0xfb, 0, 0, 0, 3] ++ Array.replicate 16 7 ++
      #[0, 0, 0, 0, 0x40, 0, 0, 0] ++ Array.replicate 40 7⟩
    let ch : Chunking := ⟨fun p => p % 5 + 1, fun _ => Nat.succ_pos _⟩
    qcowHeaderLength ≤ img.size ∧ (img.extract 0 4).toList = qcowMagic ∧
      ∃ r, peekImage { bytes := img, chunking := ch } 4096 = .ok (⟨.cow, 2 ^ 30, 4096, some 3⟩, r) :=
  ⟨by decide, by decide +kernel, (peekImage_sniffs _ _ 4096).2.2.2 3 (2 ^ 30) (by decide)
    (by decide +kernel) (by decide) (by decide) (by decide +kernel) (by decide +kernel)⟩

end DiskUploader
