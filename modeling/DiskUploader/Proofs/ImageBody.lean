import DiskUploader.Image.Stream

/-!
# Reading an image body

A stream that hands out at least one byte per read yields its bytes in order. Reading ahead
fills the first bytes of such a stream for as long as it holds them. A replay yields what is left
of the bytes read ahead and then the rest of the stream, so each read takes a prefix of what the
replay still holds, and a read that asks for bytes of a replay that holds some takes at least one.
A body cut off after `n` bytes of a stream that holds them thus yields exactly the stream's first
`n` bytes, whatever sizes it is read in.
-/

namespace DiskUploader

namespace ImageSource

/-- A stream that has not read past its end. -/
structure Sound (s : ImageSource) : Prop where
  position : s.position ≤ s.bytes.size

def rest (s : ImageSource) : ByteArray := s.bytes.extract s.position s.bytes.size

variable {s : ImageSource}

theorem read_spec (hs : s.Sound) (want : Nat) :
    (s.read want).1 ++ (s.read want).2.rest = s.rest ∧
      (s.read want).1.size = min want (min (s.chunking.size s.position) s.remaining) ∧
      (s.read want).2.Sound ∧ (s.read want).2.bytes = s.bytes := by
  have hp := hs.position
  have hk : min want (min (s.chunking.size s.position) (s.bytes.size - s.position)) ≤
      s.bytes.size - s.position :=
    Nat.le_trans (Nat.min_le_right _ _) (Nat.min_le_right _ _)
  refine ⟨?_, ?_, ⟨?_⟩, rfl⟩
  · simp only [read, rest, remaining, ByteArray.extract_append_extract]
    congr 1
    all_goals omega
  · simp only [read, ByteArray.size_extract, remaining]
    omega
  · simp only [read, remaining]
    omega

/-- One round of reading ahead, short of the target: the stream hands out the next `k` bytes, as
many as are missing, the chunking and the rest allow; an empty read ends the reading, and any
other read grows the bytes read so far by what it handed out. -/
theorem fill_succ {target fuel k : Nat} {s : ImageSource} (hp : s.position ≤ s.bytes.size)
    (ht : s.position < target)
    (hk : min (target - s.position) (min (s.chunking.size s.position) s.remaining) = k) :
    fill target (fuel + 1) (s.bytes.extract 0 s.position) s =
      if k = 0 then (s.bytes.extract 0 s.position, { s with position := s.position + k })
      else fill target fuel (s.bytes.extract 0 (s.position + k))
        { s with position := s.position + k } := by
  have hsize : (s.bytes.extract 0 s.position).size = s.position := by
    simp only [ByteArray.size_extract]
    omega
  have hkle : k ≤ s.bytes.size - s.position := by
    simp only [remaining] at hk
    omega
  have hread : s.read (target - s.position) =
      (s.bytes.extract s.position (s.position + k), { s with position := s.position + k }) := by
    simp only [read, hk]
  rw [fill, hsize, if_neg (Nat.not_le.2 ht), hread]
  dsimp only
  by_cases hk0 : k = 0
  · rw [if_pos hk0, if_pos (by simp [hk0])]
  · have hbs : (s.bytes.extract s.position (s.position + k)).size ≠ 0 := by
      simp only [ByteArray.size_extract]
      omega
    rw [if_neg hk0, if_neg hbs, ByteArray.extract_append_extract]
    congr 2
    all_goals omega

/-- Reading ahead from a position up to `target` fills the bytes up to `target`, and leaves the
stream there, provided it holds them and the fuel covers one read per byte. -/
theorem fill_prefix {target : Nat} :
    ∀ (fuel : Nat) (s : ImageSource), s.position ≤ target → target ≤ s.bytes.size →
      target - s.position < fuel →
      fill target fuel (s.bytes.extract 0 s.position) s =
        (s.bytes.extract 0 target, { s with position := target })
  | 0, _, _, _, hf => absurd hf (Nat.not_lt_zero _)
  | fuel + 1, s, hp, ht, hf => by
    by_cases hdone : target ≤ s.position
    · -- the stream already stands at the target
      obtain rfl : s.position = target := by omega
      have hsize : (s.bytes.extract 0 s.position).size = s.position := by
        simp only [ByteArray.size_extract]
        omega
      rw [fill, hsize]
      simp
    · -- one read takes between one byte and the bytes still missing
      have hk₀ : 0 < min (target - s.position) (min (s.chunking.size s.position) s.remaining) := by
        have := s.chunking.pos s.position
        simp only [remaining, Nat.lt_min]
        omega
      have hk₁ : min (target - s.position) (min (s.chunking.size s.position) s.remaining) ≤
          target - s.position :=
        Nat.min_le_left _ _
      generalize hk : min (target - s.position) (min (s.chunking.size s.position) s.remaining) = k
        at hk₀ hk₁
      rw [fill_succ (by omega) (by omega) hk, if_neg (by omega)]
      exact fill_prefix fuel { s with position := s.position + k } (by dsimp only; omega) ht
        (by dsimp only; omega)

end ImageSource

namespace Replay

/-- What a replay still yields: what is left of the bytes read ahead, unless it has gone on to
the stream, then the rest of the stream. -/
def rest (r : Replay) : ByteArray :=
  (if r.drained then ByteArray.empty else r.ahead.extract r.offset r.ahead.size) ++ r.source.rest

/-- One read of a replay: a prefix of what it holds, at most what was asked for, at least one
byte when it holds any, and the stream stays sound. -/
structure Takes (r : Replay) (want : Nat) (bs : ByteArray) (r' : Replay) : Prop where
  prefix_rest : bs ++ r'.rest = r.rest
  bounded : bs.size ≤ want
  progress : 0 < r.rest.size → 0 < bs.size
  sound : r'.source.Sound

variable {r : Replay} {want : Nat}

theorem read_takes (hr : r.source.Sound) (hw : 0 < want) :
    r.Takes want (r.read want).1 (r.read want).2 := by
  obtain ⟨hpre, hsize, hsound, -⟩ := r.source.read_spec hr want
  -- a read of the stream takes at least one byte when the stream holds any
  have hstream : 0 < r.source.rest.size → 0 < (r.source.read want).1.size := by
    intro h
    rw [hsize]
    simp only [ImageSource.rest, ByteArray.size_extract, ImageSource.remaining] at h ⊢
    have := r.source.chunking.pos r.source.position
    simp only [Nat.lt_min]
    omega
  unfold Replay.read
  by_cases hd : r.drained
  · simp only [hd, if_true]
    refine ⟨?_, by omega, ?_, hsound⟩
    · simpa [rest, hd] using hpre
    · simpa [rest, hd] using hstream
  · simp only [hd, Bool.false_eq_true, if_false]
    by_cases hn : min want (r.ahead.size - r.offset) = 0
    · -- the bytes read ahead are used up: the read goes on to the stream
      have hempty : r.ahead.extract r.offset r.ahead.size = ByteArray.empty := by
        rw [ByteArray.extract_eq_empty_iff]
        omega
      simp only [hn, Nat.ne_of_gt hw, ne_eq, not_false_eq_true, decide_true, Bool.and_self,
        if_true]
      refine ⟨?_, by omega, ?_, hsound⟩
      · simpa [rest, hd, hempty] using hpre
      · simpa [rest, hd, hempty] using hstream
    · simp only [hn, decide_false, Bool.false_and, Bool.false_eq_true, if_false]
      refine ⟨?_, ?_, ?_, hr⟩
      · simp only [rest, hd, Bool.false_eq_true, if_false, ← ByteArray.append_assoc,
          ByteArray.extract_append_extract]
        congr 2
        all_goals omega
      · simp only [ByteArray.size_extract]
        omega
      · intro _
        simp only [ByteArray.size_extract]
        omega


theorem read_zero (hr : r.source.Sound) :
    (r.read 0).1 = ByteArray.empty ∧ (r.read 0).2.rest = r.rest ∧ (r.read 0).2.source.Sound := by
  obtain ⟨hpre, hsize, hsound, -⟩ := r.source.read_spec hr 0
  have hempty : (r.source.read 0).1 = ByteArray.empty := by
    rw [← ByteArray.size_eq_zero_iff]
    simpa using hsize
  unfold Replay.read
  by_cases hd : r.drained
  · simp only [hd, if_true]
    refine ⟨hempty, ?_, hsound⟩
    simp only [rest, hd, if_true, ← hpre, hempty, ByteArray.empty_append]
  · simp only [hd, Bool.false_eq_true, if_false, Nat.zero_min, ne_eq, not_true_eq_false,
      decide_false, Bool.and_false]
    refine ⟨by simp, ?_, hr⟩
    simp [rest, hd]

/-- A replay asked for nothing, or with nothing left, hands over nothing and keeps what it
yields. -/
theorem read_nothing (hr : r.source.Sound) (h : r.rest.size = 0 ∨ want = 0) :
    (r.read want).1 = ByteArray.empty ∧ (r.read want).2.rest = r.rest ∧
      (r.read want).2.source.Sound := by
  rcases Nat.eq_zero_or_pos want with rfl | hw
  · exact read_zero hr
  have he : r.rest.size = 0 := h.resolve_right (Nat.pos_iff_ne_zero.1 hw)
  have ht := read_takes hr hw
  have hsize := congrArg ByteArray.size ht.prefix_rest
  simp only [ByteArray.size_append, he] at hsize
  refine ⟨ByteArray.size_eq_zero_iff.1 (by omega), ?_, ht.sound⟩
  rw [ByteArray.size_eq_zero_iff.1 he]
  exact ByteArray.size_eq_zero_iff.1 (by omega)

end Replay

/-- A body that has yielded `k` bytes of `B`, cut off after `n`: it still yields `B` from `k` on,
up to the cut or the end of `B`, whichever comes first. -/
structure Body.Holds (b : Body) (B : ByteArray) (n k : Nat) : Prop where
  sound : b.replay.source.Sound
  rest : b.replay.rest = B.extract k B.size
  limit : b.limit = n - k
  le : k ≤ n
  le_size : k ≤ B.size

/-- A body that yields the bytes of `B` from `k` on, up to `n`. -/
structure Body.At (b : Body) (B : ByteArray) (n k : Nat) : Prop where
  sound : b.replay.source.Sound
  rest : b.replay.rest = B.extract k B.size
  limit : b.limit = n - k
  le : k ≤ n
  within : n ≤ B.size

namespace Body

variable {b : Body} {B : ByteArray} {n k want : Nat}

theorem At.holds (hb : b.At B n k) : b.Holds B n k :=
  ⟨hb.sound, hb.rest, hb.limit, hb.le, Nat.le_trans hb.le hb.within⟩

theorem Holds.at (hb : b.Holds B n k) (hn : n ≤ B.size) : b.At B n k :=
  ⟨hb.sound, hb.rest, hb.limit, hb.le, hn⟩

/-- While bytes are left, a read that asks for some hands over the next ones of `B`, at least
one and at most those asked for. -/
theorem read_next (hb : b.Holds B n k) (hk : k < n) (hks : k < B.size) (hw : 0 < want) :
    ∃ m, 0 < m ∧ m ≤ want ∧ k + m ≤ n ∧ k + m ≤ B.size ∧
      (b.read want).1 = B.extract k (k + m) ∧ (b.read want).2.Holds B n (k + m) := by
  have hlim : b.limit ≠ 0 := by rw [hb.limit]; omega
  have ht : b.replay.Takes (min want b.limit) _ _ := Replay.read_takes hb.sound
    (Nat.lt_min.2 ⟨hw, Nat.pos_of_ne_zero hlim⟩)
  generalize hp : b.replay.read (min want b.limit) = p at ht
  obtain ⟨bs, r'⟩ := p
  have hrest : bs ++ r'.rest = B.extract k B.size := ht.prefix_rest.trans hb.rest
  have hle : bs.size ≤ b.limit := Nat.le_trans ht.bounded (Nat.min_le_right _ _)
  have hwant : bs.size ≤ want := Nat.le_trans ht.bounded (Nat.min_le_left _ _)
  have hpos : 0 < bs.size := ht.progress (by rw [hb.rest]; simp; omega)
  have hlen : bs.size + r'.rest.size = B.size - k := by
    have := congrArg ByteArray.size hrest
    simp only [ByteArray.size_append, ByteArray.size_extract] at this
    omega
  -- the bytes taken are the next ones of `B`, and what stays is the rest after them
  have hbs : bs = B.extract k (k + bs.size) := by
    have := congrArg (fun x => x.extract 0 bs.size) hrest
    simp only [ByteArray.extract_append_eq_left rfl, ByteArray.extract_extract] at this
    refine this.trans ?_
    congr 1
    all_goals omega
  have hrest' : r'.rest = B.extract (k + bs.size) B.size := by
    have := congrArg (fun x => x.extract bs.size (bs.size + r'.rest.size)) hrest
    simp only [ByteArray.extract_append_eq_right rfl rfl, ByteArray.extract_extract] at this
    refine this.trans ?_
    congr 1
    all_goals omega
  have hlimit := hb.limit
  refine ⟨bs.size, hpos, hwant, by omega, by omega, ?_, ?_⟩
  · simp only [read, hlim, if_false, hp]
    exact hbs
  · simp only [read, hlim, if_false, hp]
    exact ⟨ht.sound, hrest', show b.limit - bs.size = n - (k + bs.size) by omega, by omega,
      by omega⟩

theorem read_nothing (hb : b.Holds B n k) (h : k = n ∨ k = B.size ∨ want = 0) :
    (b.read want).1 = ByteArray.empty ∧ (b.read want).2.Holds B n k := by
  by_cases hlim : b.limit = 0
  · rw [show b.read want = (ByteArray.empty, b) by simp [read, hlim]]
    exact ⟨rfl, hb⟩
  -- short of the cut, the replay has nothing left or is asked for nothing
  have hnone : b.replay.rest.size = 0 ∨ min want b.limit = 0 := by
    rcases h with h | h | h
    · exact absurd (by rw [hb.limit, h, Nat.sub_self]) hlim
    · exact .inl (by simp [hb.rest, h])
    · exact .inr (by simp [h])
  obtain ⟨h₁, h₂, h₃⟩ := Replay.read_nothing hb.sound hnone
  generalize hp : b.replay.read (min want b.limit) = p at h₁ h₂ h₃
  obtain ⟨bs, r'⟩ := p
  dsimp only at h₁ h₂ h₃
  subst h₁
  rw [show b.read want = (ByteArray.empty, ⟨r', b.limit⟩) by simp [read, hlim, hp]]
  exact ⟨rfl, h₃, h₂.trans hb.rest, hb.limit, hb.le, hb.le_size⟩

theorem read_at_end (hb : b.At B n n) : b.read want = (ByteArray.empty, b) := by
  simp [read, hb.limit]

/-- Before its end a body yields the next bytes of `B`, at least one and at most those asked for
and those left. -/
theorem read_at (hb : b.At B n k) (hk : k < n) (hw : 0 < want) :
    ∃ m, 0 < m ∧ m ≤ want ∧ (b.read want).1 = B.extract k (k + m) ∧
      (b.read want).2.At B n (k + m) := by
  obtain ⟨m, hm, hmw, hmn, -, hbs, hb'⟩ := read_next hb.holds hk (by have := hb.within; omega) hw
  exact ⟨m, hm, hmw, hbs, hb'.at hb.within⟩

end Body

theorem sniff_declared {declared : Nat} {bs : ByteArray} {info : ImageInfo}
    (h : sniff declared bs = .ok info) : info.declaredSize = declared := by
  unfold sniff at h
  split at h
  · cases h
  · split at h <;> (cases h; rfl)

theorem sniff_ok {declared : Nat} {bs : ByteArray} (h : qcowHeaderLength ≤ bs.size) :
    ∃ info, sniff declared bs = .ok info := by
  unfold sniff
  rw [if_neg (Nat.not_lt.2 h)]
  split <;> exact ⟨_, rfl⟩

/-- Reading ahead the header of a sound stream at its start takes its first bytes and replays
them in front of the rest; the body of the declared size then yields the stream from its start. -/
theorem peekImage_replay {s : ImageSource} (h0 : s.position = 0)
    (hsize : qcowHeaderLength ≤ s.bytes.size) (declared : Nat) :
    peekImage s declared = (sniff declared (s.bytes.extract 0 qcowHeaderLength)).map fun info =>
      (info, { ahead := s.bytes.extract 0 qcowHeaderLength,
               source := { s with position := qcowHeaderLength } }) := by
  have hfill := ImageSource.fill_prefix (qcowHeaderLength + 1) s (by omega) hsize (by omega)
  rw [h0] at hfill
  simp only [peekImage, ByteArray.extract_same] at hfill ⊢
  rw [hfill]
  cases sniff declared (s.bytes.extract 0 qcowHeaderLength) <;> rfl

/-- The body of a stream read ahead from its start yields the stream from its start, whatever
size it is cut off at. -/
theorem Body.holds_start {s : ImageSource} (hsize : qcowHeaderLength ≤ s.bytes.size) (n : Nat) :
    Body.Holds ⟨{ ahead := s.bytes.extract 0 qcowHeaderLength,
                  source := { s with position := qcowHeaderLength } }, n⟩ s.bytes n 0 where
  sound := ⟨hsize⟩
  rest := by
    simp only [Replay.rest, ImageSource.rest, Bool.false_eq_true, if_false,
      ByteArray.extract_zero_size]
    rw [ByteArray.extract_append_extract, Nat.min_eq_left (Nat.zero_le _), Nat.max_eq_right hsize,
      ByteArray.extract_zero_size]
  limit := rfl
  le := Nat.zero_le n
  le_size := Nat.zero_le _

theorem Body.at_start {s : ImageSource} (hsize : qcowHeaderLength ≤ s.bytes.size) {n : Nat}
    (hn : n ≤ s.bytes.size) :
    Body.At ⟨{ ahead := s.bytes.extract 0 qcowHeaderLength,
               source := { s with position := qcowHeaderLength } }, n⟩ s.bytes n 0 :=
  (Body.holds_start hsize n).at hn

end DiskUploader
